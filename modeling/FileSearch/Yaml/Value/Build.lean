import FileSearch.Yaml.Node
import FileSearch.Yaml.Value
import FileSearch.Json.Printer

/-!
# Values from nodes

A tree of nodes is turned into values from the root down, level by level; of several
faults the one of the highest level is reported, and of one level the first. Keys are
scalars. Equal keys count once, with the last value in the place of the first.
-/

set_option autoImplicit false

namespace FileSearch.Yaml.Value

structure Flaw where
  level : Nat
  fault : Fault
  deriving DecidableEq, Repr

abbrev Built (α : Type) := Except Flaw α

def malformed {α : Type} (level : Nat) (cause : Malformation) : Built α :=
  .error ⟨level, .malformed cause⟩

def both {α β : Type} (a : Built α) (b : Built β) : Built (α × β) :=
  match a, b with
  | .ok a, .ok b => .ok (a, b)
  | .error e, .ok _ => .error e
  | .ok _, .error e => .error e
  | .error e, .error f => .error (if f.level < e.level then f else e)

def every {α : Type} : List (Built α) → Built (List α)
  | [] => .ok []
  | r :: rest => (both r (every rest)).map fun (a, more) => a :: more

mutual

/-- The entries of a mapping, those it merges first. Later entries win over earlier
ones, so its own win over merged ones. -/
def merged : List (Node × Node) → Except Malformation (List (Node × Node) × List (Node × Node))
  | [] => .ok ([], [])
  | entry :: entries => do
    let (below, own) ← mergedEntry entry
    let (moreBelow, moreOwn) ← merged entries
    .ok (below ++ moreBelow, own ++ moreOwn)

def mergedEntry : Node × Node → Except Malformation (List (Node × Node) × List (Node × Node))
  | (key, value) =>
    if key.tag = .merge then do .ok (← mergedValue value, [])
    else .ok ([], [(key, value)])

def mergedValue : Node → Except Malformation (List (Node × Node))
  | .mapping _ entries => do
    let (below, own) ← merged entries
    .ok (below ++ own)
  | .sequence _ items => mergedItems items
  | .scalar _ _ => .error .merge

def mergedItems : List Node → Except Malformation (List (Node × Node))
  | [] => .ok []
  | .mapping _ entries :: items => do
    let (below, own) ← merged entries
    let more ← mergedItems items
    .ok (more ++ below ++ own)
  | _ :: _ => .error .merge

end

def flattened (entries : List (Node × Node)) : Except Malformation (List (Node × Node)) := do
  let (below, own) ← merged entries
  .ok (below ++ own)

inductive KeyIdentity where
  | null
  | int (value : Int)
  | real (value : Decimal.Binary64)
  | text (text : String)
  | other (text : String)
  deriving DecidableEq

structure Key where
  identity : KeyIdentity
  /-- The key as text. -/
  shown : String

def keyOf (source : List Char) : Value → Option Key
  | .null => some ⟨.null, "null"⟩
  | .bool b => some ⟨.int (if b then 1 else 0), if b then "true" else "false"⟩
  | .int n => some ⟨.int n, toString n⟩
  | .real x => some ⟨x.toInt?.elim (.real x) .int, String.ofList (Json.printReal x)⟩
  | .text s => some ⟨.text s, s⟩
  | .other _ => some ⟨.other (String.ofList source), String.ofList source⟩
  | .list _ => none
  | .mapping _ => none

def setKey (key : Key) (value : Value) : List (Key × Value) → List (Key × Value)
  | [] => [(key, value)]
  | (k, v) :: entries =>
    if k.identity = key.identity then (k, value) :: entries else (k, v) :: setKey key value entries

def ofKeyed (entries : List (Key × Value)) : Entries :=
  (entries.foldl (fun done e => setKey e.1 e.2 done) []).map fun e => (e.1.shown, e.2)

mutual

def scalarText (level : Nat) : Node → Built (List Char)
  | .scalar _ content => .ok content
  | .sequence _ _ => malformed level .wrongNode
  | .mapping _ entries => defaultText level entries

def defaultText (level : Nat) : List (Node × Node) → Built (List Char)
  | [] => malformed level .wrongNode
  | entry :: entries =>
    match entryText level entry with
    | some result => result
    | none => defaultText level entries

def entryText (level : Nat) : Node × Node → Option (Built (List Char))
  | (key, value) => if key.tag = .default then some (scalarText level value) else none

end

def boolean (content : List Char) : Except BadValue Bool :=
  let word := String.ofList (Text.lower content)
  if word ∈ Tag.trueWords then .ok true
  else if word ∈ Tag.falseWords then .ok false
  else .error (.boolean word)

def time (content : List Char) : Except BadValue Unit :=
  match Time.parse? content with
  | some t => t.check
  | none => .error .time

def isBase64 (c : Char) : Bool := c.isAlphanum || c = '+' || c = '/'

def isWholeBinary (content : List Char) : Bool :=
  let body := content.takeWhile (· != '=')
  let digits := (body.filter isBase64).length % 4
  let fill := ((content.dropWhile (· != '=')).filter (· = '=')).length
  digits = 0 || (digits = 2 && 2 ≤ fill) || (digits = 3 && 1 ≤ fill)

def binary (content : List Char) : Except Fault Value :=
  if isWholeBinary content && content.all (·.toNat < 0x80) then
    .ok (.other !(content.any isBase64))
  else .error (.malformed .binary)

def scalarReader? : Tag → Option (List Char → Except Fault Value)
  | .null => some fun _ => .ok .null
  | .boolean => some fun s => ((boolean s).map .bool).mapError .badValue
  | .integer => some fun s => ((Number.integer s).map .int).mapError .badValue
  | .real => some fun s => ((Number.real s).map .real).mapError .badValue
  | .time => some fun s => ((time s).map fun _ => .other false).mapError .badValue
  | .text => some fun s => .ok (.text (String.ofList s))
  | .binary => some binary
  | _ => none

def sourceText : Node → List Char
  | .scalar _ content => content
  | _ => []

def isCompound (kind : Tag) : Bool :=
  kind ∈ [Tag.list, .mapping, .set, .orderedMapping, .pairs]

def plainKey : Node → Node
  | .scalar .default content => .scalar .text content
  | key => key

mutual

def ofNode : Nat → Nat → Node → Built Value
  | 0, level, _ => malformed level .unknownTag
  | n + 1, level, node =>
    match node.tag with
    | .list =>
      match node with
      | .sequence _ items =>
        (every (items.map (ofNode n (level + 1)))).map .list
      | _ => malformed (level + 1) .wrongNode
    | .mapping =>
      match node with
      | .mapping _ entries => (ofEntries n level entries).map fun e => .mapping (ofKeyed e)
      | _ => malformed (level + 1) .wrongNode
    | .set =>
      match node with
      | .mapping _ entries => (ofEntries n level entries).map fun e => .other e.isEmpty
      | _ => malformed (level + 1) .wrongNode
    | .orderedMapping => ofPairs n level node
    | .pairs => ofPairs n level node
    | kind =>
      match scalarReader? kind with
      | none => malformed level .unknownTag
      | some read =>
        match scalarText level node with
        | .error flaw => .error flaw
        | .ok content => (read content).mapError fun fault => ⟨level, fault⟩

def ofEntries : Nat → Nat → List (Node × Node) → Built (List (Key × Value))
  | 0, level, _ => malformed level .unknownTag
  | n + 1, level, entries =>
    match flattened entries with
    | .error cause => malformed (level + 1) cause
    | .ok entries =>
      every (entries.map fun e =>
        both (ofKey n (level + 1) (plainKey e.1)) (ofNode n (level + 1) e.2))

def ofKey : Nat → Nat → Node → Built Key
  | 0, level, _ => malformed level .unknownTag
  | n + 1, level, node =>
    if isCompound node.tag then malformed level .compoundKey
    else
      match ofNode n level node with
      | .error flaw => .error flaw
      | .ok value =>
        match keyOf (sourceText node) value with
        | some key => .ok key
        | none => malformed level .compoundKey

def ofPairs : Nat → Nat → Node → Built Value
  | 0, level, _ => malformed level .unknownTag
  | n + 1, level, node =>
    match node with
    | .sequence _ items =>
      (every (items.map fun item =>
        match item with
        | .mapping _ [(key, value)] =>
          (both (ofNode n (level + 1) key) (ofNode n (level + 1) value)).map fun (k, v) =>
            Value.list [k, v]
        | _ => malformed (level + 1) .wrongNode)).map .list
    | _ => malformed (level + 1) .wrongNode

end

def ofTree (root : Node) : Except Fault Value :=
  (ofNode (3 * root.height + 3) 0 root).mapError (·.fault)

end FileSearch.Yaml.Value
