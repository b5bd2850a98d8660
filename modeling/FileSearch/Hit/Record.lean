import FileSearch.Hit

/-!
# Reading hit records

A result file holds records, or blocks of records as the search itself saves them. A
refusal names the first place that is at fault and what is wrong there.
-/

set_option autoImplicit false

namespace FileSearch.Hit

inductive Fault where
  | notObject
  | missing (field : String)
  | notString (field : String)
  | notInteger (field : String)
  | negative (field : String)
  | notList
  | hitsNotList
  deriving DecidableEq, Repr

structure Refusal where
  place : String
  fault : Fault
  deriving DecidableEq, Repr

def Refusal.message (r : Refusal) : String :=
  match r.fault with
  | .notObject => s!"{r.place} must be an object"
  | .missing field => s!"{r.place} is missing required field: {field}"
  | .notString field => s!"{r.place}.{field} must be a string"
  | .notInteger field => s!"{r.place}.{field} must be an integer"
  | .negative field => s!"{r.place}.{field} must not be negative"
  | .notList => s!"{r.place} must contain a JSON list"
  | .hitsNotList => s!"{r.place}.hits must be a list"

def required (fields : Json.Fields) (name : String) : Except Fault Json :=
  match fields.get? name with
  | some value => .ok value
  | none => .error (.missing name)

def string (name : String) : Json → Except Fault String
  | .text s => .ok s
  | _ => .error (.notString name)

def count (name : String) : Json → Except Fault Int
  | .int n => if n < 0 then .error (.negative name) else .ok n
  | _ => .error (.notInteger name)

def optional {α : Type} (fields : Json.Fields) (name : String) (default : α)
    (read : String → Json → Except Fault α) : Except Fault α :=
  match fields.get? name with
  | none => .ok default
  | some .null => .ok default
  | some value => read name value

def ofFields (fields : Json.Fields) : Except Fault Hit := do
  let hash ← required fields "hash"
  let size ← required fields "size"
  let hash ← string "hash" hash
  let size ← count "size" size
  let name ← optional fields "name" "" string
  let sources ← optional fields "sources" 0 count
  .ok { hash, size, name, sources, extra := fields.filter (!isCore ·.1) }

def ofJson : Json → Except Fault Hit
  | .object fields => ofFields fields
  | _ => .error .notObject

def readRecord (place : String) (record : Json) : Except Refusal Hit :=
  (ofJson record).mapError fun fault => ⟨place, fault⟩

def indexed (place : String) (i : Nat) : String := s!"{place}[{i}]"

def readRecords (place : String) (i : Nat) : List Json → Except Refusal (List Hit)
  | [] => .ok []
  | record :: records => do
    let hit ← readRecord (indexed place i) record
    let hits ← readRecords place (i + 1) records
    .ok (hit :: hits)

/-- An item that has hits is a block of records, any other is one record. -/
def readItem (place : String) (item : Json) : Except Refusal (List Hit) :=
  match item with
  | .object fields =>
    match Json.Fields.get? fields "hits" with
    | some (.list records) => readRecords (place ++ ".hits") 0 records
    | some _ => .error ⟨place, .hitsNotList⟩
    | none => (readRecord place item).map ([·])
  | _ => (readRecord place item).map ([·])

def readItems (place : String) (i : Nat) : List Json → Except Refusal (List Hit)
  | [] => .ok []
  | item :: items => do
    let hits ← readItem (indexed place i) item
    let more ← readItems place (i + 1) items
    .ok (hits ++ more)

def readDocument (place : String) : Json → Except Refusal (List Hit)
  | .list items => readItems place 0 items
  | _ => .error ⟨place, .notList⟩

end FileSearch.Hit
