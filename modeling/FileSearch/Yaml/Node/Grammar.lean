import FileSearch.Yaml.Node
import FileSearch.Yaml.Token.Scan

/-!
# Nodes from tokens

The grammar of nodes over tokens. A node may be left out where its place is clear; a
name is given to a node once, and before it is referred to. A text holds one document.
-/

set_option autoImplicit false

namespace FileSearch.Yaml.Node

inductive Stop where
  | malformed (cause : Malformation)
  /-- There are no more tokens. -/
  | exhausted
  deriving DecidableEq, Repr

structure Reading where
  tokens : List Token
  /-- What tags with a handle begin with. -/
  handles : List (String × String) := []
  anchors : List (String × Node) := []

abbrev Read (α : Type) := StateT Reading (Except Stop) α

def fail {α : Type} (cause : Malformation) : Read α := throw (.malformed cause)

def peek : Read Token := do
  match (← get).tokens with
  | [] => throw .exhausted
  | t :: _ => return t

def drop : Read Unit := modify fun r => { r with tokens := r.tokens.tail }

def accept (t : Token) : Read Bool := do
  if (← peek) = t then
    drop
    return true
  else return false

def expect (t : Token) : Read Unit := do
  if !(← accept t) then fail .unexpectedToken

structure Properties where
  anchor : Option String := none
  /-- The text of the tag. -/
  tag : Option String := none

def anchor? : Read (Option String) := do
  match ← peek with
  | .anchor name =>
    drop
    return some name
  | _ => return none

def tag? : Read (Option String) := do
  match ← peek with
  | .tag none suffix =>
    drop
    return some suffix
  | .tag (some handle) suffix =>
    drop
    match (← get).handles.lookup handle with
    | some start => return some (start ++ suffix)
    | none => fail .unknownHandle
  | _ => return none

def properties : Read Properties := do
  match ← anchor? with
  | some name => return { anchor := some name, tag := ← tag? }
  | none =>
    let tag ← tag?
    if tag.isSome then return { anchor := ← anchor?, tag }
    else return {}

def isOpen (tag : Option String) : Bool := tag.isNone || tag = some "!"

def kindOr (kind : Tag) (tag : Option String) : Tag :=
  if isOpen tag then kind else (tag.map Tag.ofText).getD kind

def scalarKind (isPlain : Bool) (text : List Char) (tag : Option String) : Tag :=
  kindOr (if isPlain || tag = some "!" then Tag.ofPlain text else .text) tag

def bind (anchor : Option String) (node : Node) : Read Unit :=
  match anchor with
  | none => pure ()
  | some name => modify fun r => { r with anchors := (name, node) :: r.anchors }

/-- Names a node that is still to be read. A reference from inside to it stands for an
empty node of its kind. -/
def announce (anchor : Option String) (node : Node) : Read Unit := do
  match anchor with
  | none => return
  | some name =>
    if ((← get).anchors.lookup name).isSome then fail .repeatedAnchor
    bind anchor node

def reference (name : String) : Read Node := do
  match (← get).anchors.lookup name with
  | some node => return node
  | none => fail .unknownAnchor

def endsEntry (t : Token) : Bool := t = .entry || t = .blockEnd

def endsIndentless (t : Token) : Bool :=
  t = .entry || t = .key || t = .value || t = .blockEnd

def endsBlockPart (t : Token) : Bool := t = .key || t = .value || t = .blockEnd

def endsBracketKey (t : Token) : Bool := t = .value || t = .comma || t = .closeBracket

def endsBracketPart (t : Token) : Bool := t = .comma || t = .closeBracket

def endsBraceKey (t : Token) : Bool := t = .value || t = .comma || t = .closeBrace

def endsBracePart (t : Token) : Bool := t = .comma || t = .closeBrace

mutual

def node (inBlock indentless : Bool) : Nat → Read Node
  | 0 => fail .unexpectedToken
  | n + 1 => do
    match ← peek with
    | .reference name =>
      drop
      reference name
    | _ =>
      let p ← properties
      match ← peek with
      | .scalar isPlain text =>
        drop
        let found := Node.scalar (scalarKind isPlain text p.tag) text
        announce p.anchor found
        return found
      | .openBracket =>
        drop
        let kind := kindOr .list p.tag
        announce p.anchor (.sequence kind [])
        let found := Node.sequence kind (← bracketItems true n)
        bind p.anchor found
        return found
      | .openBrace =>
        drop
        let kind := kindOr .mapping p.tag
        announce p.anchor (.mapping kind [])
        let found := Node.mapping kind (← braceEntries true n)
        bind p.anchor found
        return found
      | t =>
        if t = .entry && indentless then
          let kind := kindOr .list p.tag
          announce p.anchor (.sequence kind [])
          let found := Node.sequence kind (← indentlessItems n)
          bind p.anchor found
          return found
        else if t = .blockSequence && inBlock then
          drop
          let kind := kindOr .list p.tag
          announce p.anchor (.sequence kind [])
          let found := Node.sequence kind (← blockItems n)
          bind p.anchor found
          return found
        else if t = .blockMapping && inBlock then
          drop
          let kind := kindOr .mapping p.tag
          announce p.anchor (.mapping kind [])
          let found := Node.mapping kind (← blockEntries n)
          bind p.anchor found
          return found
        else if p.anchor.isSome || p.tag.isSome then
          let found := Node.scalar (kindOr .null p.tag) []
          announce p.anchor found
          return found
        else fail .unexpectedToken

def nodeUnless (ends : Token → Bool) (inBlock indentless : Bool) : Nat → Read Node
  | 0 => fail .unexpectedToken
  | n + 1 => do
    if ends (← peek) then return empty
    else node inBlock indentless n

def blockItems : Nat → Read (List Node)
  | 0 => fail .unexpectedToken
  | n + 1 => do
    if ← accept .entry then
      let item ← nodeUnless endsEntry true false n
      return item :: (← blockItems n)
    else
      expect .blockEnd
      return []

def indentlessItems : Nat → Read (List Node)
  | 0 => fail .unexpectedToken
  | n + 1 => do
    if ← accept .entry then
      let item ← nodeUnless endsIndentless true false n
      return item :: (← indentlessItems n)
    else return []

def valueUnless (ends : Token → Bool) (inBlock : Bool) : Nat → Read Node
  | 0 => fail .unexpectedToken
  | n + 1 => do
    if ← accept .value then nodeUnless ends inBlock inBlock n
    else return empty

def blockEntries : Nat → Read (List (Node × Node))
  | 0 => fail .unexpectedToken
  | n + 1 => do
    if ← accept .key then
      let key ← nodeUnless endsBlockPart true true n
      let value ← valueUnless endsBlockPart true n
      return (key, value) :: (← blockEntries n)
    else if (← peek) = .blockEnd then
      drop
      return []
    else fail .unexpectedToken

def bracketItems (isFirst : Bool) : Nat → Read (List Node)
  | 0 => fail .unexpectedToken
  | n + 1 => do
    if ← accept .closeBracket then return []
    else
      if !isFirst then expect .comma
      if ← accept .key then
        let key ← nodeUnless endsBracketKey false false n
        let value ← valueUnless endsBracketPart false n
        return .mapping .mapping [(key, value)] :: (← bracketItems false n)
      else if ← accept .closeBracket then return []
      else
        let item ← node false false n
        return item :: (← bracketItems false n)

def braceEntries (isFirst : Bool) : Nat → Read (List (Node × Node))
  | 0 => fail .unexpectedToken
  | n + 1 => do
    if ← accept .closeBrace then return []
    else
      if !isFirst then expect .comma
      if ← accept .key then
        let key ← nodeUnless endsBraceKey false false n
        let value ← valueUnless endsBracePart false n
        return (key, value) :: (← braceEntries false n)
      else if ← accept .closeBrace then return []
      else
        let key ← node false false n
        return (key, empty) :: (← braceEntries false n)

end

def standardHandles : List (String × String) := [("!", "!"), ("!!", Tag.standard)]

def directives (hasVersion : Bool) (handles : List (String × String)) :
    Nat → Read (List (String × String))
  | 0 => fail .unexpectedToken
  | n + 1 => do
    match ← peek with
    | .directive (.version major) =>
      drop
      if hasVersion then fail .repeatedDirective
      else if major != 1 then fail .unknownVersion
      else directives true handles n
    | .directive (.handle handle start) =>
      drop
      if (handles.lookup handle).isSome then fail .repeatedDirective
      else directives hasVersion ((handle, start) :: handles) n
    | .directive .other =>
      drop
      directives hasVersion handles n
    | _ => return handles

def isDirective : Token → Bool
  | .directive _ => true
  | _ => false

def endsDocument (t : Token) : Bool :=
  isDirective t || t = .documentStart || t = .documentEnd || t = .finish

def skipEnds : Nat → Read Unit
  | 0 => return
  | n + 1 => do if ← accept .documentEnd then skipEnds n

def document (bound : Nat) : Read (Option Node) := do
  let first ← peek
  if first = .finish then return none
  let isExplicit := isDirective first || first = .documentStart
  let handles ← directives false [] bound
  modify fun r => { r with handles := handles ++ standardHandles }
  if isExplicit then expect .documentStart
  let root ←
    if isExplicit then nodeUnless endsDocument true false bound
    else node true false bound
  skipEnds bound
  if (← peek) = .finish then return some root
  else fail .secondDocument

def ofTokens (tokens : List Token) : Except Stop (Option Node) :=
  (document (4 * tokens.length + 8)).run' { tokens }

end FileSearch.Yaml.Node
