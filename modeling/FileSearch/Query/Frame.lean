import FileSearch.Query.Token

/-!
# Building a query tree

Tokens are read into the group they stand in; groups around it wait on a stack. An
explicit operator rebinds the group read so far, so operators bind from the left and
none before another. Reading never fails: a group left open ends with the text, and
text behind a closing parenthesis that closes nothing is not read.
-/

set_option autoImplicit false

namespace FileSearch.Query

structure Frame where
  operator : Connective := .and
  children : List Tree := []
  /-- A negation is waiting for the next word. -/
  negating : Bool := false

namespace Frame

def group (f : Frame) : Tree := .group f.operator.operator f.children

def append (f : Frame) (t : Tree) : Frame := { f with children := f.children ++ [t] }

def rebind (f : Frame) (op : Connective) : Frame :=
  if f.operator = op then f
  else
    { f with
      operator := op
      children := if f.children.length ≤ 1 then f.children else [f.group] }

def word (f : Frame) (chars : List Char) : Frame :=
  let leaf := if f.negating then .group .not [.term chars] else .term chars
  { f.append leaf with negating := false }

/-- A separator ends a group of alternatives: what follows is combined with all of it. -/
def separate (f : Frame) : Frame :=
  if f.operator ≠ .and ∧ 1 < f.children.length then
    { f with operator := .and, children := [f.group] }
  else f

def read (f : Frame) : Token → Frame
  | .not => { f with negating := true }
  | .connective op => f.rebind op
  | .word chars => f.word chars
  | .separator _ => f.separate
  | .opening => f
  | .closing => f

end Frame

def closeAll (f : Frame) : List Frame → Tree
  | [] => f.group
  | parent :: parents => closeAll (parent.append f.group) parents

def build (f : Frame) (parents : List Frame) : List Token → Tree
  | [] => closeAll f parents
  | .opening :: tokens => build {} (f :: parents) tokens
  | .closing :: tokens =>
    match parents with
    | [] => f.group
    | parent :: parents => build (parent.append f.group) parents tokens
  | token :: tokens => build (f.read token) parents tokens

def parseChars (s : List Char) : Tree := build {} [] (Token.scan s)

def parse (query : String) : Tree := parseChars query.toList

end FileSearch.Query
