/-!
# Terminal sequences

Text for a reader that is no terminal loses its colour and cursor sequences.
-/

set_option autoImplicit false

namespace FileSearch.Text

def isSequenceParameter (c : Char) : Bool := c.isDigit || c = ';' || c = '?'

def afterSequence? (s : List Char) : Option (List Char) :=
  match s.dropWhile isSequenceParameter with
  | c :: rest => if c.isAlpha then some rest else none
  | [] => none

def plainWithin : Nat → List Char → List Char
  | 0, s => s
  | _ + 1, [] => []
  | n + 1, c :: s =>
    match c, s with
    | '\x1b', '[' :: rest =>
      match afterSequence? rest with
      | some rest => plainWithin n rest
      | none => c :: plainWithin n s
    | _, _ => c :: plainWithin n s

def withoutSequences (s : String) : String :=
  String.ofList (plainWithin s.length s.toList)

end FileSearch.Text
