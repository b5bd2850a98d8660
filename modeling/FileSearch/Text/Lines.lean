/-!
# Lines of a text

Two ways to cut a text: at every line boundary of Unicode, for display, and at line
feeds after the three line ends have been made one, for files and standard input.
-/

set_option autoImplicit false

namespace FileSearch.Text

def isLineBreak (c : Char) : Bool :=
  c ∈ ['\n', '\x0b', '\x0c', '\r', '\x1c', '\x1d', '\x1e', '\u0085', '\u2028', '\u2029']

def extendLine (c : Char) : List (List Char) → List (List Char)
  | [] => [[c]]
  | line :: rest => (c :: line) :: rest

def splitLines : List Char → List (List Char)
  | [] => []
  | '\r' :: '\n' :: s => [] :: splitLines s
  | c :: s => if isLineBreak c then [] :: splitLines s else extendLine c (splitLines s)

def unifyNewlines : List Char → List Char
  | [] => []
  | '\r' :: '\n' :: s => '\n' :: unifyNewlines s
  | '\r' :: s => '\n' :: unifyNewlines s
  | c :: s => c :: unifyNewlines s

def feedLines : List Char → List (List Char)
  | [] => []
  | '\n' :: s => [] :: feedLines s
  | c :: s => extendLine c (feedLines s)

end FileSearch.Text
