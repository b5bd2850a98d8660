/-!
# A place in a settings text

A cursor is what is left of a text and the line and column where it begins. Columns
decide about the nesting of blocks, so a cursor moves only by whole characters and line
ends.
-/

set_option autoImplicit false

namespace FileSearch.Yaml

structure Cursor where
  rest : List Char
  /-- The number of characters before. -/
  index : Nat := 0
  line : Nat := 0
  column : Nat := 0
  deriving Repr

def finalChar : Char := '\x00'

def isBreak (c : Char) : Bool :=
  c = '\n' || c = '\r' || c = '\u0085' || c = '\u2028' || c = '\u2029'

def endsLine (c : Char) : Bool := isBreak c || c = finalChar

def endsToken (c : Char) : Bool := endsLine c || c = ' '

def endsWord (c : Char) : Bool := endsToken c || c = '\t'

def isNameChar (c : Char) : Bool := c.isAlphanum || c = '-' || c = '_'

namespace Cursor

def peek (c : Cursor) : Char := c.rest.head?.getD finalChar

def ahead (c : Cursor) (n : Nat) : Char := (c.rest[n]?).getD finalChar

def atEnd (c : Cursor) : Bool := c.rest.isEmpty

def endsLineHere (ch : Char) (rest : List Char) : Bool :=
  isBreak ch && !(ch = '\r' && rest.head? = some '\n')

def step (c : Cursor) : Cursor :=
  match c.rest with
  | [] => c
  | ch :: rest =>
    if endsLineHere ch rest then ⟨rest, c.index + 1, c.line + 1, 0⟩
    else ⟨rest, c.index + 1, c.line, if ch = '\ufeff' then c.column else c.column + 1⟩

def advance : Nat → Cursor → Cursor
  | 0, c => c
  | n + 1, c => advance n c.step

def span (p : Char → Bool) (c : Cursor) : List Char × Cursor :=
  let found := c.rest.takeWhile p
  (found, c.advance found.length)

def skip (p : Char → Bool) (c : Cursor) : Cursor := (c.span p).2

def skipSpaces (c : Cursor) : Cursor := c.skip (· = ' ')

def lineBreak (c : Cursor) : List Char × Cursor :=
  match c.rest with
  | '\r' :: '\n' :: _ => (['\n'], c.advance 2)
  | ch :: _ =>
    if ch = '\u2028' || ch = '\u2029' then ([ch], c.step)
    else if isBreak ch then (['\n'], c.step)
    else ([], c)
  | [] => ([], c)

def isDocumentMark (c : Cursor) : Bool :=
  (c.rest.take 3 = ['-', '-', '-'] || c.rest.take 3 = ['.', '.', '.']) && endsWord (c.ahead 3)

end Cursor

end FileSearch.Yaml
