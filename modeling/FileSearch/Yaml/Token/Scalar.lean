import FileSearch.Yaml.Cursor
import FileSearch.Yaml.Fault
import FileSearch.Yaml.Token

/-!
# Scalars

A scalar is written plainly, between quotes, or as a block of indented lines. Line ends
inside plain and quoted scalars fold: a single one becomes a space, of several the first
is dropped.
-/

set_option autoImplicit false

namespace FileSearch.Yaml.Scalar

abbrev Piece := List Char × Cursor

def malformed {α : Type} (cause : Malformation) : Except Fault α := .error (.malformed cause)

def folded (lineBreak breaks : List Char) : List Char :=
  if lineBreak != ['\n'] then lineBreak ++ breaks
  else if breaks.isEmpty then [' ']
  else breaks

def isFlowMark (c : Char) : Bool := c ∈ [',', '[', ']', '{', '}']

def endsPlain (inFlow : Bool) (rest : List Char) : Bool :=
  match rest with
  | [] => true
  | c :: more =>
    let next := more.head?.getD finalChar
    endsWord c || (c = ':' && (endsWord next || (inFlow && isFlowMark next))) ||
      (inFlow && (isFlowMark c || c = '?'))

def plainLength (inFlow : Bool) : List Char → Nat
  | [] => 0
  | c :: rest => if endsPlain inFlow (c :: rest) then 0 else plainLength inFlow rest + 1

def plainBreaks : Nat → Cursor → List Char × Bool × Cursor
  | 0, c => ([], false, c)
  | n + 1, c =>
    if c.peek = ' ' then plainBreaks n c.step
    else if isBreak c.peek then
      let (found, next) := c.lineBreak
      if next.isDocumentMark then (found, true, next)
      else
        let (more, isMark, last) := plainBreaks n next
        (found ++ more, isMark, last)
    else ([], false, c)

structure Gap where
  text : List Char
  crossesLine : Bool
  cursor : Cursor

def plainGap (c : Cursor) : Gap :=
  let (spaces, next) := c.span (· = ' ')
  if isBreak next.peek then
    let (first, below) := next.lineBreak
    if below.isDocumentMark then ⟨[], true, below⟩
    else
      let (breaks, isMark, last) := plainBreaks below.rest.length below
      ⟨if isMark then [] else folded first breaks, true, last⟩
  else ⟨spaces, false, next⟩

def plainWords (inFlow : Bool) (indent : Int) : Nat → List Char → Bool → Cursor →
    List Char × Bool × Cursor
  | 0, _, crossed, c => ([], crossed, c)
  | n + 1, gap, crossed, c =>
    let length := plainLength inFlow c.rest
    if c.peek = '#' || length = 0 then ([], crossed, c)
    else
      let word := c.rest.take length
      let next := plainGap (c.advance length)
      if next.text.isEmpty || next.cursor.peek = '#' ||
          (!inFlow && (next.cursor.column : Int) < indent) then
        (gap ++ word, next.crossesLine, next.cursor)
      else
        let (more, crossed, last) :=
          plainWords inFlow indent n next.text next.crossesLine next.cursor
        (gap ++ word ++ more, crossed, last)

def plain (inFlow : Bool) (indent : Int) (c : Cursor) : List Char × Bool × Cursor :=
  plainWords inFlow indent c.rest.length [] false c

def escapes : List (Char × Char) :=
  [('0', '\x00'), ('a', '\x07'), ('b', '\x08'), ('t', '\t'), ('\t', '\t'), ('n', '\n'),
   ('v', '\x0b'), ('f', '\x0c'), ('r', '\r'), ('e', '\x1b'), (' ', ' '), ('"', '"'),
   ('\\', '\\'), ('/', '/'), ('N', '\u0085'), ('_', '\u00a0'), ('L', '\u2028'), ('P', '\u2029')]

def codeWidth? (c : Char) : Option Nat :=
  match c with
  | 'x' => some 2
  | 'u' => some 4
  | 'U' => some 8
  | _ => none

def hexValue? (c : Char) : Option Nat :=
  if c.isDigit then some (c.toNat - '0'.toNat)
  else if 'a' ≤ c ∧ c ≤ 'f' then some (c.toNat - 'a'.toNat + 10)
  else if 'A' ≤ c ∧ c ≤ 'F' then some (c.toNat - 'A'.toNat + 10)
  else none

def hexNumber? (digits : List Char) : Option Nat :=
  digits.foldlM (fun n c => (hexValue? c).map (16 * n + ·)) 0

def coded (code : Nat) : Except Fault Char :=
  if 0x80000000 ≤ code then .error (.badValue .codeBeyondWord)
  else if 0x110000 ≤ code then .error (.badValue .codeTooLarge)
  else if 0xD800 ≤ code ∧ code < 0xE000 then .ok '\ufffd'
  else .ok (Char.ofNat code)

def quotedBreaks : Nat → Cursor → Except Fault Piece
  | 0, c => .ok ([], c)
  | n + 1, c =>
    if c.isDocumentMark then malformed .openQuote
    else
      let next := c.skip fun ch => ch = ' ' || ch = '\t'
      if isBreak next.peek then do
        let (found, below) := next.lineBreak
        let (more, last) ← quotedBreaks n below
        .ok (found ++ more, last)
      else .ok ([], next)

def quotedBreaksFrom (c : Cursor) : Except Fault Piece := quotedBreaks (c.rest.length + 1) c

def escape (c : Cursor) : Except Fault Piece :=
  match escapes.lookup c.peek with
  | some ch => .ok ([ch], c.step)
  | none =>
    match codeWidth? c.peek with
    | some width => do
      let digits := c.step.rest.take width
      match hexNumber? digits with
      | some code =>
        if digits.length < width then malformed .escape
        else .ok ([← coded code], c.step.advance width)
      | none => malformed .escape
    | none =>
      if isBreak c.peek then quotedBreaksFrom c.lineBreak.2
      else malformed .escape

def quotedBlanks (c : Cursor) : Except Fault Piece := do
  let (blanks, next) := c.span fun ch => ch = ' ' || ch = '\t'
  if next.atEnd then malformed .openQuote
  else if isBreak next.peek then
    let (first, below) := next.lineBreak
    let (breaks, last) ← quotedBreaksFrom below
    .ok (folded first breaks, last)
  else .ok (blanks, next)

def quotedText (isDouble : Bool) : Nat → Cursor → Except Fault Piece
  | 0, _ => malformed .openQuote
  | n + 1, c =>
    let ch := c.peek
    if c.atEnd then malformed .openQuote
    else if !isDouble && ch = '\'' && c.ahead 1 = '\'' then do
      let (more, last) ← quotedText isDouble n (c.advance 2)
      .ok ('\'' :: more, last)
    else if ch = (if isDouble then '"' else '\'') then .ok ([], c.step)
    else do
      let (piece, next) ←
        if isDouble && ch = '\\' then escape c.step
        else if endsWord ch then quotedBlanks c
        else .ok ([ch], c.step)
      let (more, last) ← quotedText isDouble n next
      .ok (piece ++ more, last)

def quoted (isDouble : Bool) (c : Cursor) : Except Fault Piece :=
  quotedText isDouble c.rest.length c.step

inductive Chomp where
  | strip
  | clip
  | keep
  deriving DecidableEq, Repr

structure Header where
  chomp : Chomp := .clip
  increment : Option Nat := none

def chomp? (c : Char) : Option Chomp :=
  match c with
  | '+' => some .keep
  | '-' => some .strip
  | _ => none

def increment? (c : Char) : Option Nat :=
  if c.isDigit then some (c.toNat - '0'.toNat) else none

def header (c : Cursor) : Except Fault (Header × Cursor) := do
  let (h, next) : Header × Cursor :=
    match chomp? c.peek, increment? c.peek with
    | some chomp, _ =>
      match increment? c.step.peek with
      | some n => (⟨chomp, some n⟩, c.advance 2)
      | none => (⟨chomp, none⟩, c.step)
    | none, some n =>
      match chomp? c.step.peek with
      | some chomp => (⟨chomp, some n⟩, c.advance 2)
      | none => (⟨.clip, some n⟩, c.step)
    | none, none => ({}, c)
  if h.increment = some 0 || !endsToken next.peek then malformed .blockHeader
  else .ok (h, next)

def ignoredLine (cause : Malformation) (c : Cursor) : Except Fault Cursor :=
  let next := c.skipSpaces
  let next := if next.peek = '#' then next.skip (!isBreak ·) else next
  if endsLine next.peek then .ok next.lineBreak.2 else malformed cause

def leadingBreaks : Nat → Nat → Cursor → List Char × Nat × Cursor
  | 0, widest, c => ([], widest, c)
  | n + 1, widest, c =>
    if c.peek = ' ' then leadingBreaks n (max widest c.step.column) c.step
    else if isBreak c.peek then
      let (found, next) := c.lineBreak
      let (more, widest, last) := leadingBreaks n widest next
      (found ++ more, widest, last)
    else ([], widest, c)

def indentTo (column : Nat) : Nat → Cursor → Cursor
  | 0, c => c
  | n + 1, c => if c.column < column && c.peek = ' ' then indentTo column n c.step else c

def innerBreaks (column : Nat) : Nat → Cursor → Piece
  | 0, c => ([], c)
  | n + 1, c =>
    let next := indentTo column column c
    if isBreak next.peek then
      let (found, below) := next.lineBreak
      let (more, last) := innerBreaks column n below
      (found ++ more, last)
    else ([], next)

def isIndent (c : Char) : Bool := c = ' ' || c = '\t'

/-- The lines of a block at a column. In a folded block, a line end between two lines
that do not begin with a blank becomes a space, or nothing before empty lines. The last
line end and the empty lines at the end are left to the chomping. -/
def blockLines (isFolded : Bool) (chomp : Chomp) (column : Nat) :
    Nat → List Char → Cursor → Piece
  | 0, _, c => ([], c)
  | n + 1, breaks, c =>
    let (line, behind) := c.span (!isBreak ·)
    let (ending, below) := behind.lineBreak
    let (more, next) := innerBreaks column (below.rest.length + 1) below
    if next.column = column && !next.atEnd then
      let joint :=
        if isFolded && ending = ['\n'] && !isIndent c.peek && !isIndent next.peek then
          if more.isEmpty then [' '] else []
        else ending
      let (rest, last) := blockLines isFolded chomp column n more next
      (breaks ++ line ++ joint ++ rest, last)
    else
      let tail :=
        match chomp with
        | .strip => []
        | .clip => ending
        | .keep => ending ++ more
      (breaks ++ line ++ tail, next)

def block (isFolded : Bool) (indent : Int) (c : Cursor) : Except Fault Piece := do
  let (h, next) ← header c.step
  let body ← ignoredLine .blockHeader next
  let least := (max (indent + 1) 1).toNat
  let (breaks, column, start) : List Char × Nat × Cursor :=
    match h.increment with
    | some n =>
      let column := least + n - 1
      let (breaks, start) := innerBreaks column (body.rest.length + 1) body
      (breaks, column, start)
    | none =>
      let (breaks, widest, start) := leadingBreaks body.rest.length 0 body
      (breaks, max least widest, start)
  if start.column = column && !start.atEnd then
    .ok (blockLines isFolded h.chomp column (start.rest.length + 1) breaks start)
  else
    .ok (if h.chomp = .keep then breaks else [], start)

end FileSearch.Yaml.Scalar
