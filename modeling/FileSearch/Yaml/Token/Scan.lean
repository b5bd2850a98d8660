import FileSearch.Yaml.Token.Property

/-!
# Cutting a text into tokens

A token is a key only if a colon follows it on its line. Each place where a key may
begin is therefore remembered as a candidate; when the colon comes, the tokens that mark
the key are put in front of it. Outside brackets, the column of an entry or a key opens
and closes blocks.
-/

set_option autoImplicit false

namespace FileSearch.Yaml

structure Candidate where
  /-- The number of brackets that are open around it. -/
  depth : Nat
  /-- The number of tokens in front of it. -/
  position : Nat
  /-- The line cannot be anything but a key. -/
  required : Bool
  index : Nat
  line : Nat
  column : Nat

structure Scan where
  cursor : Cursor
  /-- The number of open brackets. -/
  depth : Nat := 0
  /-- The column of the innermost block, less than zero outside all blocks. -/
  indent : Int := -1
  indents : List Int := []
  keyAllowed : Bool := true
  /-- At most one for each depth. -/
  candidates : List Candidate := []
  /-- The last token first. -/
  tokens : List Token := []

namespace Scan

open Scalar

def keyLimit : Nat := 1024

def emit (t : Token) (s : Scan) : Scan := { s with tokens := t :: s.tokens }

def inFlow (s : Scan) : Bool := 0 < s.depth

def Candidate.isStale (c : Cursor) (k : Candidate) : Bool :=
  k.line != c.line || keyLimit < c.index - k.index

def expire (s : Scan) : Except Fault Scan :=
  if s.candidates.any fun k => k.required && Candidate.isStale s.cursor k then
    malformed .keyWithoutValue
  else .ok { s with candidates := s.candidates.filter fun k => !Candidate.isStale s.cursor k }

def dropCandidate (s : Scan) : Except Fault Scan :=
  if s.candidates.any fun k => k.depth = s.depth && k.required then malformed .keyWithoutValue
  else .ok { s with candidates := s.candidates.filter (·.depth != s.depth) }

def saveCandidate (s : Scan) : Except Fault Scan := do
  if !s.keyAllowed then .ok s
  else
    let c := s.cursor
    let candidate : Candidate :=
      { depth := s.depth
        position := s.tokens.length
        required := !s.inFlow && s.indent == c.column
        index := c.index
        line := c.line
        column := c.column }
    let s ← s.dropCandidate
    .ok { s with candidates := candidate :: s.candidates }

def closeBlocks (column : Int) : List Int → Scan → Scan
  | [], s => s
  | outer :: indents, s =>
    if column < s.indent then
      closeBlocks column indents { s.emit .blockEnd with indent := outer, indents }
    else s

def unwind (column : Int) (s : Scan) : Scan :=
  if s.inFlow then s else closeBlocks column s.indents s

def openBlock (t : Token) (column : Nat) (position : Nat) (s : Scan) : Scan :=
  if s.indent < column then
    { s with
      indent := column
      indents := s.indent :: s.indents
      tokens := s.tokens.insertIdx (s.tokens.length - position) t }
  else s

def mark (t : Token) (s : Scan) : Scan := { s.emit t with cursor := s.cursor.step }

def blanksWithin : Nat → Scan → Scan
  | 0, s => s
  | n + 1, s =>
    let c := s.cursor.skipSpaces
    let c := if c.peek = '#' then c.skip (!isBreak ·) else c
    if isBreak c.peek then
      blanksWithin n
        { s with cursor := c.lineBreak.2, keyAllowed := s.keyAllowed || !s.inFlow }
    else { s with cursor := c }

def blanks (s : Scan) : Scan :=
  let c := s.cursor
  let c := if c.index = 0 && c.peek = '\ufeff' then c.step else c
  blanksWithin (c.rest.length + 1) { s with cursor := c }

def finish (s : Scan) : Except Fault Scan := do
  let s ← (s.unwind (-1)).dropCandidate
  .ok { s.emit .finish with keyAllowed := false, candidates := [] }

def directive (s : Scan) : Except Fault Scan := do
  let s ← (s.unwind (-1)).dropCandidate
  let (t, cursor) ← Property.directive s.cursor
  .ok { s.emit t with cursor, keyAllowed := false }

def documentMark (t : Token) (s : Scan) : Except Fault Scan := do
  let s ← (s.unwind (-1)).dropCandidate
  .ok { s.emit t with cursor := s.cursor.advance 3, keyAllowed := false }

def openFlow (t : Token) (s : Scan) : Except Fault Scan := do
  let s ← s.saveCandidate
  .ok { s.mark t with depth := s.depth + 1, keyAllowed := true }

def closeFlow (t : Token) (s : Scan) : Except Fault Scan := do
  if !s.inFlow then malformed .unexpectedToken
  else
    let s ← s.dropCandidate
    .ok { s.mark t with depth := s.depth - 1, keyAllowed := false }

def comma (s : Scan) : Except Fault Scan := do
  let s ← s.dropCandidate
  .ok { s.mark .comma with keyAllowed := true }

def entry (s : Scan) : Except Fault Scan := do
  if !s.inFlow && !s.keyAllowed then malformed .strayEntry
  else
    let s := if s.inFlow then s
      else s.openBlock .blockSequence s.cursor.column s.tokens.length
    let s ← s.dropCandidate
    .ok { s.mark .entry with keyAllowed := true }

def key (s : Scan) : Except Fault Scan := do
  if !s.inFlow && !s.keyAllowed then malformed .strayKey
  else
    let s := if s.inFlow then s
      else s.openBlock .blockMapping s.cursor.column s.tokens.length
    let s ← s.dropCandidate
    .ok { s.mark .key with keyAllowed := !s.inFlow }

def value (s : Scan) : Except Fault Scan := do
  match s.candidates.find? (·.depth = s.depth) with
  | some k =>
    let s := { s with
      candidates := s.candidates.filter (·.depth != s.depth)
      tokens := s.tokens.insertIdx (s.tokens.length - k.position) .key }
    let s := if s.inFlow then s else s.openBlock .blockMapping k.column k.position
    .ok { s.mark .value with keyAllowed := false }
  | none =>
    if !s.inFlow && !s.keyAllowed then malformed .strayValue
    else
      let s := if s.inFlow then s
        else s.openBlock .blockMapping s.cursor.column s.tokens.length
      .ok { s.mark .value with keyAllowed := !s.inFlow }

def named (t : String → Token) (s : Scan) : Except Fault Scan := do
  let s ← s.saveCandidate
  let (name, cursor) ← Property.name s.cursor
  .ok { s.emit (t name) with cursor, keyAllowed := false }

def tag (s : Scan) : Except Fault Scan := do
  let s ← s.saveCandidate
  let (t, cursor) ← Property.tag s.cursor
  .ok { s.emit t with cursor, keyAllowed := false }

def block (isFolded : Bool) (s : Scan) : Except Fault Scan := do
  let s ← s.dropCandidate
  let (text, cursor) ← Scalar.block isFolded s.indent s.cursor
  .ok { s.emit (.scalar false text) with cursor, keyAllowed := true }

def quoted (isDouble : Bool) (s : Scan) : Except Fault Scan := do
  let s ← s.saveCandidate
  let (text, cursor) ← Scalar.quoted isDouble s.cursor
  .ok { s.emit (.scalar false text) with cursor, keyAllowed := false }

def plain (s : Scan) : Except Fault Scan := do
  let s ← s.saveCandidate
  let (text, crossesLine, cursor) := Scalar.plain s.inFlow (s.indent + 1) s.cursor
  .ok { s.emit (.scalar true text) with cursor, keyAllowed := crossesLine }

def isIndicator (c : Char) : Bool :=
  c ∈ ['-', '?', ':', ',', '[', ']', '{', '}', '#', '&', '*', '!', '|', '>', '\'', '"', '%', '@',
    '`']

def startsPlain (s : Scan) : Bool :=
  let c := s.cursor.peek
  let next := s.cursor.ahead 1
  (!endsWord c && !isIndicator c) ||
    (!endsWord next && (c = '-' || (!s.inFlow && (c = '?' || c = ':'))))

def dispatch (s : Scan) : Except Fault Scan :=
  let c := s.cursor
  let standsAlone := s.inFlow || endsWord (c.ahead 1)
  if c.atEnd then s.finish
  else if c.peek = '%' && c.column = 0 then s.directive
  else if c.column = 0 && c.isDocumentMark then
    s.documentMark (if c.peek = '-' then .documentStart else .documentEnd)
  else
    match c.peek with
    | '[' => s.openFlow .openBracket
    | '{' => s.openFlow .openBrace
    | ']' => s.closeFlow .closeBracket
    | '}' => s.closeFlow .closeBrace
    | ',' => s.comma
    | '*' => s.named .reference
    | '&' => s.named .anchor
    | '!' => s.tag
    | '\'' => s.quoted false
    | '"' => s.quoted true
    | ch =>
      if ch = '-' && endsWord (c.ahead 1) then s.entry
      else if ch = '?' && standsAlone then s.key
      else if ch = ':' && standsAlone then s.value
      else if ch = '|' && !s.inFlow then s.block false
      else if ch = '>' && !s.inFlow then s.block true
      else if s.startsPlain then s.plain
      else malformed .strayCharacter

def next (s : Scan) : Except Fault Scan := do
  let s ← s.blanks.expire
  (s.unwind s.cursor.column).dispatch

def run : Nat → Scan → List Token × Option Fault
  | 0, s => (s.tokens.reverse, none)
  | n + 1, s =>
    match s.next with
    | .error fault => (s.tokens.reverse, some fault)
    | .ok t => if t.tokens.head? = some .finish then (t.tokens.reverse, none) else run n t

end Scan

def Token.scan (text : List Char) : List Token × Option Fault :=
  Scan.run (text.length + 1) { cursor := { rest := text } }

end FileSearch.Yaml
