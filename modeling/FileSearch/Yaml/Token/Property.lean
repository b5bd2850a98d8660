import FileSearch.Yaml.Token.Scalar

/-!
# Names, tags and directives

What stands in front of a node or of a whole document: a name for later references, a
tag that gives the kind of a value, and the directives that say how tags are to be read.
-/

set_option autoImplicit false

namespace FileSearch.Yaml.Property

open Scalar

def name (c : Cursor) : Except Fault (String × Cursor) :=
  let (found, next) := c.step.span isNameChar
  let follows := next.peek
  if found.isEmpty then malformed .name
  else if endsWord follows || follows ∈ ['?', ':', ',', ']', '}', '%', '@', '`'] then
    .ok (String.ofList found, next)
  else malformed .name

def isTagChar (c : Char) : Bool :=
  c.isAlphanum || c ∈ ['-', ';', '/', '?', ':', '@', '&', '=', '+', '$', ',', '_', '.', '!', '~',
    '*', '\'', '(', ')', '[', ']']

def percentBytes : Nat → Cursor → Except Fault (List UInt8 × Cursor)
  | 0, c => .ok ([], c)
  | n + 1, c =>
    if c.peek != '%' then .ok ([], c)
    else
      let digits := c.step.rest.take 2
      match hexNumber? digits with
      | some byte =>
        if digits.length < 2 then malformed .tag
        else do
          let (more, last) ← percentBytes n (c.advance 3)
          .ok (byte.toUInt8 :: more, last)
      | none => malformed .tag

def tagChars : Nat → Cursor → Except Fault Piece
  | 0, c => .ok ([], c)
  | n + 1, c =>
    if c.peek = '%' then do
      let (bytes, next) ← percentBytes c.rest.length c
      match String.fromUTF8? ⟨bytes.toArray⟩ with
      | some s =>
        let (more, last) ← tagChars n next
        .ok (s.toList ++ more, last)
      | none => malformed .tag
    else if isTagChar c.peek then do
      let (more, last) ← tagChars n c.step
      .ok (c.peek :: more, last)
    else .ok ([], c)

def tagText (c : Cursor) : Except Fault (String × Cursor) := do
  if c.peek != '%' && !isTagChar c.peek then malformed .tag
  else
    let (found, next) ← tagChars (c.rest.length + 1) c
    .ok (String.ofList found, next)

def tagHandle (c : Cursor) : Except Fault (String × Cursor) :=
  if c.peek != '!' then malformed .tag
  else if c.ahead 1 = ' ' then .ok ("!", c.step)
  else
    let (found, next) := c.step.span isNameChar
    if next.peek = '!' then .ok (String.ofList ('!' :: found ++ ['!']), next.step)
    else malformed .tag

def tag (c : Cursor) : Except Fault (Token × Cursor) := do
  let follows := c.ahead 1
  let (token, next) ←
    if follows = '<' then do
      let (text, next) ← tagText (c.advance 2)
      if next.peek != '>' then malformed .tag
      else .ok (Token.tag none text, next.step)
    else if endsWord follows then .ok (Token.tag none "!", c.step)
    else do
      let word := c.step.rest.takeWhile (!endsToken ·)
      let (handle, next) ← if word.contains '!' then tagHandle c else .ok ("!", c.step)
      let (suffix, next) ← tagText next
      .ok (Token.tag (some handle) suffix, next)
  if endsToken next.peek then .ok (token, next) else malformed .tag

def natOfDigits (digits : List Char) : Nat :=
  digits.foldl (fun n c => 10 * n + (c.toNat - '0'.toNat)) 0

def number (c : Cursor) : Except Fault (Nat × Cursor) :=
  let (digits, next) := c.span Char.isDigit
  if digits.isEmpty then malformed .directive else .ok (natOfDigits digits, next)

def version (c : Cursor) : Except Fault (Directive × Cursor) := do
  let (major, next) ← number c.skipSpaces
  if next.peek != '.' then malformed .directive
  else
    let (_, next) ← number next.step
    if endsToken next.peek then .ok (.version major, next) else malformed .directive

def handle (c : Cursor) : Except Fault (Directive × Cursor) := do
  let (handle, next) ← tagHandle c.skipSpaces
  if next.peek != ' ' then malformed .directive
  else
    let (start, next) ← tagText next.skipSpaces
    if endsToken next.peek then .ok (.handle handle start, next) else malformed .directive

def directive (c : Cursor) : Except Fault (Token × Cursor) := do
  let (word, next) := c.step.span isNameChar
  if word.isEmpty || !endsToken next.peek then malformed .directive
  else
    let (found, next) ←
      match String.ofList word with
      | "YAML" => version next
      | "TAG" => handle next
      | _ => .ok (.other, next.skip (!isBreak ·))
    let next ← ignoredLine .directive next
    .ok (.directive found, next)

end FileSearch.Yaml.Property
