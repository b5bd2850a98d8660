import FileSearch.Json
import FileSearch.Text.Substring

/-!
# Reading JSON

A text is read as one value with blanks around it. A refusal names the place: the
number of characters before it, and its line and column.
-/

set_option autoImplicit false

namespace FileSearch.Json

inductive Fault where
  | expectedValue
  | expectedName
  | expectedColon
  | expectedComma
  | openString
  | controlCharacter
  | unknownEscape
  | malformedCode
  | trailingText
  | byteOrderMark
  deriving DecidableEq, Repr

def Fault.message : Fault → String
  | .expectedValue => "Expecting value"
  | .expectedName => "Expecting property name enclosed in double quotes"
  | .expectedColon => "Expecting ':' delimiter"
  | .expectedComma => "Expecting ',' delimiter"
  | .openString => "Unterminated string starting at"
  | .controlCharacter => "Invalid control character at"
  | .unknownEscape => "Invalid \\escape"
  | .malformedCode => "Invalid \\uXXXX escape"
  | .trailingText => "Extra data"
  | .byteOrderMark => "Unexpected UTF-8 BOM (decode using utf-8-sig)"

structure Refusal where
  fault : Fault
  left : Nat
  deriving DecidableEq, Repr

def refuse {α : Type} (fault : Fault) (rest : List Char) : Except Refusal (α × List Char) :=
  .error ⟨fault, rest.length⟩

def isSpace (c : Char) : Bool := c = ' ' || c = '\t' || c = '\n' || c = '\r'

def skipSpace (s : List Char) : List Char := s.dropWhile isSpace

def hexValue? (c : Char) : Option Nat :=
  if c.isDigit then some (c.toNat - '0'.toNat)
  else if 'a' ≤ c ∧ c ≤ 'f' then some (c.toNat - 'a'.toNat + 10)
  else if 'A' ≤ c ∧ c ≤ 'F' then some (c.toNat - 'A'.toNat + 10)
  else none

def hexCode? (digits : List Char) : Option Nat :=
  digits.foldlM (fun code c => (hexValue? c).map (16 * code + ·)) 0

def escaped? : Char → Option Char
  | '"' => some '"'
  | '\\' => some '\\'
  | '/' => some '/'
  | 'b' => some '\x08'
  | 'f' => some '\x0c'
  | 'n' => some '\n'
  | 'r' => some '\r'
  | 't' => some '\t'
  | _ => none

def stringCodes (opened : Nat) : List Char → Except Refusal (List Nat × List Char)
  | [] => .error ⟨.openString, opened⟩
  | '"' :: rest => .ok ([], rest)
  | ['\\'] => .error ⟨.openString, opened⟩
  | '\\' :: 'u' :: a :: b :: c :: d :: next :: rest =>
    match hexCode? [a, b, c, d] with
    | some code => do
      let (codes, rest) ← stringCodes opened (next :: rest)
      .ok (code :: codes, rest)
    | none => refuse .malformedCode ('u' :: a :: b :: c :: d :: next :: rest)
  | '\\' :: 'u' :: rest => refuse .malformedCode ('u' :: rest)
  | '\\' :: e :: rest =>
    match escaped? e with
    | some c => do
      let (codes, rest) ← stringCodes opened rest
      .ok (c.toNat :: codes, rest)
    | none => refuse .unknownEscape ('\\' :: e :: rest)
  | c :: rest =>
    if c.toNat < 0x20 then refuse .controlCharacter (c :: rest)
    else do
      let (codes, rest) ← stringCodes opened rest
      .ok (c.toNat :: codes, rest)

def isHighHalf (code : Nat) : Bool := 0xD800 ≤ code && code < 0xDC00

def isLowHalf (code : Nat) : Bool := 0xDC00 ≤ code && code < 0xE000

/-- A code as a character. Half of a pair that stands alone becomes the replacement
character. -/
def codeChar (code : Nat) : Char :=
  if isHighHalf code || isLowHalf code then '\ufffd' else Char.ofNat code

def joinHalves : List Nat → List Char
  | [] => []
  | [code] => [codeChar code]
  | high :: low :: codes =>
    if isHighHalf high && isLowHalf low then
      Char.ofNat (0x10000 + (high - 0xD800) * 0x400 + (low - 0xDC00)) :: joinHalves codes
    else codeChar high :: joinHalves (low :: codes)

def string (rest : List Char) : Except Refusal (String × List Char) := do
  let (codes, rest) ← stringCodes (rest.length + 1) rest
  .ok (String.ofList (joinHalves codes), rest)

def natOfDigits (digits : List Char) : Nat :=
  digits.foldl (fun n c => 10 * n + (c.toNat - '0'.toNat)) 0

def digits? (s : List Char) : Option (List Char × List Char) :=
  match s.takeWhile Char.isDigit with
  | [] => none
  | ds => some (ds, s.dropWhile Char.isDigit)

def whole? : List Char → Option (List Char × List Char)
  | '0' :: rest => some (['0'], rest)
  | s => digits? s

def decimals? : List Char → Option (List Char × List Char)
  | '.' :: rest => digits? rest
  | _ => none

def exponent? : List Char → Option (Int × List Char)
  | e :: rest =>
    if e = 'e' ∨ e = 'E' then
      match rest with
      | '-' :: rest => (digits? rest).map fun (ds, rest) => (-(natOfDigits ds : Int), rest)
      | '+' :: rest => (digits? rest).map fun (ds, rest) => ((natOfDigits ds : Int), rest)
      | rest => (digits? rest).map fun (ds, rest) => ((natOfDigits ds : Int), rest)
    else none
  | [] => none

def magnitude? (negative : Bool) (s : List Char) : Option (Json × List Char) :=
  match whole? s with
  | none => none
  | some (whole, rest) =>
    match decimals? rest, exponent? ((decimals? rest).elim rest (·.2)) with
    | none, none =>
      let n : Int := natOfDigits whole
      some (.int (if negative then -n else n), rest)
    | decimals, exponent =>
      let places := decimals.elim [] (·.1)
      let power := exponent.elim 0 (·.1) - places.length
      let rest := exponent.elim (decimals.elim rest (·.2)) (·.2)
      some (.real (.ofDecimal negative (natOfDigits (whole ++ places)) power), rest)

def words : List (String × Json) :=
  [("null", .null), ("true", .bool true), ("false", .bool false), ("NaN", .real .undefined),
   ("Infinity", .real (.infinite false)), ("-Infinity", .real (.infinite true))]

def word? (s : List Char) : Option (Json × List Char) :=
  words.findSome? fun (word, value) => (Text.after? word.toList s).map fun rest => (value, rest)

def atom (s : List Char) : Except Refusal (Json × List Char) :=
  match word? s with
  | some found => .ok found
  | none =>
    match (match s with
      | '-' :: rest => magnitude? true rest
      | s => magnitude? false s) with
    | some found => .ok found
    | none => refuse .expectedValue s

mutual

def value : Nat → List Char → Except Refusal (Json × List Char)
  | 0, s => refuse .expectedValue s
  | n + 1, s =>
    match s with
    | '"' :: rest => do
      let (content, rest) ← string rest
      .ok (.text content, rest)
    | '[' :: rest =>
      match skipSpace rest with
      | ']' :: rest => .ok (.list [], rest)
      | rest => do
        let (items, rest) ← items n rest
        .ok (.list items, rest)
    | '{' :: rest =>
      match skipSpace rest with
      | '}' :: rest => .ok (.object [], rest)
      | rest => do
        let (assignments, rest) ← fields n rest
        .ok (.object (Fields.ofAssignments assignments), rest)
    | s => atom s

def items : Nat → List Char → Except Refusal (List Json × List Char)
  | 0, s => refuse .expectedValue s
  | n + 1, s => do
    let (item, rest) ← value n s
    match skipSpace rest with
    | ']' :: rest => .ok ([item], rest)
    | ',' :: rest => do
      let (more, rest) ← items n (skipSpace rest)
      .ok (item :: more, rest)
    | rest => refuse .expectedComma rest

def fields : Nat → List Char → Except Refusal (List (String × Json) × List Char)
  | 0, s => refuse .expectedName s
  | n + 1, s =>
    match s with
    | '"' :: rest => do
      let (name, rest) ← string rest
      match skipSpace rest with
      | ':' :: rest => do
        let (field, rest) ← value n (skipSpace rest)
        match skipSpace rest with
        | '}' :: rest => .ok ([(name, field)], rest)
        | ',' :: rest => do
          let (more, rest) ← fields n (skipSpace rest)
          .ok ((name, field) :: more, rest)
        | rest => refuse .expectedComma rest
      | rest => refuse .expectedColon rest
    | s => refuse .expectedName s

end

def document (s : List Char) : Except Refusal Json :=
  match s with
  | '\ufeff' :: _ => .error ⟨.byteOrderMark, s.length⟩
  | s => do
    let (found, rest) ← value (2 * s.length + 2) (skipSpace s)
    match skipSpace rest with
    | [] => .ok found
    | rest => .error ⟨.trailingText, rest.length⟩

structure ReadError where
  fault : Fault
  line : Nat
  column : Nat
  offset : Nat
  deriving DecidableEq, Repr

def Refusal.locate (text : List Char) (refusal : Refusal) : ReadError :=
  let offset := text.length - refusal.left
  let before := text.take offset
  { fault := refusal.fault
    line := before.count '\n' + 1
    column := (before.reverse.takeWhile (· != '\n')).length + 1
    offset := offset }

def ReadError.message (e : ReadError) : String :=
  s!"{e.fault.message}: line {e.line} column {e.column} (char {e.offset})"

def read (text : String) : Except ReadError Json :=
  (document text.toList).mapError (·.locate text.toList)

end FileSearch.Json
