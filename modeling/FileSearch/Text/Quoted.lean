import FileSearch.Text.Printable

/-!
# Quoted texts

Messages show a text in quotes when its blanks and controls matter. Apostrophes
enclose it, or double quotes if it holds apostrophes and no double quote;
characters that are not printable are written by their code.
-/

set_option autoImplicit false

namespace FileSearch.Text

def hexDigits : Nat → Nat → List Char
  | 0, _ => []
  | width + 1, code => hexDigits width (code / 16) ++ [Nat.digitChar (code % 16)]

def codeEscape (code : Nat) : List Char :=
  if code < 0x100 then '\\' :: 'x' :: hexDigits 2 code
  else if code < 0x10000 then '\\' :: 'u' :: hexDigits 4 code
  else '\\' :: 'U' :: hexDigits 8 code

def quotedChar (quote c : Char) : List Char :=
  if c = quote ∨ c = '\\' then ['\\', c]
  else if c = '\t' then ['\\', 't']
  else if c = '\n' then ['\\', 'n']
  else if c = '\r' then ['\\', 'r']
  else if isPrintable c then [c]
  else codeEscape c.toNat

def quoteFor (s : List Char) : Char :=
  if s.contains '\'' && !s.contains '"' then '"' else '\''

def quoted (s : List Char) : List Char :=
  let quote := quoteFor s
  quote :: s.flatMap (quotedChar quote) ++ [quote]

def quote (s : String) : String := String.ofList (quoted s.toList)

def quoteList (items : List String) : String :=
  "[" ++ ", ".intercalate (items.map quote) ++ "]"

def quoteTuple : List String → String
  | [item] => "(" ++ quote item ++ ",)"
  | items => "(" ++ ", ".intercalate (items.map quote) ++ ")"

end FileSearch.Text
