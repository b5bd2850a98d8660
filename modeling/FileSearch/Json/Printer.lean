import FileSearch.Json
import FileSearch.Decimal.Shortest
import FileSearch.Text.Quoted

/-!
# Writing JSON

Values are written over several lines, two blanks deeper at every level; empty lists
and objects stay on one line. Characters are written as they are, but for quotes,
backslashes and controls.
-/

set_option autoImplicit false

namespace FileSearch.Json

def realLayout : Decimal.Layout := ⟨-4, 16, 2⟩

def printReal : Decimal.Binary64 → List Char
  | .finite negative m q => realLayout.finite negative m q
  | .infinite negative => (if negative then "-Infinity" else "Infinity").toList
  | .undefined => "NaN".toList

def printChar (c : Char) : List Char :=
  match c with
  | '"' => ['\\', '"']
  | '\\' => ['\\', '\\']
  | '\x08' => ['\\', 'b']
  | '\x0c' => ['\\', 'f']
  | '\n' => ['\\', 'n']
  | '\r' => ['\\', 'r']
  | '\t' => ['\\', 't']
  | c => if c.toNat < 0x20 then '\\' :: 'u' :: Text.hexDigits 4 c.toNat else [c]

def printText (s : String) : List Char := '"' :: s.toList.flatMap printChar ++ ['"']

def newLine (depth : Nat) : List Char := '\n' :: List.replicate (2 * depth) ' '

mutual

def print (depth : Nat) : Json → List Char
  | .null => "null".toList
  | .bool b => (if b then "true" else "false").toList
  | .int n => (toString n).toList
  | .real x => printReal x
  | .text s => printText s
  | .list [] => ['[', ']']
  | .list (item :: items) =>
    '[' :: newLine (depth + 1) ++ print (depth + 1) item ++ printItems (depth + 1) items ++
      newLine depth ++ [']']
  | .object [] => ['{', '}']
  | .object (field :: fields) =>
    '{' :: newLine (depth + 1) ++ printField (depth + 1) field ++
      printFields (depth + 1) fields ++ newLine depth ++ ['}']

def printItems (depth : Nat) : List Json → List Char
  | [] => []
  | item :: items => ',' :: newLine depth ++ print depth item ++ printItems depth items

def printField (depth : Nat) : String × Json → List Char
  | (name, value) => printText name ++ ':' :: ' ' :: print depth value

def printFields (depth : Nat) : List (String × Json) → List Char
  | [] => []
  | field :: fields => ',' :: newLine depth ++ printField depth field ++ printFields depth fields

end

def pretty (value : Json) : String := String.ofList (print 0 value)

end FileSearch.Json
