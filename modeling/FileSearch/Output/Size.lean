import FileSearch.Decimal.Rounding

/-!
# Sizes for display

A size is shown in the largest binary unit in which it is at least one, with one
decimal; bytes are shown as they are. From 1024 on a size is first rounded to 53
significant bits, and one that no binary64 number can hold is refused.
-/

set_option autoImplicit false

namespace FileSearch.Output

def sizeLimit : Nat := Nat.pow 2 1024

inductive SizeError where
  | tooLarge
  deriving DecidableEq, Repr

def SizeError.message : SizeError → String
  | .tooLarge => "int too large to convert to float"

def tenths (size power : Nat) : Nat := Decimal.roundDiv (10 * size) (Nat.pow 1024 power)

def inUnit (size power : Nat) (unit : String) : String :=
  Decimal.tenthsText (tenths size power) ++ " " ++ unit

def largeSize (size : Nat) : String :=
  if size < Nat.pow 1024 2 then inUnit size 1 "KiB"
  else if size < Nat.pow 1024 3 then inUnit size 2 "MiB"
  else if size < Nat.pow 1024 4 then inUnit size 3 "GiB"
  else inUnit size 4 "TiB"

def formatSize (size : Int) : Except SizeError String :=
  if size < 1024 then .ok s!"{size} B"
  else
    let rounded := Decimal.round53 size.toNat
    if sizeLimit ≤ rounded then .error .tooLarge else .ok (largeSize rounded)

end FileSearch.Output
