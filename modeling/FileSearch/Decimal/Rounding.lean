/-!
# Rounded quotients

The nearest integer to a quotient, a tie going to the even neighbour, and the two
uses made of it: keeping the leading bits of a number, and writing one decimal.
-/

set_option autoImplicit false

namespace FileSearch.Decimal

def roundDiv (num den : Nat) : Nat :=
  let floor := num / den
  let twice := 2 * (num % den)
  if twice < den then floor
  else if den < twice then floor + 1
  else if floor % 2 = 0 then floor
  else floor + 1

def round53 (n : Nat) : Nat :=
  let unit := Nat.pow 2 (n.log2 - 52)
  roundDiv n unit * unit

def tenthsText (tenths : Nat) : String :=
  toString (tenths / 10) ++ "." ++ toString (tenths % 10)

theorem round53_of_small (n : Nat) (h : n < Nat.pow 2 53) : round53 n = n := by
  have hlog : n.log2 - 52 = 0 := by
    by_cases hn : n = 0
    · simp [hn]
    · have := (Nat.log2_lt hn).2 h
      omega
  simp [round53, hlog, roundDiv, Nat.mod_one]

end FileSearch.Decimal
