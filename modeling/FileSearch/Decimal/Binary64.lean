import FileSearch.Decimal.Rounding

/-!
# Binary floating-point numbers of 64 bits

A number of a data file that is not an integer is kept as the nearest binary64
value: a sign, an integer mantissa below 2^53 and a binary exponent. Everything is
integer arithmetic on these parts.
-/

set_option autoImplicit false

namespace FileSearch.Decimal

inductive Binary64 where
  /-- The magnitude is `mantissa * 2 ^ exponent`. -/
  | finite (negative : Bool) (mantissa : Nat) (exponent : Int)
  | infinite (negative : Bool)
  | undefined
  deriving DecidableEq, Repr

namespace Binary64

def maxExponent : Int := 971

def minExponent : Int := -1074

def isZero : Binary64 → Bool
  | .finite _ m _ => m == 0
  | _ => false

def negate : Binary64 → Binary64
  | .finite s m q => .finite (!s) m q
  | .infinite s => .infinite (!s)
  | .undefined => .undefined

def leadingBit (num den : Nat) : Int :=
  let guess : Int := num.log2 - den.log2
  if den * Nat.pow 2 guess.toNat ≤ num * Nat.pow 2 (-guess).toNat then guess else guess - 1

def ofRatio (negative : Bool) (num den : Nat) : Binary64 :=
  if num = 0 then .finite negative 0 minExponent
  else
    let q := max (leadingBit num den - 52) minExponent
    let m := roundDiv (num * Nat.pow 2 (-q).toNat) (den * Nat.pow 2 q.toNat)
    let (m, q) := if m = Nat.pow 2 53 then (Nat.pow 2 52, q + 1) else (m, q)
    if maxExponent < q then .infinite negative else .finite negative m q

def ofDecimal (negative : Bool) (digits : Nat) (exponent : Int) : Binary64 :=
  let size : Int := (Nat.toDigits 10 digits).length + exponent
  if digits = 0 ∨ size < -400 then .finite negative 0 minExponent
  else if 400 < size then .infinite negative
  else ofRatio negative (digits * Nat.pow 10 exponent.toNat) (Nat.pow 10 (-exponent).toNat)

def ratio? : Binary64 → Option (Int × Nat)
  | .finite s m q =>
    let num : Int := (m * Nat.pow 2 q.toNat : Nat)
    some (if s then -num else num, Nat.pow 2 (-q).toNat)
  | _ => none

def ofSigned (num : Int) (den : Nat) : Binary64 := ofRatio (num < 0) num.natAbs den

def add (x y : Binary64) : Binary64 :=
  match x.ratio?, y.ratio? with
  | some (m, d), some (n, e) => ofSigned (m * e + n * d) (d * e)
  | none, _ => x
  | _, none => y

def scale (factor : Nat) (x : Binary64) : Binary64 :=
  match x.ratio? with
  | some (n, d) => ofSigned (n * factor) d
  | none => x

def toInt? : Binary64 → Option Int
  | .finite s m q =>
    let scale := Nat.pow 2 (-q).toNat
    if (m * Nat.pow 2 q.toNat) % scale = 0 then
      let n : Int := (m * Nat.pow 2 q.toNat / scale : Nat)
      some (if s then -n else n)
    else none
  | _ => none

end Binary64

end FileSearch.Decimal
