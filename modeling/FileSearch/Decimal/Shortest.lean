import FileSearch.Decimal.Binary64

/-!
# Shortest decimals

A binary64 value is written with the fewest decimal digits that read back as the
same value, and of these with the ones nearest to it.
-/

set_option autoImplicit false

namespace FileSearch.Decimal

structure Candidate where
  digits : Nat
  exponent : Int

namespace Binary64

/-- Whether the decimal lies among the reals that round to `m * 2 ^ q`. The bounds are
the midpoints to the neighbours; they belong to the value if its mantissa is even. -/
def readsBack (m : Nat) (q : Int) (c : Candidate) : Bool :=
  let below := if m = Nat.pow 2 52 ∧ minExponent < q then 1 else 2
  -- both sides are scaled to integers
  let d := 4 * c.digits * Nat.pow 10 c.exponent.toNat * Nat.pow 2 (-q).toNat
  let unit := Nat.pow 10 (-c.exponent).toNat * Nat.pow 2 q.toNat
  let low := (4 * m - below) * unit
  let high := (4 * m + 2) * unit
  if m % 2 = 0 then low ≤ d && d ≤ high else low < d && d < high

def leadingDigit (num den : Nat) (estimate : Int) : Int :=
  if den * Nat.pow 10 (estimate + 1).toNat ≤ num * Nat.pow 10 (-(estimate + 1)).toNat
    then estimate + 1 else estimate

def neighbours (num den : Nat) (exponent : Int) : List Candidate :=
  let n := num * Nat.pow 10 (-exponent).toNat
  let d := den * Nat.pow 10 exponent.toNat
  let floor := n / d
  if n % d = 0 then [⟨floor, exponent⟩]
  else
    let near := roundDiv n d
    [⟨near, exponent⟩, ⟨if near = floor then floor + 1 else floor, exponent⟩]

def selectFrom (m : Nat) (q lead : Int) (num den : Nat) : Nat → Nat → Candidate
  | 0, places => ⟨roundDiv (num * Nat.pow 10 (places - lead).toNat)
      (den * Nat.pow 10 (lead - places).toNat), lead - places⟩
  | n + 1, places =>
    match (neighbours num den (lead - places)).find? (readsBack m q) with
    | some c => c
    | none => selectFrom m q lead num den n (places + 1)

def shortest (m : Nat) (q : Int) : Candidate :=
  let num := m * Nat.pow 2 q.toNat
  let den := Nat.pow 2 (-q).toNat
  let bit := leadingBit num den
  -- the logarithm of 2 lies between the two factors, so the estimate is never too great
  let estimate := bit * (if 0 ≤ bit then 30102 else 30103) / 100000
  selectFrom m q (leadingDigit num den estimate) num den 16 0

end Binary64

structure Layout where
  pointFrom : Int
  pointBelow : Int
  exponentWidth : Nat

def padLeft (width : Nat) (fill : Char) (s : List Char) : List Char :=
  List.replicate (width - s.length) fill ++ s

def fraction (digits : List Char) : List Char :=
  if digits.isEmpty then ['0'] else digits

def Layout.point (digits : List Char) (lead : Int) : List Char :=
  if lead < 0 then '0' :: '.' :: List.replicate (-lead - 1).toNat '0' ++ digits
  else
    let whole := lead.toNat + 1
    digits.take whole ++ List.replicate (whole - digits.length) '0' ++
      '.' :: fraction (digits.drop whole)

def Layout.scientific (layout : Layout) (digits : List Char) (lead : Int) : List Char :=
  let mark := if lead < 0 then ['e', '-'] else ['e', '+']
  let tail := mark ++ padLeft layout.exponentWidth '0' (Nat.toDigits 10 lead.natAbs)
  match digits with
  | first :: rest@(_ :: _) => first :: '.' :: rest ++ tail
  | _ => digits ++ tail

def Layout.positive (layout : Layout) (c : Candidate) : List Char :=
  let all := Nat.toDigits 10 c.digits
  let lead := c.exponent + all.length - 1
  let digits := (all.reverse.dropWhile (· == '0')).reverse
  if layout.pointFrom ≤ lead ∧ lead < layout.pointBelow then Layout.point digits lead
  else layout.scientific digits lead

def Layout.finite (layout : Layout) (negative : Bool) (m : Nat) (q : Int) : List Char :=
  let body := if m = 0 then ['0', '.', '0'] else layout.positive (Binary64.shortest m q)
  if negative then '-' :: body else body

end FileSearch.Decimal
