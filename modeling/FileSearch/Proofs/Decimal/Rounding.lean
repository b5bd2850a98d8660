import FileSearch.Decimal.Rounding
import Mathlib.Tactic.Ring

/-!
# Rounding and order

A rounded quotient is within half of one of the exact quotient, so quotients of one denominator
are rounded in their order. Keeping the leading bits of numbers does not change their order
either: numbers that are rounded in different units have a power of two between them.
-/

set_option autoImplicit false

namespace FileSearch.Decimal

section
variable {num num' den q : Nat}

theorem round_div_near (num : Nat) (hden : 0 < den) :
    2 * num ≤ 2 * (roundDiv num den * den) + den ∧
      2 * (roundDiv num den * den) ≤ 2 * num + den := by
  have hsplit : num / den * den + num % den = num := Nat.div_add_mod' num den
  have hrest : num % den < den := Nat.mod_lt num hden
  have hup : (num / den + 1) * den = num / den * den + den := Nat.succ_mul (num / den) den
  rw [roundDiv]
  split
  · omega
  · split
    · omega
    · split <;> omega

theorem round_div_mono (hden : 0 < den) (h : num ≤ num') :
    roundDiv num den ≤ roundDiv num' den := by
  by_contra hless
  have hnear := (round_div_near num hden).2
  have hnear' := (round_div_near num' hden).1
  have hstep : roundDiv num' den * den + den ≤ roundDiv num den * den := by
    rw [← Nat.succ_mul]
    exact Nat.mul_le_mul_right den (by omega)
  -- the quotients would have to be one apart, and both numerators in the middle
  have hsame : num = num' := by omega
  exact hless (hsame ▸ le_rfl)

theorem round_div_mul (q : Nat) (hden : 0 < den) : roundDiv (q * den) den = q := by
  rw [roundDiv, Nat.mul_div_cancel q hden, Nat.mul_mod_left]
  simp [hden]

theorem le_round_div (hden : 0 < den) (h : q * den ≤ num) : q ≤ roundDiv num den := by
  rw [← round_div_mul q hden]
  exact round_div_mono hden h

theorem round_div_le (hden : 0 < den) (h : num ≤ q * den) : roundDiv num den ≤ q := by
  rw [← round_div_mul q hden]
  exact round_div_mono hden h

/-- A quotient that is no tie is rounded down exactly if it lies below the middle. -/
theorem round_div_le_iff (hden : 0 < den) (htie : 2 * num ≠ (2 * q + 1) * den) :
    roundDiv num den ≤ q ↔ 2 * num < (2 * q + 1) * den := by
  obtain ⟨hlow, hhigh⟩ := round_div_near num hden
  have hmiddle : (2 * q + 1) * den = 2 * (q * den) + den := by ring
  constructor
  · intro hle
    have hscaled : roundDiv num den * den ≤ q * den := Nat.mul_le_mul_right den hle
    omega
  · intro hless
    by_contra hmore
    have hscaled : (q + 1) * den ≤ roundDiv num den * den :=
      Nat.mul_le_mul_right den (by omega)
    rw [Nat.succ_mul] at hscaled
    omega

end

section
variable {n m : Nat}

theorem round53_eq (n : Nat) :
    round53 n = roundDiv n (2 ^ (n.log2 - 52)) * 2 ^ (n.log2 - 52) := rfl

/-- Rounding does not leave the range between two powers of two. -/
theorem round53_between (hn : n ≠ 0) :
    2 ^ n.log2 ≤ round53 n ∧ round53 n ≤ 2 ^ (n.log2 + 1) := by
  have hunit : 0 < 2 ^ (n.log2 - 52) := Nat.two_pow_pos _
  have hsplit (k : Nat) (hk : n.log2 ≤ k) :
      2 ^ (k - (n.log2 - 52)) * 2 ^ (n.log2 - 52) = 2 ^ k := by
    rw [← Nat.pow_add, Nat.sub_add_cancel (by omega)]
  rw [round53_eq]
  constructor
  · rw [← hsplit n.log2 le_rfl]
    apply Nat.mul_le_mul_right
    apply le_round_div hunit
    rw [hsplit n.log2 le_rfl]
    exact Nat.log2_self_le hn
  · rw [← hsplit (n.log2 + 1) (by omega)]
    apply Nat.mul_le_mul_right
    apply round_div_le hunit
    rw [hsplit (n.log2 + 1) (by omega)]
    exact Nat.lt_log2_self.le

theorem round53_mono (h : n ≤ m) : round53 n ≤ round53 m := by
  by_cases hn : n = 0
  · rw [hn, round53_of_small 0 (by decide)]
    exact Nat.zero_le _
  have hm : m ≠ 0 := by omega
  have hlog : n.log2 ≤ m.log2 := by
    rw [Nat.le_log2 hm]
    exact (Nat.log2_self_le hn).trans h
  by_cases hsame : n.log2 = m.log2
  · rw [round53_eq, round53_eq, hsame]
    exact Nat.mul_le_mul_right _ (round_div_mono (Nat.two_pow_pos _) h)
  · calc
      round53 n ≤ 2 ^ (n.log2 + 1) := (round53_between hn).2
      _ ≤ 2 ^ m.log2 := Nat.pow_le_pow_right (by decide) (by omega)
      _ ≤ round53 m := (round53_between hm).1

theorem round53_self (h : n ≤ 2 ^ 53) : round53 n = n := by
  rcases Nat.lt_or_eq_of_le h with hless | rfl
  · exact round53_of_small n hless
  · rfl

end

end FileSearch.Decimal
