import FileSearch.Output.Size
import FileSearch.Proofs.Decimal.Rounding
import FileSearch.Proofs.Json.Scalars
import Mathlib.Algebra.Order.Field.Rat
import Mathlib.Tactic.IntervalCases
import Mathlib.Tactic.Linarith
import Mathlib.Tactic.NormNum

/-!
# Shown sizes

A size that is shown is read back as a number of units. Greater sizes are not shown as fewer
bytes, and below the precision of binary64 a size is shown to a twentieth of its unit. The unit
is chosen before the number is rounded, so the number can be 1024 and not less, and is in the
last twentieth of a unit below the next one.
-/

set_option autoImplicit false

namespace FileSearch.Output

def units : List (String × Nat) :=
  [("B", 1), ("KiB", 1024), ("MiB", 1024 ^ 2), ("GiB", 1024 ^ 3), ("TiB", 1024 ^ 4)]

structure Quantity where
  number : ℚ
  /-- The bytes of the unit. -/
  unit : Nat

namespace Quantity

def bytes (q : Quantity) : ℚ := q.number * q.unit

def magnitude? (s : List Char) : Option (ℚ × List Char) :=
  match Json.whole? s with
  | none => none
  | some (whole, rest) =>
    match Json.decimals? rest with
    | none => some (Json.natOfDigits whole, rest)
    | some (places, rest) =>
      some (Json.natOfDigits (whole ++ places) / 10 ^ places.length, rest)

def number? : List Char → Option (ℚ × List Char)
  | '-' :: s => (magnitude? s).map fun read => (-read.1, read.2)
  | s => magnitude? s

def unit? : List Char → Option Nat
  | ' ' :: unit => units.lookup (String.ofList unit)
  | _ => none

def ofText? (text : String) : Option Quantity :=
  match number? text.toList with
  | none => none
  | some (number, rest) => (unit? rest).map fun unit => ⟨number, unit⟩

theorem space_no_digit {rest : List Char} (h : rest.head? = some ' ') :
    ∀ c ∈ rest.head?, c.isDigit = false := by
  intro c hc
  rw [h] at hc
  cases hc
  rfl

theorem magnitude_whole (n : Nat) {rest : List Char} (h : rest.head? = some ' ') :
    magnitude? (Nat.toDigits 10 n ++ rest) = some ((n : ℚ), rest) := by
  have hpoint : Json.decimals? rest = none := by
    cases rest with
    | nil => cases h
    | cons c rest =>
      cases h
      rfl
  rw [magnitude?, Json.whole_digits n (space_no_digit h)]
  simp only [hpoint, Json.nat_of_digits]

theorem nat_of_tenths (n : Nat) :
    Json.natOfDigits (Nat.toDigits 10 (n / 10) ++ Nat.toDigits 10 (n % 10)) = n := by
  have hdigit : ∀ d < 10, (Nat.digitChar d).toNat - '0'.toNat = d := by decide
  have hlast : n % 10 < 10 := Nat.mod_lt n (by decide)
  have hwhole := Json.nat_of_digits (n / 10)
  rw [Json.natOfDigits] at hwhole
  rw [Nat.toDigits_of_lt_base hlast, Json.natOfDigits, List.foldl_append, hwhole,
    List.foldl_cons, List.foldl_nil, hdigit _ hlast]
  omega

theorem magnitude_tenths (n : Nat) {rest : List Char} (h : rest.head? = some ' ') :
    magnitude? ((Decimal.tenthsText n).toList ++ rest) = some ((n : ℚ) / 10, rest) := by
  have hlength : (Nat.toDigits 10 (n % 10)).length = 1 := by
    rw [Nat.toDigits_of_lt_base (Nat.mod_lt n (by decide))]
    rfl
  have htext : (Decimal.tenthsText n).toList ++ rest =
      Nat.toDigits 10 (n / 10) ++ '.' :: (Nat.toDigits 10 (n % 10) ++ rest) := by
    simp [Decimal.tenthsText]
  have hdecimals : Json.decimals? ('.' :: (Nat.toDigits 10 (n % 10) ++ rest)) =
      some (Nat.toDigits 10 (n % 10), rest) := Json.digits_digits (n % 10) (space_no_digit h)
  rw [htext, magnitude?, Json.whole_digits (n / 10) (by simp)]
  simp only [hdecimals, nat_of_tenths, hlength, pow_one]

theorem number_magnitude (n : Nat) (rest : List Char) :
    number? (Nat.toDigits 10 n ++ rest) = magnitude? (Nat.toDigits 10 n ++ rest) := by
  obtain ⟨c, ds, hds⟩ := List.exists_cons_of_ne_nil (@Nat.toDigits_ne_nil n 10)
  have hc : c.isDigit = true := Json.digits_digit (hds ▸ List.mem_cons_self)
  rw [hds, List.cons_append, number?]
  rintro s hminus
  obtain ⟨rfl, -⟩ := List.cons.inj hminus
  cases hc

theorem read_bytes (n : Int) : ofText? s!"{n} B" = some ⟨n, 1⟩ := by
  have hunit : unit? [' ', 'B'] = some 1 := by decide
  have hnumber : number? ((toString n).toList ++ [' ', 'B']) = some ((n : ℚ), [' ', 'B']) := by
    rw [Json.int_text]
    by_cases hn : 0 ≤ n
    · have hvalue : ((n.toNat : ℕ) : ℚ) = n := by
        exact_mod_cast Int.toNat_of_nonneg hn
      rw [if_pos hn, number_magnitude, magnitude_whole n.toNat rfl, hvalue]
    · have hvalue : (((-n).toNat : ℕ) : ℚ) = -n := by
        exact_mod_cast Int.toNat_of_nonneg (by omega)
      rw [if_neg hn, List.cons_append, number?, magnitude_whole (-n).toNat rfl, Option.map_some,
        hvalue, neg_neg]
  have htext : (s!"{n} B").toList = (toString n).toList ++ [' ', 'B'] := by
    rw [String.toList_append]
    rfl
  rw [ofText?, htext, hnumber]
  simp only [hunit, Option.map_some]

theorem read_in_unit (size power : Nat) {name : String} {bytes : Nat}
    (h : units.lookup name = some bytes) :
    ofText? (inUnit size power name) = some ⟨(tenths size power : ℚ) / 10, bytes⟩ := by
  have hunit : unit? (' ' :: name.toList) = some bytes := by
    rw [unit?, String.ofList_toList, h]
  have htext : (inUnit size power name).toList =
      (Decimal.tenthsText (tenths size power)).toList ++ ' ' :: name.toList := by
    simp [inUnit]
  have hfront : number? (inUnit size power name).toList =
      magnitude? (inUnit size power name).toList := by
    simp only [inUnit, Decimal.tenthsText, String.toList_append, Nat.toString_eq_repr,
      Nat.toList_repr, List.append_assoc]
    exact number_magnitude _ _
  rw [ofText?, hfront, htext, magnitude_tenths _ rfl]
  simp only [hunit, Option.map_some]

end Quantity

inductive Shown : Int → Quantity → Prop
  | bytes {size : Int} (hsmall : size < 1024) : Shown size ⟨size, 1⟩
  | rounded {size : Int} {power : Nat} (hlarge : 1024 ≤ size) (hpower : 1 ≤ power ∧ power ≤ 4)
    (hlow : 1024 ^ power ≤ Decimal.round53 size.toNat)
    (hhigh : power < 4 → Decimal.round53 size.toNat < 1024 ^ (power + 1)) :
    Shown size ⟨(tenths (Decimal.round53 size.toNat) power : ℚ) / 10, 1024 ^ power⟩

theorem large_size_unit {n : Nat} (h : 1024 ≤ n) :
    ∃ power name, largeSize n = inUnit n power name ∧
      units.lookup name = some (1024 ^ power) ∧ (1 ≤ power ∧ power ≤ 4) ∧ 1024 ^ power ≤ n ∧
      (power < 4 → n < 1024 ^ (power + 1)) := by
  rw [largeSize]
  simp only [Nat.pow_eq]
  by_cases hmega : n < 1024 ^ 2
  · exact ⟨1, "KiB", if_pos hmega, rfl, by decide, h, fun _ => hmega⟩
  rw [if_neg hmega]
  by_cases hgiga : n < 1024 ^ 3
  · exact ⟨2, "MiB", if_pos hgiga, rfl, by decide, not_lt.1 hmega, fun _ => hgiga⟩
  rw [if_neg hgiga]
  by_cases htera : n < 1024 ^ 4
  · exact ⟨3, "GiB", if_pos htera, rfl, by decide, not_lt.1 hgiga, fun _ => htera⟩
  · exact ⟨4, "TiB", if_neg htera, rfl, by decide, not_lt.1 htera, nofun⟩

theorem round53_large {size : Int} (h : 1024 ≤ size) : 1024 ≤ Decimal.round53 size.toNat := by
  have hsize : 1024 ≤ size.toNat := by omega
  have hmono := Decimal.round53_mono hsize
  rwa [Decimal.round53_self (by decide)] at hmono

theorem format_size_shown {size : Int} {text : String} (h : formatSize size = .ok text) :
    ∃ q, Quantity.ofText? text = some q ∧ Shown size q := by
  rw [formatSize] at h
  by_cases hsmall : size < 1024
  · rw [if_pos hsmall] at h
    cases h
    exact ⟨_, Quantity.read_bytes size, .bytes hsmall⟩
  · rw [if_neg hsmall] at h
    have hlarge : 1024 ≤ size := not_lt.1 hsmall
    obtain ⟨power, name, htext, hname, hpower, hlow, hhigh⟩ :=
      large_size_unit (round53_large hlarge)
    dsimp only at h
    split at h
    · cases h
    · cases h
      refine ⟨_, ?_, .rounded hlarge hpower hlow hhigh⟩
      rw [htext]
      exact Quantity.read_in_unit _ _ hname

theorem format_size_ok {size : Int} (h : size ≤ 2 ^ 53) : ∃ text, formatSize size = .ok text := by
  have hround : Decimal.round53 size.toNat = size.toNat := Decimal.round53_self (by omega)
  have hlimit : 2 ^ 53 < sizeLimit := by decide +kernel
  rw [formatSize, hround]
  split
  · exact ⟨_, rfl⟩
  · dsimp only
    rw [if_neg (by omega)]
    exact ⟨_, rfl⟩

section
variable {n m power power' : Nat}

theorem tenths_mono (h : n ≤ m) : tenths n power ≤ tenths m power :=
  Decimal.round_div_mono (Nat.pow_pos (by decide)) (by omega)

theorem ten_le_tenths (h : 1024 ^ power ≤ n) : 10 ≤ tenths n power :=
  Decimal.le_round_div (Nat.pow_pos (by decide)) (Nat.mul_le_mul_left 10 h)

theorem tenths_le_next (h : n ≤ 1024 ^ (power + 1)) : tenths n power ≤ 10 * 1024 := by
  apply Decimal.round_div_le (Nat.pow_pos (by decide))
  rw [Nat.mul_assoc, Nat.mul_comm 1024, ← Nat.pow_succ]
  exact Nat.mul_le_mul_left 10 h

/-- Between sizes in different units lies a size that is exact in both. -/
theorem scaled_tenths_mono (h : n ≤ m) (hhigh : power < power' → n ≤ 1024 ^ (power + 1))
    (hlow' : 1024 ^ power' ≤ m) (hunits : power ≤ power') :
    tenths n power * 1024 ^ power ≤ tenths m power' * 1024 ^ power' := by
  rcases Nat.lt_or_eq_of_le hunits with hless | rfl
  · have hfew : tenths n power ≤ 10 * 1024 := tenths_le_next (hhigh hless)
    have hmany : 10 ≤ tenths m power' := ten_le_tenths hlow'
    calc
      tenths n power * 1024 ^ power ≤ 10 * 1024 * 1024 ^ power := Nat.mul_le_mul_right _ hfew
      _ = 10 * 1024 ^ (power + 1) := by rw [Nat.pow_succ]; ring
      _ ≤ 10 * 1024 ^ power' := by
        apply Nat.mul_le_mul_left
        exact Nat.pow_le_pow_right (by decide) hless
      _ ≤ tenths m power' * 1024 ^ power' := Nat.mul_le_mul_right _ hmany
  · exact Nat.mul_le_mul_right _ (tenths_mono h)

end

theorem shown_mono {s t : Int} {p q : Quantity} (hp : Shown s p) (hq : Shown t q) (h : s ≤ t) :
    p.bytes ≤ q.bytes := by
  cases hp with
  | bytes hsmall =>
    cases hq with
    | bytes hsmall' =>
      have hsizes : (s : ℚ) ≤ t := by exact_mod_cast h
      simpa [Quantity.bytes] using hsizes
    | @rounded power hlarge hpower hlow hhigh =>
      have hten : 10 ≤ tenths (Decimal.round53 t.toNat) power := ten_le_tenths hlow
      have hunit : 1024 ^ 1 ≤ 1024 ^ power := Nat.pow_le_pow_right (by decide) hpower.1
      have hscaled : 10 * 1024 ≤ tenths (Decimal.round53 t.toNat) power * 1024 ^ power :=
        Nat.mul_le_mul hten hunit
      have hbytes : (10 * 1024 : ℚ) ≤ tenths (Decimal.round53 t.toNat) power * 1024 ^ power := by
        exact_mod_cast hscaled
      have hsize : (s : ℚ) ≤ 1024 := by exact_mod_cast hsmall.le
      simp only [Quantity.bytes, Nat.cast_pow, Nat.cast_ofNat, Nat.cast_one, mul_one]
      linarith
  | @rounded power hlarge hpower hlow hhigh =>
    cases hq with
    | bytes hsmall => omega
    | @rounded power' hlarge' hpower' hlow' hhigh' =>
      have hround := Decimal.round53_mono (Int.toNat_le_toNat h)
      have hunits : power ≤ power' := by
        by_contra hless
        have hbelow := hhigh' (by omega)
        have hpowers : 1024 ^ (power' + 1) ≤ 1024 ^ power :=
          Nat.pow_le_pow_right (by decide) (by omega)
        omega
      have hscaled := scaled_tenths_mono hround (fun hless => (hhigh (by omega)).le) hlow' hunits
      have hbytes : (tenths (Decimal.round53 s.toNat) power * 1024 ^ power : ℚ) ≤
          tenths (Decimal.round53 t.toNat) power' * 1024 ^ power' := by
        exact_mod_cast hscaled
      simp only [Quantity.bytes, Nat.cast_pow, Nat.cast_ofNat]
      linarith

theorem shown_near {size : Int} {q : Quantity} (h : Shown size q) (hexact : size ≤ 2 ^ 53) :
    |q.bytes - size| ≤ q.unit / 20 := by
  cases h with
  | bytes hsmall =>
    simp only [Quantity.bytes, Nat.cast_one, mul_one, sub_self, abs_zero]
    norm_num
  | @rounded power hlarge hpower hlow hhigh =>
    have hround : Decimal.round53 size.toNat = size.toNat := Decimal.round53_self (by omega)
    have hsize : ((size.toNat : ℕ) : ℚ) = size := by
      exact_mod_cast Int.toNat_of_nonneg (by omega)
    obtain ⟨hless, hmore⟩ := Decimal.round_div_near (10 * size.toNat)
      (show 0 < 1024 ^ power from Nat.pow_pos (by decide))
    have hless' : (2 * (10 * size.toNat) : ℚ) ≤
        2 * (tenths size.toNat power * 1024 ^ power) + 1024 ^ power := by exact_mod_cast hless
    have hmore' : (2 * (tenths size.toNat power * 1024 ^ power) : ℚ) ≤
        2 * (10 * size.toNat) + 1024 ^ power := by exact_mod_cast hmore
    rw [hsize] at hless' hmore'
    rw [hround]
    simp only [Quantity.bytes, Nat.cast_pow, Nat.cast_ofNat]
    rw [abs_le]
    constructor
    · linarith
    · linarith

/-- A greater size is never shown as fewer bytes. A size that binary64 holds exactly, and that is
not shown in bytes, is shown to a twentieth of its unit. -/
theorem sizes_in_order :
    (∀ (s t : Int) (a b : String), s ≤ t → formatSize s = .ok a → formatSize t = .ok b →
      ∃ p q, Quantity.ofText? a = some p ∧ Quantity.ofText? b = some q ∧ p.bytes ≤ q.bytes) ∧
    ∀ s : Int, 1024 ≤ s → s ≤ 2 ^ 53 →
      ∃ text q, formatSize s = .ok text ∧ Quantity.ofText? text = some q ∧
        |q.bytes - s| ≤ q.unit / 20 := by
  constructor
  · intro s t a b h ha hb
    obtain ⟨p, hp, hshown⟩ := format_size_shown ha
    obtain ⟨q, hq, hshown'⟩ := format_size_shown hb
    exact ⟨p, q, hp, hq, shown_mono hshown hshown' h⟩
  · intro s _ hs
    obtain ⟨text, htext⟩ := format_size_ok hs
    obtain ⟨q, hq, hshown⟩ := format_size_shown htext
    exact ⟨text, q, htext, hq, shown_near hshown hs⟩

/-- The greatest size in KiB is shown as 1024 of them, like the least one in MiB. -/
theorem neighbours_in_order :
    formatSize 1048575 = .ok "1024.0 KiB" ∧ formatSize 1048576 = .ok "1.0 MiB" ∧
      ∃ p q, Quantity.ofText? "1024.0 KiB" = some p ∧ Quantity.ofText? "1.0 MiB" = some q ∧
        p.bytes ≤ q.bytes ∧ |p.bytes - (1048575 : Int)| ≤ p.unit / 20 := by
  have hless : formatSize 1048575 = .ok "1024.0 KiB" := by decide +kernel
  have hmore : formatSize 1048576 = .ok "1.0 MiB" := by decide +kernel
  obtain ⟨p, q, hp, hq, horder⟩ := sizes_in_order.1 _ _ _ _ (by decide) hless hmore
  obtain ⟨text, r, htext, hr, hnear⟩ := sizes_in_order.2 1048575 (by decide) (by decide)
  rw [hless] at htext
  cases htext
  rw [hp] at hr
  cases hr
  exact ⟨hless, hmore, p, q, hp, hq, horder, hnear⟩

/-- Only in the greatest unit are sizes shown that binary64 does not hold exactly. -/
theorem round53_in_unit {n power : Nat} (hpower : power < 4)
    (h : Decimal.round53 n < 1024 ^ (power + 1)) : Decimal.round53 n = n := by
  apply Decimal.round53_self
  by_contra hlarger
  have hmono := Decimal.round53_mono (Nat.le_of_not_le hlarger)
  rw [Decimal.round53_self le_rfl] at hmono
  have hpowers : 1024 ^ (power + 1) ≤ 1024 ^ 4 := Nat.pow_le_pow_right (by decide) hpower
  have hgap : 1024 ^ 4 < 2 ^ 53 := by decide
  omega

theorem tenths_lt_iff {n power : Nat} (hlow : 1 ≤ power) (hhigh : power < 4) :
    (tenths n power : ℚ) / 10 < 1024 ↔ (n : ℚ) < (1024 - 1 / 20) * 1024 ^ power := by
  -- five divides the left side and not the right one
  have htie : 2 * (10 * n) ≠ (2 * 10239 + 1) * 1024 ^ power := by
    interval_cases power <;> omega
  have hless : tenths n power ≤ 10239 ↔ 2 * (10 * n) < (2 * 10239 + 1) * 1024 ^ power :=
    Decimal.round_div_le_iff (Nat.pow_pos (by decide)) htie
  calc
    (tenths n power : ℚ) / 10 < 1024 ↔ (tenths n power : ℚ) < 10240 := by
      rw [div_lt_iff₀ (by norm_num)]
      norm_num
    _ ↔ tenths n power ≤ 10239 := by
      rw [← Nat.lt_succ_iff]
      norm_cast
    _ ↔ (2 * (10 * n) : ℚ) < (2 * 10239 + 1) * 1024 ^ power := by
      rw [hless]
      norm_cast
    _ ↔ (n : ℚ) < (1024 - 1 / 20) * 1024 ^ power := by
      constructor <;> intro h <;> linarith

theorem shown_least {size : Int} {q : Quantity} (h : Shown size q) (hunit : q.unit ≠ 1) :
    1 ≤ q.number := by
  cases h with
  | bytes hsmall => exact absurd rfl hunit
  | @rounded power hlarge hpower hlow hhigh =>
    have hnumber : (10 : ℚ) ≤ tenths (Decimal.round53 size.toNat) power := by
      exact_mod_cast ten_le_tenths hlow
    linarith

theorem shown_most {size : Int} {q : Quantity} (h : Shown size q) (hunit : q.unit ≠ 1024 ^ 4) :
    q.number ≤ 1024 ∧ (q.number < 1024 ↔ (size : ℚ) < (1024 - 1 / 20) * q.unit) := by
  cases h with
  | bytes hsmall =>
    have hbelow : (size : ℚ) ≤ 1023 := by exact_mod_cast Int.le_of_lt_add_one hsmall
    refine ⟨by linarith, iff_of_true ?_ ?_⟩
    · linarith
    · norm_num
      linarith
  | @rounded power hlarge hpower hlow hhigh =>
    have hbelow : power < 4 := by
      rcases Nat.lt_or_eq_of_le hpower.2 with hless | rfl
      · exact hless
      · exact absurd rfl hunit
    have hnext := hhigh hbelow
    have hround := round53_in_unit hbelow hnext
    rw [hround] at hnext ⊢
    have hnumber : (tenths size.toNat power : ℚ) ≤ 10 * 1024 := by
      exact_mod_cast tenths_le_next hnext.le
    have hsize : ((size.toNat : ℕ) : ℚ) = size := by
      exact_mod_cast Int.toNat_of_nonneg (by omega)
    have hless := tenths_lt_iff (n := size.toNat) hpower.1 hbelow
    rw [hsize] at hless
    refine ⟨by linarith, ?_⟩
    rw [Nat.cast_pow, Nat.cast_ofNat]
    exact hless

/-- The number of a shown size is one unit at least, unless the unit is the byte. Unless the unit
is the greatest one it is less than the next unit, except for sizes in the last twentieth of a
unit below that, which are shown as 1024. -/
theorem number_fits_unit {size : Int} {text : String} (h : formatSize size = .ok text) :
    ∃ q, Quantity.ofText? text = some q ∧ (q.unit ≠ 1 → 1 ≤ q.number) ∧
      (q.unit ≠ 1024 ^ 4 → q.number ≤ 1024 ∧
        (q.number < 1024 ↔ (size : ℚ) < (1024 - 1 / 20) * q.unit)) := by
  obtain ⟨q, hq, hshown⟩ := format_size_shown h
  exact ⟨q, hq, shown_least hshown, shown_most hshown⟩

theorem late_size_fits :
    formatSize 1048524 = .ok "1023.9 KiB" ∧
      ∃ q, Quantity.ofText? "1023.9 KiB" = some q ∧ (q.unit ≠ 1 → 1 ≤ q.number) ∧
        (q.unit ≠ 1024 ^ 4 → q.number ≤ 1024 ∧
          (q.number < 1024 ↔ ((1048524 : Int) : ℚ) < (1024 - 1 / 20) * q.unit)) := by
  have hshown : formatSize 1048524 = .ok "1023.9 KiB" := by decide +kernel
  exact ⟨hshown, number_fits_unit hshown⟩

/-- A size just below a unit is shown with a number that does not fit its own. -/
theorem number_beyond_unit :
    ¬ ∀ (size : Int) (text : String), 0 ≤ size → formatSize size = .ok text →
      ∃ q, Quantity.ofText? text = some q ∧ (q.unit ≠ 1024 ^ 4 → q.number < 1024) ∧
        (q.unit ≠ 1 → 1 ≤ q.number) := by
  intro h
  have hshown : formatSize 1048575 = .ok "1024.0 KiB" := by decide +kernel
  obtain ⟨q, hq, hless, -⟩ := h 1048575 "1024.0 KiB" (by decide) hshown
  have htext : inUnit 1048576 1 "KiB" = "1024.0 KiB" := by decide +kernel
  have htenths : tenths 1048576 1 = 10240 := by decide +kernel
  have hread : units.lookup "KiB" = some 1024 := rfl
  rw [← htext, Quantity.read_in_unit 1048576 1 hread, htenths] at hq
  cases hq
  have hnumber := hless (by norm_num)
  norm_num at hnumber

end FileSearch.Output
