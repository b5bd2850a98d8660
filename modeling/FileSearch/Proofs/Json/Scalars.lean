import FileSearch.Json.Printer
import FileSearch.Json.Reader

/-!
# Texts, integers and words of a document

What the printer writes for a text, an integer or one of the words is read back, whatever
comes behind it. An integer ends where no digit, point or exponent follows.
-/

set_option autoImplicit false

namespace FileSearch.Json

section
variable {opened : Nat} {rest tail : List Char} {codes : List Nat}

theorem string_codes_escape {e c : Char} (he : escaped? e = some c) (hu : e ≠ 'u')
    (h : stringCodes opened rest = .ok (codes, tail)) :
    stringCodes opened ('\\' :: e :: rest) = .ok (c.toNat :: codes, tail) := by
  rw [stringCodes.eq_6 _ _ _ (fun _ _ _ _ _ _ hu' => absurd hu' hu) hu, he, h]
  rfl

theorem hex_code_control : ∀ code < 0x20, hexCode? (Text.hexDigits 4 code) = some code := by
  decide +kernel

theorem string_codes_control {c next : Char} (hc : c.toNat < 0x20)
    (h : stringCodes opened (next :: rest) = .ok (codes, tail)) :
    stringCodes opened ('\\' :: 'u' :: Text.hexDigits 4 c.toNat ++ next :: rest) =
      .ok (c.toNat :: codes, tail) := by
  have hcode := hex_code_control c.toNat hc
  simp only [Text.hexDigits, List.nil_append, List.cons_append] at hcode ⊢
  rw [stringCodes.eq_4, hcode, h]
  rfl

theorem string_codes_literal {c : Char} (hquote : c ≠ '"') (hback : c ≠ '\\')
    (hc : ¬ c.toNat < 0x20) (h : stringCodes opened rest = .ok (codes, tail)) :
    stringCodes opened (c :: rest) = .ok (c.toNat :: codes, tail) := by
  rw [stringCodes.eq_7 _ _ _ hquote (fun hb => absurd hb hback)
    (fun _ _ _ _ _ _ hb => absurd hb hback) (fun _ hb => absurd hb hback)
    (fun _ _ hb => absurd hb hback), if_neg hc, h]
  rfl

/-- A character is read as its code, also where it is written with an escape. -/
theorem string_codes_char (c : Char) {next : Char}
    (h : stringCodes opened (next :: rest) = .ok (codes, tail)) :
    stringCodes opened (printChar c ++ next :: rest) = .ok (c.toNat :: codes, tail) := by
  rw [printChar.eq_def]
  split
  · exact string_codes_escape rfl (by decide) h
  · exact string_codes_escape rfl (by decide) h
  · exact string_codes_escape rfl (by decide) h
  · exact string_codes_escape rfl (by decide) h
  · exact string_codes_escape rfl (by decide) h
  · exact string_codes_escape rfl (by decide) h
  · exact string_codes_escape rfl (by decide) h
  · next hquote hback _ _ _ _ _ =>
    by_cases hc : c.toNat < 0x20
    · rw [if_pos hc]
      exact string_codes_control hc h
    · rw [if_neg hc]
      exact string_codes_literal hquote hback hc h

end

theorem string_codes_text (opened : Nat) (s rest : List Char) :
    stringCodes opened (s.flatMap printChar ++ '"' :: rest) = .ok (s.map Char.toNat, rest) := by
  induction s with
  | nil => rfl
  | cons c s ih =>
    rw [List.flatMap_cons, List.append_assoc, List.map_cons]
    -- an escape is read together with what follows it, so that is opened up
    rcases htail : s.flatMap printChar ++ '"' :: rest with _ | ⟨next, more⟩
    · simp at htail
    · rw [htail] at ih
      exact string_codes_char c ih

theorem no_half (c : Char) : isHighHalf c.toNat = false ∧ isLowHalf c.toNat = false := by
  have hvalid : c.toNat < 0xD800 ∨ (0xDFFF < c.toNat ∧ c.toNat < 0x110000) := c.valid
  simp only [isHighHalf, isLowHalf, Bool.and_eq_false_iff, decide_eq_false_iff_not]
  omega

theorem code_char (c : Char) : codeChar c.toNat = c := by
  obtain ⟨hhigh, hlow⟩ := no_half c
  rw [codeChar, hhigh, hlow, Bool.or_false, if_neg (by decide), Char.ofNat_toNat]

theorem join_halves_codes (s : List Char) : joinHalves (s.map Char.toNat) = s := by
  induction s with
  | nil => rfl
  | cons c s ih =>
    cases s with
    | nil => rw [List.map_singleton, joinHalves, code_char]
    | cons d s =>
      rw [List.map_cons, List.map_cons, joinHalves, (no_half c).1, Bool.false_and,
        if_neg (by decide), code_char, ← List.map_cons, ih]

theorem string_text (s : String) (rest : List Char) :
    string (s.toList.flatMap printChar ++ '"' :: rest) = .ok (s, rest) := by
  rw [string, string_codes_text]
  change Except.ok (String.ofList (joinHalves (s.toList.map Char.toNat)), rest) = _
  rw [join_halves_codes, String.ofList_toList]

def Ends (rest : List Char) : Prop := ∀ c ∈ rest.head?, c = ',' ∨ c = '\n'

theorem ends_nil : Ends [] := by simp [Ends]

theorem nat_of_digits (n : Nat) : natOfDigits (Nat.toDigits 10 n) = n := by
  rw [natOfDigits, ← Nat.ofDigitChars_eq_foldl, Nat.ofDigitChars_ten_toDigits]

theorem digits_digit {n : Nat} {c : Char} (h : c ∈ Nat.toDigits 10 n) : c.isDigit = true :=
  Nat.isDigit_of_mem_toDigits (by decide) (by decide) h

theorem digit_char_zero : ∀ d < 10, Nat.digitChar d = '0' → d = 0 := by decide

theorem digits_zero {n : Nat} {ds : List Char} (h : Nat.toDigits 10 n = '0' :: ds) : n = 0 := by
  induction n using Nat.strongRecOn generalizing ds with
  | ind n ih =>
    rw [Nat.toDigits_eq_if (by decide)] at h
    by_cases hn : n < 10
    · rw [if_pos hn] at h
      exact digit_char_zero n hn (List.cons.inj h).1
    · rw [if_neg hn] at h
      obtain ⟨c, front, hfront⟩ := List.exists_cons_of_ne_nil (@Nat.toDigits_ne_nil (n / 10) 10)
      rw [hfront, List.cons_append] at h
      obtain ⟨rfl, -⟩ := List.cons.inj h
      have hzero := ih (n / 10) (by omega) hfront
      omega

/-- The digits of a number are read up to what is no digit. -/
theorem digits_digits (n : Nat) {rest : List Char} (h : ∀ c ∈ rest.head?, c.isDigit = false) :
    digits? (Nat.toDigits 10 n ++ rest) = some (Nat.toDigits 10 n, rest) := by
  have htake : (Nat.toDigits 10 n ++ rest).takeWhile Char.isDigit = Nat.toDigits 10 n := by
    rw [List.takeWhile_append_of_pos fun c hc => digits_digit hc]
    cases rest with
    | nil => simp
    | cons c rest => simp [h c (by simp)]
  have hdrop : (Nat.toDigits 10 n ++ rest).dropWhile Char.isDigit = rest := by
    rw [List.dropWhile_append_of_pos fun c hc => digits_digit hc]
    cases rest with
    | nil => simp
    | cons c rest => simp [h c (by simp)]
  rw [digits?, htake, hdrop]
  split
  · next hnil => exact absurd hnil Nat.toDigits_ne_nil
  · rfl

theorem whole_digits (n : Nat) {rest : List Char} (h : ∀ c ∈ rest.head?, c.isDigit = false) :
    whole? (Nat.toDigits 10 n ++ rest) = some (Nat.toDigits 10 n, rest) := by
  have hdigits := digits_digits n h
  obtain ⟨c, ds, hds⟩ := List.exists_cons_of_ne_nil (@Nat.toDigits_ne_nil n 10)
  by_cases hc : c = '0'
  · subst hc
    obtain rfl := digits_zero hds
    rfl
  · rw [hds, List.cons_append] at hdigits ⊢
    rw [whole?, hdigits]
    rintro rest' hzero
    exact hc (List.cons.inj hzero).1

theorem magnitude_digits (negative : Bool) (n : Nat) {rest : List Char} (h : Ends rest) :
    magnitude? negative (Nat.toDigits 10 n ++ rest) =
      some (.int (if negative then -n else n), rest) := by
  have hpoint : decimals? rest = none := by
    cases rest with
    | nil => rfl
    | cons c rest => rcases h c (by simp) with rfl | rfl <;> rfl
  have hexponent : exponent? rest = none := by
    cases rest with
    | nil => rfl
    | cons c rest => rcases h c (by simp) with rfl | rfl <;> rfl
  have hstop : ∀ c ∈ rest.head?, c.isDigit = false := by
    intro c hc
    rcases h c hc with rfl | rfl <;> rfl
  rw [magnitude?, whole_digits n hstop]
  simp only [hpoint, Option.elim_none, hexponent, nat_of_digits]

theorem int_text (n : Int) :
    (toString n).toList =
      if 0 ≤ n then Nat.toDigits 10 n.toNat else '-' :: Nat.toDigits 10 (-n).toNat := by
  rw [show toString n = n.repr from rfl, Int.repr_eq_if]
  split
  · rw [Nat.repr_eq_ofList_toDigits, String.toList_ofList]
  · rw [Nat.repr_eq_ofList_toDigits, String.toList_append]
    simp

theorem int_char {n : Int} {c : Char} (h : c ∈ (toString n).toList) :
    c = '-' ∨ c.isDigit = true := by
  rw [int_text] at h
  split at h
  · exact .inr (digits_digit h)
  · rcases List.mem_cons.1 h with hsign | hdigit
    · exact .inl hsign
    · exact .inr (digits_digit hdigit)

theorem after_mismatch {c d : Char} (h : c ≠ d) (word s : List Char) :
    Text.after? (c :: word) (d :: s) = none := by
  rw [Text.after?, if_neg h]

theorem digit_ne {c d : Char} (hc : c.isDigit = true) (hd : d.isDigit = false) : c ≠ d := by
  rintro rfl
  rw [hc] at hd
  cases hd

theorem word_digit {c : Char} (hc : c.isDigit = true) (s : List Char) : word? (c :: s) = none := by
  have hne (d : Char) (hd : d.isDigit = false) : d ≠ c := (digit_ne hc hd).symm
  simp [word?, words, after_mismatch, hne]

theorem word_minus {c : Char} (hc : c.isDigit = true) (s : List Char) :
    word? ('-' :: c :: s) = none := by
  have hne : 'I' ≠ c := (digit_ne hc rfl).symm
  simp [word?, words, Text.after?, hne]

theorem atom_int (n : Int) {rest : List Char} (h : Ends rest) :
    atom ((toString n).toList ++ rest) = .ok (.int n, rest) := by
  have hdigits (m : Nat) : ∃ c ds, Nat.toDigits 10 m = c :: ds ∧ c.isDigit = true := by
    obtain ⟨c, ds, hds⟩ := List.exists_cons_of_ne_nil (@Nat.toDigits_ne_nil m 10)
    exact ⟨c, ds, hds, digits_digit (hds ▸ List.mem_cons_self)⟩
  rw [int_text]
  by_cases hn : 0 ≤ n
  · obtain ⟨c, ds, hds, hc⟩ := hdigits n.toNat
    have hminus : ∀ s, c :: (ds ++ rest) = '-' :: s → False := by
      rintro s hs
      obtain ⟨rfl, -⟩ := List.cons.inj hs
      cases hc
    have hmagnitude := magnitude_digits false n.toNat h
    have hvalue : (if false = true then -(n.toNat : Int) else n.toNat) = n := by
      rw [if_neg (by decide)]
      omega
    rw [hvalue, hds, List.cons_append] at hmagnitude
    rw [if_pos hn, hds, List.cons_append, atom, word_digit hc]
    · simp only [hmagnitude]
    · exact hminus
  · obtain ⟨c, ds, hds, hc⟩ := hdigits (-n).toNat
    have hmagnitude := magnitude_digits true (-n).toNat h
    have hvalue : (if true = true then -((-n).toNat : Int) else (-n).toNat) = n := by
      rw [if_pos rfl]
      omega
    rw [hvalue, hds, List.cons_append] at hmagnitude
    rw [if_neg hn, hds, List.cons_append, List.cons_append, atom, word_minus hc]
    simp only [hmagnitude]

theorem int_injective {m n : Int} (h : toString m = toString n) : m = n := by
  have hm := atom_int m ends_nil
  have hn := atom_int n ends_nil
  rw [h, hn] at hm
  cases hm
  rfl

end FileSearch.Json
