import FileSearch.Query.Token

/-!
# Cutting texts into tokens

One equation for each kind of token: what a text has to begin with, and where cutting
goes on. A text whose ends are not blank is its own trimmed form, and only such texts
are behind an opening parenthesis or an operator word without a change.
-/

set_option autoImplicit false

namespace FileSearch.Query

def SolidFront (s : List Char) : Prop := ∀ c ∈ s.head?, Text.isBlank c = false

def SolidBack (s : List Char) : Prop := ∀ c ∈ s.getLast?, Text.isBlank c = false

instance (s : List Char) : Decidable (SolidBack s) :=
  decidable_of_iff (s.getLast?.all (!Text.isBlank ·) = true) (by
    rw [SolidBack]
    cases s.getLast? <;> simp)

theorem trim_left_solid {s : List Char} (h : SolidFront s) : Text.trimLeft s = s := by
  cases s with
  | nil => rfl
  | cons c s =>
    have hc : Text.isBlank c = false := h c (by simp)
    simp [Text.trimLeft, hc]

theorem trim_right_solid {s : List Char} (h : SolidBack s) : Text.trimRight s = s := by
  have hr : SolidFront s.reverse := fun c hc => h c (by simpa using hc)
  have ht : Text.trimLeft s.reverse = s.reverse := trim_left_solid hr
  rw [Text.trimRight]
  change (Text.trimLeft s.reverse).reverse = s
  rw [ht, List.reverse_reverse]

theorem trim_solid {s : List Char} (hf : SolidFront s) (hb : SolidBack s) : Text.trim s = s := by
  rw [Text.trim, trim_left_solid hf, trim_right_solid hb]

theorem trim_left_blank {c : Char} (hc : Text.isBlank c = true) (s : List Char) :
    Text.trimLeft (c :: s) = Text.trimLeft s := by
  simp [Text.trimLeft, hc]

theorem trim_blank {c : Char} (hc : Text.isBlank c = true) (s : List Char) :
    Text.trim (c :: s) = Text.trim s := by
  rw [Text.trim, trim_left_blank hc, Text.trim]

theorem trim_right_blank {c : Char} (hc : Text.isBlank c = true) (s : List Char) :
    Text.trimRight (s ++ [c]) = Text.trimRight s := by
  rw [Text.trimRight, List.reverse_append, List.reverse_singleton, List.singleton_append,
    List.dropWhile_cons, if_pos hc, Text.trimRight]

theorem trim_right_begins (s : List Char) : Text.trimRight s <+: s := by
  have h := List.reverse_prefix.2 (List.dropWhile_suffix (l := s.reverse) Text.isBlank)
  rwa [List.reverse_reverse] at h

theorem solid_front_append {s t : List Char} (hs : s ≠ []) (h : SolidFront s) :
    SolidFront (s ++ t) := by
  obtain ⟨c, s, rfl⟩ := List.exists_cons_of_ne_nil hs
  simpa [SolidFront] using h

theorem solid_back_of_nonempty {s t : List Char} (hne : t ≠ []) (ht : SolidBack t) :
    SolidBack (s ++ t) := by
  rcases List.eq_nil_or_concat t with rfl | ⟨t, d, rfl⟩
  · exact absurd rfl hne
  · exact fun c hc => ht c (by simpa [List.getLast?_append] using hc)

theorem solid_back_append {s t : List Char} (hs : SolidBack s) (ht : SolidBack t) :
    SolidBack (s ++ t) := by
  intro c hc
  rcases List.eq_nil_or_concat t with rfl | ⟨t, d, rfl⟩
  · exact hs c (by simpa using hc)
  · exact solid_back_of_nonempty (by simp) ht c hc

theorem solid_back_suffix {s t : List Char} (h : t <:+ s) (hs : SolidBack s) : SolidBack t := by
  obtain ⟨front, rfl⟩ := h
  intro c hc
  refine hs c ?_
  rw [Option.mem_def] at hc ⊢
  rw [List.getLast?_append, hc, Option.some_or]

theorem trim_left_blanks {s : List Char} (h : Text.trimLeft s = []) (t : List Char) :
    Text.trimLeft (s ++ t) = Text.trimLeft t := by
  have hempty : (s.dropWhile Text.isBlank).isEmpty = true := List.isEmpty_iff.2 h
  rw [Text.trimLeft, List.dropWhile_append, if_pos hempty]
  rfl

theorem trim_left_append {s t : List Char} (h : Text.trimLeft s ≠ [] ∨ SolidFront t) :
    Text.trimLeft (s ++ t) = Text.trimLeft s ++ t := by
  by_cases hnil : Text.trimLeft s = []
  · rw [trim_left_blanks hnil, hnil, List.nil_append]
    exact trim_left_solid (h.resolve_left (not_not_intro hnil))
  · have hempty : ¬ (s.dropWhile Text.isBlank).isEmpty = true := mt List.isEmpty_iff.1 hnil
    rw [Text.trimLeft, List.dropWhile_append, if_neg hempty]
    rfl

theorem trim_right_behind {c : Char} (hc : Text.isBlank c = false) (s t : List Char) :
    Text.trimRight (s ++ c :: t) = s ++ c :: Text.trimRight t := by
  have hfront : SolidFront (c :: s.reverse) := by simpa [SolidFront] using hc
  have hleft := trim_left_append (s := t.reverse) (.inr hfront)
  have hrev : (s ++ c :: t).reverse = t.reverse ++ c :: s.reverse := by simp
  rw [Text.trimRight, hrev]
  change (Text.trimLeft (t.reverse ++ c :: s.reverse)).reverse = _
  rw [hleft, List.reverse_append, List.reverse_cons, List.reverse_reverse, List.append_assoc]
  rfl

theorem trim_back {s : List Char} (hs : SolidBack s) :
    Text.trim s = Text.trimLeft s ∧ SolidBack (Text.trimLeft s) := by
  have hback : SolidBack (Text.trimLeft s) := solid_back_suffix (List.dropWhile_suffix _) hs
  exact ⟨trim_right_solid hback, hback⟩

namespace Token

def operatorWords : List (List Char) := [['N', 'O', 'T'], ['O', 'R'], ['A', 'N', 'D']]

def NoOperator (s : List Char) : Prop := ∀ word ∈ operatorWords, ¬ word <+: Text.trimLeft s

theorem after_eq_none_iff (word s : List Char) :
    after? word s = none ↔ ¬ word <+: Text.trimLeft s := by
  rw [after?, Option.map_eq_none_iff, Option.eq_none_iff_forall_not_mem]
  constructor
  · rintro h ⟨rest, hrest⟩
    exact h rest ((Text.after_eq_some_iff _ _ _).2 hrest.symm)
  · rintro h rest hrest
    exact h ⟨rest, ((Text.after_eq_some_iff _ _ _).1 hrest).symm⟩

theorem after_append (word : List Char) {s rest : List Char}
    (h : Text.trimLeft s = word ++ rest) : after? word s = some (Text.trim rest) := by
  rw [after?, (Text.after_eq_some_iff _ _ _).2 h, Option.map_some]

theorem operator_eq_none_iff (s : List Char) : operator? s = none ↔ NoOperator s := by
  simp only [NoOperator, operatorWords, List.forall_mem_cons, ← after_eq_none_iff, operator?]
  cases hn : after? ['N', 'O', 'T'] s with
  | some rest => simp
  | none =>
    cases ho : after? ['O', 'R'] s with
    | some rest => simp
    | none => simp

theorem operator_not {s rest : List Char} (h : Text.trimLeft s = ['N', 'O', 'T'] ++ rest) :
    operator? s = some (.not, Text.trim rest) := by
  rw [operator?, after_append _ h]

theorem operator_connective (op : Connective) {s rest : List Char}
    (h : Text.trimLeft s = Tree.Operator.name op.operator ++ rest) :
    operator? s = some (.connective op, Text.trim rest) := by
  have hnot : after? ['N', 'O', 'T'] s = none := by
    rw [after_eq_none_iff, h]
    cases op <;> simp [Connective.operator, Tree.Operator.name]
  cases op with
  | or => rw [operator?, hnot, after_append ['O', 'R'] h]
  | and =>
    have hor : after? ['O', 'R'] s = none := by
      rw [after_eq_none_iff, h]
      simp [Connective.operator, Tree.Operator.name]
    rw [operator?, hnot, hor, after_append ['A', 'N', 'D'] h, Option.map_some]

/-- An operator word in front is one of the three, blanks not counted, and what stands before
and behind it does not matter. -/
theorem operator_front {s rest : List Char} {t : Token} (h : operator? s = some (t, rest)) :
    ∃ word ∈ operatorWords, ∃ tail, Text.trimLeft s = word ++ tail ∧ rest = Text.trim tail ∧
      (t = .not ∨ ∃ op, t = .connective op) ∧
      ∀ s' tail', Text.trimLeft s' = word ++ tail' → operator? s' = some (t, Text.trim tail') := by
  have hfront {word r : List Char} (hr : after? word s = some r) :
      ∃ tail, Text.trimLeft s = word ++ tail ∧ r = Text.trim tail := by
    obtain ⟨tail, htail, rfl⟩ := Option.map_eq_some_iff.1 hr
    exact ⟨tail, (Text.after_eq_some_iff _ _ _).1 htail, rfl⟩
  rw [operator?] at h
  cases hnot : after? ['N', 'O', 'T'] s with
  | some r =>
    rw [hnot] at h
    cases h
    obtain ⟨tail, htail, hr⟩ := hfront hnot
    exact ⟨_, by decide, tail, htail, hr, .inl rfl, fun _ _ => operator_not⟩
  | none =>
    rw [hnot] at h
    cases hor : after? ['O', 'R'] s with
    | some r =>
      rw [hor] at h
      cases h
      obtain ⟨tail, htail, hr⟩ := hfront hor
      exact ⟨_, by decide, tail, htail, hr, .inr ⟨.or, rfl⟩, fun _ _ => operator_connective .or⟩
    | none =>
      rw [hor] at h
      obtain ⟨r, hand, he⟩ := Option.map_eq_some_iff.1 h
      cases he
      obtain ⟨tail, htail, hr⟩ := hfront hand
      exact ⟨_, by decide, tail, htail, hr, .inr ⟨.and, rfl⟩, fun _ _ => operator_connective .and⟩

theorem operator_word_nonempty : ∀ word ∈ operatorWords, word ≠ [] := by decide

theorem operator_word_inside {word : List Char} (hw : word ∈ operatorWords) {c : Char}
    (hc : c ∈ word) : isSeparator c = false := by
  have hall : operatorWords.all (fun word => word.all (!isSeparator ·)) = true := by decide
  simpa using List.all_eq_true.1 (List.all_eq_true.1 hall word hw) c hc

/-- An operator word does not reach over a separator. -/
theorem operator_word_front {word front rest : List Char} (hw : word ∈ operatorWords)
    (hrest : ∀ c ∈ rest.head?, isSeparator c = true) (h : word <+: front ++ rest) :
    word <+: front := by
  rcases List.prefix_or_prefix_of_prefix h (List.prefix_append front rest) with hp | ⟨t, rfl⟩
  · exact hp
  · cases t with
    | nil => simp
    | cons c t =>
      have hc : isSeparator c = false := operator_word_inside hw (by simp)
      obtain ⟨rest, rfl⟩ := (List.prefix_append_right_inj front).1 h
      simp [hrest c (by simp)] at hc

theorem no_operator_solid {s : List Char} (hs : SolidFront s)
    (h : ∀ word ∈ operatorWords, ¬ word <+: s) : NoOperator s := by
  intro word hw
  rw [trim_left_solid hs]
  exact h word hw

theorem not_operator_word_separator {c : Char} (hc : isSeparator c = true) (s : List Char) :
    ∀ word ∈ operatorWords, ¬ word <+: c :: s := by
  intro word hw h
  have h' : word <+: [] ++ c :: s := h
  have hnil : word <+: [] := operator_word_front hw (by simpa using hc) h'
  exact operator_word_nonempty word hw (List.prefix_nil.1 hnil)

theorem no_operator_separator {c : Char} (hc : isSeparator c = true) {s : List Char}
    (h : NoOperator s) : NoOperator (c :: s) := by
  intro word hw
  by_cases hb : Text.isBlank c = true
  · rw [trim_left_blank hb]
    exact h word hw
  · rw [trim_left_solid (by simpa [SolidFront] using hb)]
    exact not_operator_word_separator hc s word hw

/-- No operator word comes up where two texts meet, if the second one begins with a separator. -/
theorem no_operator_append {s more : List Char} (hs : NoOperator s) (hmore : NoOperator more)
    (hseparated : ∀ c ∈ more.head?, isSeparator c = true) : NoOperator (s ++ more) := by
  intro word hword hp
  by_cases hnil : Text.trimLeft s = []
  · rw [trim_left_blanks hnil] at hp
    exact hmore word hword hp
  · rw [trim_left_append (.inl hnil)] at hp
    exact hs word hword (operator_word_front hword hseparated hp)

theorem scan_nil : scan [] = [] := by
  rw [scan]
  rfl

theorem scan_of_next {s rest : List Char} {t : Token} (h : next? s = some (t, rest)) :
    scan s = t :: scan rest := by
  rw [scan]
  split
  · next hn => simp [hn] at h
  · next t' rest' hn =>
    rw [hn] at h
    cases h
    rfl

theorem scan_closing (s : List Char) : scan (')' :: s) = .closing :: scan s :=
  scan_of_next rfl

theorem scan_opening (s : List Char) : scan ('(' :: s) = .opening :: scan (Text.trim s) :=
  scan_of_next rfl

theorem next_of_ne {c : Char} (hc : c ≠ ')') (ho : c ≠ '(') (s : List Char) :
    next? (c :: s) = some ((operator? (c :: s)).getD (plain c s)) := by
  rw [next?]
  · exact hc
  · exact ho

theorem scan_operator {c : Char} (hc : c ≠ ')') (ho : c ≠ '(') {s rest : List Char} {t : Token}
    (h : operator? (c :: s) = some (t, rest)) : scan (c :: s) = t :: scan rest := by
  apply scan_of_next
  rw [next_of_ne hc ho, h, Option.getD_some]

theorem scan_separator {c : Char} (hc : c ≠ ')') (ho : c ≠ '(') (hs : isSeparator c = true)
    {s : List Char} (h : NoOperator (c :: s)) : scan (c :: s) = .separator c :: scan s := by
  apply scan_of_next
  rw [next_of_ne hc ho, (operator_eq_none_iff _).2 h, Option.getD_none, plain, if_pos hs]

theorem scan_word {word rest : List Char} (hw : word ≠ [])
    (hchars : ∀ c ∈ word, isSeparator c = false) (hrest : ∀ c ∈ rest.head?, isSeparator c = true)
    (h : NoOperator (word ++ rest)) : scan (word ++ rest) = .word word :: scan rest := by
  obtain ⟨c, word, rfl⟩ := List.exists_cons_of_ne_nil hw
  have hc : isSeparator c = false := hchars c (by simp)
  have hall : ∀ d ∈ word, (!isSeparator d) = true := fun d hd => by simp [hchars d (by simp [hd])]
  have htake : (word ++ rest).takeWhile (!isSeparator ·) = word := by
    rw [List.takeWhile_append_of_pos hall]
    cases rest with
    | nil => simp
    | cons d rest => simp [hrest d (by simp)]
  have hdrop : (word ++ rest).dropWhile (!isSeparator ·) = rest := by
    rw [List.dropWhile_append_of_pos hall]
    cases rest with
    | nil => simp
    | cons d rest => simp [hrest d (by simp)]
  apply scan_of_next
  rw [List.cons_append, next_of_ne (by rintro rfl; simp [isSeparator] at hc)
    (by rintro rfl; simp [isSeparator] at hc), ← List.cons_append,
    (operator_eq_none_iff _).2 h, Option.getD_none, plain, if_neg (by simp [hc]), htake, hdrop]

end Token

end FileSearch.Query
