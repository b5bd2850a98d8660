import FileSearch.Proofs.Query.Scanning
import FileSearch.Query.Frame

/-!
# The shape of a query

Whatever the text of a query is, its groups are conjunctions, alternatives and negations of
one leaf, and its leaves are words of the text: no separator is in them, and no operator word
in front of them.
-/

set_option autoImplicit false

namespace FileSearch.Query

theorem trim_part (s : List Char) : Text.trim s <:+: s := by
  have hleft (t : List Char) : Text.trimLeft t <:+ t := List.dropWhile_suffix _
  exact (trim_right_begins _).isInfix.trans (hleft s).isInfix

namespace Token

structure Plain (chars : List Char) : Prop where
  nonempty : chars ≠ []
  inside : ∀ c ∈ chars, isSeparator c = false
  noOperator : NoOperator chars

theorem operator_part {s rest : List Char} {t : Token} (h : operator? s = some (t, rest)) :
    rest <:+: s ∧ ∀ chars, t ≠ .word chars := by
  obtain ⟨word, -, tail, htail, rfl, hkind, -⟩ := operator_front h
  constructor
  · have htail' : tail <:+ Text.trimLeft s := htail ▸ List.suffix_append word tail
    exact (trim_part tail).trans (htail'.trans (List.dropWhile_suffix _)).isInfix
  · rcases hkind with rfl | ⟨op, rfl⟩ <;> simp

theorem plain_suffix (c : Char) (s : List Char) : (plain c s).2 <:+ c :: s := by
  rw [plain]
  split
  · exact List.suffix_cons c s
  · exact (List.dropWhile_suffix _).trans (List.suffix_cons c s)

theorem trim_left_of_front {s t : List Char} (h : s <+: t) :
    Text.trimLeft s <+: Text.trimLeft t := by
  induction s generalizing t with
  | nil => exact List.nil_prefix
  | cons c s ih =>
    obtain ⟨rest, rfl⟩ := h
    by_cases hc : Text.isBlank c = true
    · rw [List.cons_append, trim_left_blank hc, trim_left_blank hc]
      exact ih (List.prefix_append s rest)
    · have hfront (u : List Char) : SolidFront (c :: u) := by
        intro d hd
        cases hd
        simpa using hc
      rw [trim_left_solid (hfront s), List.cons_append, trim_left_solid (hfront (s ++ rest))]
      exact List.prefix_append (c :: s) rest

theorem no_operator_prefix {s t : List Char} (h : s <+: t) (ht : NoOperator t) :
    NoOperator s :=
  fun word hword hp => ht word hword (hp.trans (trim_left_of_front h))

theorem plain_word {c : Char} {s rest chars : List Char} (hop : NoOperator (c :: s))
    (h : plain c s = (.word chars, rest)) : Plain chars ∧ chars <+: c :: s := by
  rw [plain] at h
  by_cases hc : isSeparator c = true
  · rw [if_pos hc] at h
    cases h
  rw [if_neg hc] at h
  obtain ⟨hchars, hrest⟩ := Prod.mk.inj h
  cases hchars
  have hpre : c :: s.takeWhile (!isSeparator ·) <+: c :: s :=
    List.cons_prefix_cons.2 ⟨rfl, List.takeWhile_prefix _⟩
  refine ⟨⟨List.cons_ne_nil _ _, ?_, no_operator_prefix hpre hop⟩, hpre⟩
  intro d hd
  rcases List.mem_cons.1 hd with rfl | hd
  · simpa using hc
  · simpa using List.all_eq_true.1 List.all_takeWhile d hd

/-- Behind a token stands a part of the text, and a word token is the front of the text. -/
theorem next_part {s rest : List Char} {t : Token} (h : next? s = some (t, rest)) :
    rest <:+: s ∧ ∀ chars, t = .word chars → Plain chars ∧ chars <+: s := by
  rcases s with _ | ⟨c, s⟩
  · cases h
  by_cases hc : c = ')'
  · subst hc
    cases h
    exact ⟨(List.suffix_cons _ _).isInfix, nofun⟩
  by_cases ho : c = '('
  · subst ho
    cases h
    exact ⟨(trim_part s).trans (List.suffix_cons _ _).isInfix, nofun⟩
  rw [next_of_ne hc ho] at h
  cases hop : operator? (c :: s) with
  | some found =>
    rw [hop] at h
    cases h
    obtain ⟨hrest, hword⟩ := operator_part hop
    exact ⟨hrest, fun chars ht => absurd ht (hword chars)⟩
  | none =>
    rw [hop, Option.getD_none, Option.some.injEq] at h
    have hrest := plain_suffix c s
    rw [h] at hrest
    refine ⟨hrest.isInfix, ?_⟩
    rintro chars rfl
    exact plain_word ((operator_eq_none_iff _).1 hop) h

theorem scan_part {s : List Char} {t : Token} (hmem : t ∈ scan s) :
    ∃ part rest, part <:+: s ∧ next? part = some (t, rest) := by
  induction s using scan.induct with
  | case1 s hend =>
    rw [scan] at hmem
    split at hmem
    · cases hmem
    · next hnext => cases hend.symm.trans hnext
  | case2 s t' rest hnext ih =>
    rw [scan_of_next hnext] at hmem
    rcases List.mem_cons.1 hmem with rfl | hmem
    · exact ⟨s, rest, List.infix_rfl, hnext⟩
    · obtain ⟨part, behind, hpart, hfirst⟩ := ih hmem
      exact ⟨part, behind, hpart.trans (next_part hnext).1, hfirst⟩

/-- Every word token is the front of a part of the text. -/
theorem scan_word_part {s chars : List Char} (hmem : .word chars ∈ scan s) :
    Plain chars ∧ chars <:+: s := by
  obtain ⟨part, rest, hpart, hnext⟩ := scan_part hmem
  obtain ⟨hplain, hfront⟩ := (next_part hnext).2 chars rfl
  exact ⟨hplain, hfront.isInfix.trans hpart⟩

end Token

inductive Shaped (leaf : List Char → Prop) : Tree → Prop
  | term {chars : List Char} (h : leaf chars) : Shaped leaf (.term chars)
  | negation {chars : List Char} (h : leaf chars) : Shaped leaf (.group .not [.term chars])
  | group (op : Connective) {children : List Tree} (h : ∀ t ∈ children, Shaped leaf t) :
    Shaped leaf (.group op.operator children)

section
variable {leaf : List Char → Prop}

namespace Frame

def Shaped (leaf : List Char → Prop) (f : Frame) : Prop :=
  ∀ t ∈ f.children, Query.Shaped leaf t

variable {f : Frame}

theorem new_shaped : Shaped leaf {} := by simp [Shaped]

theorem group_shaped (hf : f.Shaped leaf) : Query.Shaped leaf f.group :=
  .group f.operator hf

theorem append_shaped (hf : f.Shaped leaf) {t : Tree} (ht : Query.Shaped leaf t) :
    (f.append t).Shaped leaf := by
  intro u hu
  rcases List.mem_append.1 hu with hu | hu
  · exact hf u hu
  · exact List.mem_singleton.1 hu ▸ ht

theorem rebind_shaped (hf : f.Shaped leaf) (op : Connective) : (f.rebind op).Shaped leaf := by
  have hgroup : ∀ t ∈ [f.group], Query.Shaped leaf t := by simpa using group_shaped hf
  rw [rebind]
  split
  · exact hf
  · intro t ht
    dsimp only at ht
    split at ht
    · exact hf t ht
    · exact hgroup t ht

theorem separate_shaped (hf : f.Shaped leaf) : f.separate.Shaped leaf := by
  rw [separate]
  split
  · intro t ht
    exact List.mem_singleton.1 ht ▸ group_shaped hf
  · exact hf

theorem word_shaped (hf : f.Shaped leaf) {chars : List Char} (h : leaf chars) :
    (f.word chars).Shaped leaf := by
  cases hneg : f.negating with
  | false =>
    have hword := append_shaped hf (.term h)
    simpa [word, hneg, Shaped] using hword
  | true =>
    have hword := append_shaped hf (.negation h)
    simpa [word, hneg, Shaped] using hword

theorem read_shaped (hf : f.Shaped leaf) {t : Token} (ht : ∀ chars, t = .word chars → leaf chars) :
    (f.read t).Shaped leaf := by
  cases t with
  | opening => exact hf
  | closing => exact hf
  | not => exact hf
  | connective op => exact rebind_shaped hf op
  | word chars => exact word_shaped hf (ht chars rfl)
  | separator c => exact separate_shaped hf

end Frame

theorem close_all_shaped {f : Frame} (hf : f.Shaped leaf) {parents : List Frame}
    (hparents : ∀ p ∈ parents, p.Shaped leaf) : Shaped leaf (closeAll f parents) := by
  induction parents generalizing f with
  | nil => exact Frame.group_shaped hf
  | cons parent parents ih =>
    obtain ⟨hparent, hrest⟩ := List.forall_mem_cons.1 hparents
    exact ih (Frame.append_shaped hparent (Frame.group_shaped hf)) hrest

/-- The groups that are built are shaped if the word tokens are leaves. -/
theorem build_shaped {f : Frame} (hf : f.Shaped leaf) {parents : List Frame}
    (hparents : ∀ p ∈ parents, p.Shaped leaf) {tokens : List Token}
    (hwords : ∀ chars, .word chars ∈ tokens → leaf chars) :
    Shaped leaf (build f parents tokens) := by
  induction tokens generalizing f parents with
  | nil => exact close_all_shaped hf hparents
  | cons t tokens ih =>
    have hrest : ∀ chars, .word chars ∈ tokens → leaf chars :=
      fun chars hmem => hwords chars (List.mem_cons_of_mem _ hmem)
    have hread : (f.read t).Shaped leaf :=
      Frame.read_shaped hf fun chars ht => hwords chars (ht ▸ List.mem_cons_self)
    cases t with
    | opening => exact ih Frame.new_shaped (List.forall_mem_cons.2 ⟨hf, hparents⟩) hrest
    | closing =>
      cases parents with
      | nil => exact Frame.group_shaped hf
      | cons parent parents =>
        obtain ⟨hparent, hparents⟩ := List.forall_mem_cons.1 hparents
        exact ih (Frame.append_shaped hparent (Frame.group_shaped hf)) hparents hrest
    | not => exact ih hread hparents hrest
    | connective op => exact ih hread hparents hrest
    | word chars => exact ih hread hparents hrest
    | separator c => exact ih hread hparents hrest

theorem parse_shaped {query : String}
    (hwords : ∀ chars, .word chars ∈ Token.scan query.toList → leaf chars) :
    Shaped leaf (parse query) :=
  build_shaped Frame.new_shaped (by simp) hwords

end

end FileSearch.Query
