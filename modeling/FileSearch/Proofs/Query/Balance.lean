import FileSearch.Proofs.Query.Nesting
import FileSearch.Proofs.Query.Shape

/-!
# Parentheses in pairs

Every parenthesis of a text is a token of its own and no other token holds one. So a text
whose parentheses come in pairs is read inside of the group in which it begins: what it adds
to this group does not depend on the groups around it, and they stay as they are.
-/

set_option autoImplicit false

namespace FileSearch.Query

structure Spans (depth left : Nat) (s : List Char) : Prop where
  within : ∀ front, front <+: s → front.count ')' ≤ depth + front.count '('
  closed : s.count ')' + left = depth + s.count '('

abbrev Balanced (s : List Char) : Prop := Spans 0 0 s

instance (depth left : Nat) (s : List Char) : Decidable (Spans depth left s) :=
  decidable_of_iff
    ((∀ n < s.length + 1, (s.take n).count ')' ≤ depth + (s.take n).count '(') ∧
      s.count ')' + left = depth + s.count '(') (by
    constructor
    · rintro ⟨hwithin, hclosed⟩
      refine ⟨fun front hfront => ?_, hclosed⟩
      rw [List.prefix_iff_eq_take.1 hfront]
      exact hwithin _ (Nat.lt_succ_of_le hfront.length_le)
    · rintro ⟨hwithin, hclosed⟩
      exact ⟨fun n _ => hwithin _ (List.take_prefix n s), hclosed⟩)

def isParenthesis (c : Char) : Bool := c == '(' || c == ')'

def parentheses (s : List Char) : List Char := s.filter isParenthesis

section
variable {depth left : Nat} {s : List Char}

theorem count_parentheses {c : Char} (hc : isParenthesis c = true) (s : List Char) :
    (parentheses s).count c = s.count c := List.count_filter hc

/-- Only the parentheses of a text count. -/
theorem spans_parentheses : Spans depth left (parentheses s) ↔ Spans depth left s := by
  constructor
  · rintro ⟨hwithin, hclosed⟩
    refine ⟨fun front hfront => ?_, ?_⟩
    · have hfront' := hwithin (parentheses front) (hfront.filter _)
      rwa [count_parentheses rfl, count_parentheses rfl] at hfront'
    · rwa [count_parentheses rfl, count_parentheses rfl] at hclosed
  · rintro ⟨hwithin, hclosed⟩
    refine ⟨fun front hfront => ?_, ?_⟩
    · obtain ⟨t, ht, rfl⟩ := List.prefix_filter_iff.1 hfront
      have ht' := hwithin t ht
      rwa [← count_parentheses rfl t, ← count_parentheses rfl t] at ht'
    · rwa [count_parentheses rfl, count_parentheses rfl]

theorem spans_nil (h : Spans depth left []) : left = depth := by
  simpa using h.closed

theorem spans_opening (h : Spans depth left ('(' :: s)) : Spans (depth + 1) left s := by
  constructor
  · intro front hfront
    have hwithin := h.within ('(' :: front) (List.cons_prefix_cons.2 ⟨rfl, hfront⟩)
    simp at hwithin
    omega
  · have hclosed := h.closed
    simp at hclosed
    omega

theorem spans_closing (h : Spans depth left (')' :: s)) :
    ∃ outer, depth = outer + 1 ∧ Spans outer left s := by
  have hfirst := h.within [')'] (List.cons_prefix_cons.2 ⟨rfl, List.nil_prefix⟩)
  obtain ⟨outer, rfl⟩ : ∃ outer, depth = outer + 1 := by
    refine ⟨depth - 1, ?_⟩
    simp at hfirst
    omega
  refine ⟨outer, rfl, ?_, ?_⟩
  · intro front hfront
    have hwithin := h.within (')' :: front) (List.cons_prefix_cons.2 ⟨rfl, hfront⟩)
    simp at hwithin
    omega
  · have hclosed := h.closed
    simp at hclosed
    omega

end

theorem parentheses_append (s t : List Char) :
    parentheses (s ++ t) = parentheses s ++ parentheses t := List.filter_append ..

theorem parentheses_none {s : List Char} (h : ∀ c ∈ s, isParenthesis c = false) :
    parentheses s = [] := by
  rw [parentheses, List.filter_eq_nil_iff]
  simpa using h

theorem blank_no_parenthesis {c : Char} (hc : Text.isBlank c = true) : isParenthesis c = false := by
  cases h : isParenthesis c with
  | false => rfl
  | true =>
    simp only [isParenthesis, Bool.or_eq_true, beq_iff_eq] at h
    rcases h with rfl | rfl
    · exact absurd hc (by decide)
    · exact absurd hc (by decide)

theorem parenthesis_separates {c : Char} (hc : isParenthesis c = true) :
    Token.isSeparator c = true := by
  simp only [isParenthesis, Bool.or_eq_true, beq_iff_eq] at hc
  rcases hc with rfl | rfl <;> rfl

theorem trim_left_parentheses (s : List Char) :
    parentheses (Text.trimLeft s) = parentheses s := by
  have hfront : parentheses (s.takeWhile Text.isBlank) = [] :=
    parentheses_none fun c hc =>
      blank_no_parenthesis (List.all_eq_true.1 List.all_takeWhile c hc)
  have hsplit := congrArg parentheses (List.takeWhile_append_dropWhile (p := Text.isBlank) (l := s))
  rw [parentheses_append, hfront, List.nil_append] at hsplit
  exact hsplit

theorem trim_parentheses (s : List Char) : parentheses (Text.trim s) = parentheses s := by
  have hright (t : List Char) : parentheses (Text.trimRight t) = parentheses t := by
    have hleft := trim_left_parentheses t.reverse
    rw [parentheses, parentheses, List.filter_reverse] at hleft
    rw [Text.trimRight, parentheses, List.filter_reverse]
    exact (congrArg List.reverse hleft).trans (List.reverse_reverse _)
  rw [Text.trim, hright, trim_left_parentheses]

namespace Token

def parentheses : Token → List Char
  | .opening => ['(']
  | .closing => [')']
  | _ => []

theorem plain_parentheses {c : Char} (hc : isParenthesis c = false) (s : List Char) :
    Query.parentheses (c :: s) =
      (plain c s).1.parentheses ++ Query.parentheses (plain c s).2 := by
  have hone : Query.parentheses [c] = [] := parentheses_none (by simpa using hc)
  have hcons (t : List Char) : Query.parentheses (c :: t) = Query.parentheses t := by
    rw [← List.singleton_append, parentheses_append, hone, List.nil_append]
  rw [hcons, plain]
  split
  · rfl
  · have hword : Query.parentheses (s.takeWhile (!isSeparator ·)) = [] := by
      refine parentheses_none fun d hd => ?_
      have hsep : isSeparator d = false := by
        simpa using List.all_eq_true.1 List.all_takeWhile d hd
      cases hpar : isParenthesis d with
      | false => rfl
      | true => exact absurd (parenthesis_separates hpar) (by simp [hsep])
    have hsplit := congrArg Query.parentheses
      (List.takeWhile_append_dropWhile (p := (!isSeparator ·)) (l := s))
    rw [parentheses_append, hword, List.nil_append] at hsplit
    exact hsplit.symm

theorem next_eq_none {s : List Char} (h : next? s = none) : s = [] := by
  rcases s with _ | ⟨c, s⟩
  · rfl
  by_cases hc : c = ')'
  · subst hc
    cases h
  by_cases ho : c = '('
  · subst ho
    cases h
  · rw [next_of_ne hc ho] at h
    cases h

theorem next_parentheses {s rest : List Char} {t : Token} (h : next? s = some (t, rest)) :
    Query.parentheses s = t.parentheses ++ Query.parentheses rest := by
  rcases s with _ | ⟨c, s⟩
  · cases h
  by_cases hc : c = ')'
  · subst hc
    cases h
    rfl
  by_cases ho : c = '('
  · subst ho
    cases h
    rw [trim_parentheses]
    rfl
  rw [next_of_ne hc ho] at h
  cases hop : operator? (c :: s) with
  | some found =>
    rw [hop] at h
    cases h
    obtain ⟨word, hword, tail, htail, rfl, hkind, -⟩ := operator_front hop
    have hnone : t.parentheses = [] := by
      rcases hkind with rfl | ⟨op, rfl⟩ <;> rfl
    have hfree : Query.parentheses word = [] := by
      refine parentheses_none fun d hd => ?_
      cases hpar : isParenthesis d with
      | false => rfl
      | true =>
        exact absurd (parenthesis_separates hpar) (by simp [operator_word_inside hword hd])
    rw [trim_parentheses, hnone, ← trim_left_parentheses (c :: s), htail, parentheses_append, hfree]
  | none =>
    rw [hop, Option.getD_none, Option.some.injEq] at h
    have hplain := plain_parentheses (c := c) (by simp [isParenthesis, hc, ho]) s
    rwa [h] at hplain

/-- Every parenthesis of a text is a token, and no other token holds one. -/
theorem scan_parentheses (s : List Char) :
    (scan s).flatMap parentheses = Query.parentheses s := by
  induction s using scan.induct with
  | case1 s hend =>
    rw [next_eq_none hend, scan_nil]
    rfl
  | case2 s t rest hnext ih =>
    rw [scan_of_next hnext, List.flatMap_cons, ih, next_parentheses hnext]

end Token

/-- Tokens between pairs are read without regard to the groups around: the innermost ones of
them, `inner`, are read into, closed, and others are opened. By induction on the tokens; the
open groups that the tokens may close are those of `inner`. -/
theorem build_spans {tokens : List Token} {left : Nat} (inner : List Frame)
    (h : Spans inner.length left (tokens.flatMap Token.parentheses)) (f : Frame) :
    ∃ g opened, opened.length = left ∧ ∀ parents more,
      build f (inner ++ parents) (tokens ++ more) = build g (opened ++ parents) more := by
  induction tokens generalizing inner f with
  | nil => exact ⟨f, inner, (spans_nil h).symm, fun _ _ => rfl⟩
  | cons t tokens ih =>
    by_cases ho : t = .opening
    · subst ho
      exact ih (f :: inner) (spans_opening h) {}
    by_cases hc : t = .closing
    · subst hc
      obtain ⟨outer, hlen, hrest⟩ := spans_closing h
      cases inner with
      | nil => cases hlen
      | cons parent inner =>
        rw [List.length_cons, Nat.add_right_cancel_iff] at hlen
        exact ih inner (hlen ▸ hrest) (parent.append f.group)
    · have hnone : t.parentheses = [] := by
        cases t with
        | opening => exact absurd rfl ho
        | closing => exact absurd rfl hc
        | not => rfl
        | connective op => rfl
        | word chars => rfl
        | separator c => rfl
      rw [List.flatMap_cons, hnone, List.nil_append] at h
      obtain ⟨g, opened, hlen, hbuild⟩ := ih inner h (f.read t)
      refine ⟨g, opened, hlen, fun parents more => ?_⟩
      rw [List.cons_append, build_read f _ ho hc, hbuild]

/-- A balanced text adds to the group that stands around it, whatever that group stands in. -/
theorem build_balanced {s : List Char} (h : Balanced s) (f : Frame) :
    ∃ g, ∀ parents more,
      build f parents (Token.scan s ++ more) = build g parents more := by
  have hspans : Spans 0 0 ((Token.scan s).flatMap Token.parentheses) :=
    Token.scan_parentheses s ▸ spans_parentheses.2 h
  obtain ⟨g, opened, hlen, hbuild⟩ := build_spans [] hspans f
  obtain rfl := List.length_eq_zero_iff.1 hlen
  exact ⟨g, hbuild⟩

end FileSearch.Query
