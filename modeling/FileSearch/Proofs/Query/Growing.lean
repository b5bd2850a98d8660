import FileSearch.Proofs.Query.SafeNames

/-!
# Names that grow

A negation has to be written, so a query in which its operator word occurs nowhere has no
negated leaf, however malformed it is. What such a query finds in a name it finds in every name
of which that name is a part.
-/

set_option autoImplicit false

namespace FileSearch.Query

def Denies (s : List Char) : Prop := ['N', 'O', 'T'] <:+: s

instance (s : List Char) : Decidable (Denies s) := inferInstanceAs (Decidable (_ <:+: s))

namespace Token

theorem operator_denies {s rest : List Char} (h : operator? s = some (.not, rest)) : Denies s := by
  by_contra hno
  have hnot : after? ['N', 'O', 'T'] s = none := by
    rw [after_eq_none_iff]
    exact fun hfront => hno (hfront.isInfix.trans (List.dropWhile_suffix _).isInfix)
  rw [operator?, hnot] at h
  cases hor : after? ['O', 'R'] s with
  | some r => simp [hor] at h
  | none => simp [hor] at h

theorem next_denies {s rest : List Char} (h : next? s = some (.not, rest)) : Denies s := by
  rcases s with _ | ⟨c, s⟩
  · cases h
  by_cases hc : c = ')'
  · subst hc
    cases h
  by_cases ho : c = '('
  · subst ho
    cases h
  rw [next_of_ne hc ho] at h
  cases hop : operator? (c :: s) with
  | some found =>
    rw [hop] at h
    cases h
    exact operator_denies hop
  | none =>
    rw [hop, Option.getD_none, Option.some.injEq, plain] at h
    split at h <;> cases h

theorem scan_affirms {s : List Char} (h : ¬ Denies s) : .not ∉ scan s := by
  intro hmem
  obtain ⟨part, rest, hpart, hnext⟩ := scan_part hmem
  exact h ((next_denies hnext).trans hpart)

theorem heard_front (depth : Nat) (tokens : List Token) : heard depth tokens <+: tokens := by
  induction tokens generalizing depth with
  | nil => exact List.nil_prefix
  | cons t tokens ih =>
    by_cases ho : t = .opening
    · subst ho
      exact List.cons_prefix_cons.2 ⟨rfl, ih (depth + 1)⟩
    by_cases hc : t = .closing
    · subst hc
      cases depth with
      | zero => exact List.nil_prefix
      | succ depth => exact List.cons_prefix_cons.2 ⟨rfl, ih depth⟩
    · rw [heard_cons ho hc]
      exact List.cons_prefix_cons.2 ⟨rfl, ih depth⟩

theorem negates_absent {earlier : List Token} (h : .not ∉ earlier) (depth : Nat) :
    negates depth earlier = false := by
  induction earlier generalizing depth with
  | nil => rfl
  | cons t earlier ih =>
    have hrest : .not ∉ earlier := fun hmem => h (List.mem_cons_of_mem _ hmem)
    cases t with
    | not => exact absurd List.mem_cons_self h
    | closing => exact ih hrest (depth + 1)
    | opening =>
      cases depth with
      | zero => rfl
      | succ depth => exact ih hrest depth
    | word chars =>
      cases depth with
      | zero => rfl
      | succ depth => exact ih hrest (depth + 1)
    | connective op => cases depth <;> exact ih hrest _
    | separator c => cases depth <;> exact ih hrest _

theorem leaves_affirmed {earlier tokens : List Token} (hearlier : .not ∉ earlier)
    (h : .not ∉ tokens) : ∀ leaf ∈ leaves earlier tokens, leaf.negated = false := by
  induction tokens generalizing earlier with
  | nil => nofun
  | cons t tokens ih =>
    obtain ⟨ht, htokens⟩ := not_or.1 (mt List.mem_cons.2 h)
    intro leaf hmem
    rw [leaves_cons] at hmem
    rcases List.mem_append.1 hmem with hmem | hmem
    · obtain ⟨chars, -, rfl⟩ := Option.map_eq_some_iff.1 (Option.mem_toList.1 hmem)
      exact negates_absent hearlier 0
    · exact ih (mt List.mem_cons.1 (not_or.2 ⟨ht, hearlier⟩)) htokens leaf hmem

end Token

/-- No leaf is negated in a query without a negation. -/
theorem parse_affirmed {query : String} (h : ¬ Denies query.toList) :
    ∀ leaf ∈ (parse query).leaves false, leaf.negated = false := by
  have htokens : .not ∉ Token.heard 0 (Token.scan query.toList) :=
    fun hmem => Token.scan_affirms h ((Token.heard_front 0 _).subset hmem)
  rw [parse, parseChars, build_leaves false waiting_start]
  exact Token.leaves_affirmed (List.not_mem_nil) htokens

theorem keeps_wider {query name wider : String} (h : ¬ Denies query.toList)
    (hin : Text.fold name.toList <:+: Text.fold wider.toList) (hk : keeps query name = true) :
    keeps query wider = true := by
  have hshaped : Shaped Token.Plain (parse query) :=
    parse_shaped fun chars hmem => (Token.scan_word_part hmem).1
  refine accepts_carried hshaped (fun leaf hleaf _ => ?_) hk
  rw [Leaf.Carries, parse_affirmed h leaf hleaf, if_neg Bool.false_ne_true]
  exact fun hfound => hfound.trans hin

/-- A query in which no negation is written keeps every name that has a name it keeps as a
part, however malformed it is. -/
theorem keeps_monotone (query before name after : String) (h : ¬ Denies query.toList)
    (hk : keeps query name = true) : keeps query (before ++ name ++ after) = true := by
  apply keeps_wider h _ hk
  rw [String.toList_append, String.toList_append, Text.fold_append, Text.fold_append]
  exact List.infix_append _ _ _

def affirmative : String := "ORange ss. (dog OR NO T() OR"

theorem affirmative_monotone :
    (¬ Denies affirmative.toList ∧ keeps affirmative "No, aNGE in straßen, to" = true) ∧
      keeps affirmative ("OR" ++ "No, aNGE in straßen, to" ++ "DOG") = true := by
  have hdenies : ¬ Denies affirmative.toList := by decide +kernel
  have hkept : keeps affirmative "No, aNGE in straßen, to" = true := by decide +kernel
  exact ⟨⟨hdenies, hkept⟩, keeps_monotone affirmative "OR" _ "DOG" hdenies hkept⟩

end FileSearch.Query
