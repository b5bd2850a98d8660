import FileSearch.Proofs.Query.LeftToRight

/-!
# Negations behind a space

A space in front of a word stands for a conjunction: it ends a group of alternatives before the
word is read. In front of a negation it is not seen, because an operator word is looked for
behind the blanks first. The negated word joins the operator that the group has by then, so it
is one more alternative where the expression ends in alternatives.
-/

set_option autoImplicit false

namespace FileSearch.Query

def Expression.last : Expression → Connective
  | .first _ => .and
  | .joined _ op _ => op
  | .beside _ _ _ => .and

def Expression.without (e : Expression) (k : Word) : List Char :=
  e.text ++ ' ' :: (Operand.negation k).text

def Word.Missing (k : Word) (target : List Char) : Prop :=
  ¬ Text.fold k.chars <:+: Text.fold target

theorem Expression.frame_operator (e : Expression) : e.frame.operator = e.last := by
  cases e with
  | first o => rfl
  | joined e op o => exact e.frame.rebind_operator op
  | beside e gap o => exact Frame.separate_operator e.frame_settled

theorem space_follows (k : Word) : Follows (' ' :: (Operand.negation k).text) := by
  refine ⟨by simp [Token.isSeparator], ?_⟩
  exact solid_back_of_nonempty (s := [' ']) (Operand.negation k).text_nonempty
    (Operand.negation k).text_back

theorem scan_space_negation (k : Word) :
    Token.scan (' ' :: (Operand.negation k).text) = (Operand.negation k).tokens := by
  have hblank : Text.isBlank ' ' = true := rfl
  have hfront : SolidFront (Operand.negation k).text := (Operand.negation k).text_front
  have hleft : Text.trimLeft (' ' :: (Operand.negation k).text) =
      ['N', 'O', 'T'] ++ ' ' :: k.chars := by
    rw [trim_left_blank hblank, trim_left_solid hfront]
    rfl
  have hword : Text.trim (' ' :: k.chars) = k.chars := by
    rw [trim_blank hblank]
    exact trim_solid (Operand.word k).text_front (Operand.word k).text_back
  have hscan := k.scan_chars follows_nil
  rw [List.append_nil, Token.scan_nil] at hscan
  rw [Token.scan_operator (by decide) (by decide) (Token.operator_not hleft), hword, hscan]
  rfl

theorem parse_without (e : Expression) (k : Word) :
    parseChars (e.without k) = (e.frame.append (Operand.negation k).tree).group := by
  have hnegation := (Operand.negation k).build_tokens e.frame_negating [] []
  rw [List.append_nil] at hnegation
  rw [parseChars, Expression.without, e.scan_text (space_follows k), scan_space_negation,
    e.build_tokens, hnegation]
  rfl

/-- The negated word joins the last operator. -/
theorem keeps_without (e : Expression) (k : Word) (name : String) :
    keeps (String.ofList (e.without k)) name = true ↔
      e.last.Combines (e.Holds name.toList) (k.Missing name.toList) := by
  rw [keeps, parse, String.toList_ofList, parse_without,
    Frame.append_accepts _ _ e.frame_settled.started, e.frame_operator, e.frame_accepts,
    (Operand.negation k).tree_accepts]
  rfl

theorem keeps_and_not (e : Expression) (k : Word) (name : String) :
    keeps (String.ofList (e.joined .and (.negation k)).text) name = true ↔
      e.Holds name.toList ∧ k.Missing name.toList := by
  rw [keeps, parse, String.toList_ofList, Expression.parse_text, Expression.frame_accepts]
  rfl

/-- A negation behind a space joins the last operator of the expression. So the space does what
`AND` does unless the expression ends in alternatives; there it keeps the same names only where
the expression holds just when the word is missing. -/
theorem keeps_space_negation (e : Expression) (k : Word) (name : String) :
    (keeps (String.ofList (e.without k)) name = true ↔
      e.last.Combines (e.Holds name.toList) (k.Missing name.toList)) ∧
    (keeps (String.ofList (e.without k)) name =
        keeps (String.ofList (e.joined .and (.negation k)).text) name ↔
      (e.last = .or → (e.Holds name.toList ↔ k.Missing name.toList))) := by
  refine ⟨keeps_without e k name, ?_⟩
  rw [Bool.eq_iff_iff, keeps_without, keeps_and_not]
  cases e.last with
  | and => simp [Connective.Combines]
  | or =>
    simp only [Connective.Combines, true_implies]
    constructor
    · intro h
      exact ⟨fun he => (h.1 (.inl he)).2, fun hk => (h.1 (.inr hk)).1⟩
    · intro h
      rw [h]
      simp

theorem operator_word_long : ∀ word ∈ Token.operatorWords, 1 < word.length := by decide

def Word.lone (c : Char) (hinside : Token.isSeparator c = false) (hsolid : Text.isBlank c = false) :
    Word where
  chars := [c]
  nonempty := List.cons_ne_nil _ _
  inside := by simpa using hinside
  solid := by simpa using hsolid
  plain := fun word hword hfront => by
    have hlong := operator_word_long word hword
    have hshort : word.length ≤ 1 := hfront.length_le
    omega

def alternatives : Expression :=
  .joined (.first (.word (.lone 'a' rfl rfl))) .or (.word (.lone 'b' rfl rfl))

/-- `a OR b NOT c` keeps the name `x`, in which neither `a` nor `b` occurs. -/
theorem space_negation_alternative :
    ¬ ∀ (e : Expression) (k : Word) (name : String),
      keeps (String.ofList (e.without k)) name = true ↔
        keeps (String.ofList e.text) name = true ∧ k.Missing name.toList := by
  intro hall
  have hkept : keeps (String.ofList (alternatives.without (.lone 'c' rfl rfl))) "x" = true := by
    decide +kernel
  have hdropped : keeps (String.ofList alternatives.text) "x" = false := by decide +kernel
  have hboth := (hall alternatives (.lone 'c' rfl rfl) "x").1 hkept
  rw [hdropped] at hboth
  exact Bool.false_ne_true hboth.1

end FileSearch.Query
