import FileSearch.Proofs.Query.Composing
import FileSearch.Proofs.Query.Negating
import Mathlib.Data.List.TakeWhile

/-!
# Separators behind an operator

Spaces behind an operator are not read, but other separators are, and each of them stands for a
conjunction wherever a group of alternatives has been read. An operator that has just taken over
has at most one operand, so separators leave it alone. An `OR` behind alternatives takes nothing
over: the separator ends the group, and what was written as one more alternative is a condition.
-/

set_option autoImplicit false

namespace FileSearch.Query

def Expression.apart (e : Expression) (op : Connective) (gap : Gap) (k : Word) : List Char :=
  e.text ++ (Tree.infixed op.operator ++ (gap.chars ++ k.chars))

theorem gap_char_blank {c : Char} (h : isGapChar c = true) : Text.isBlank c = true ↔ c = ' ' := by
  have hseparator := (gap_char_separator h).1
  simp only [Token.isSeparator, decide_eq_true_eq, List.mem_cons, List.not_mem_nil, or_false]
    at hseparator
  rcases hseparator with rfl | rfl | rfl | rfl | rfl | rfl | rfl | rfl | rfl | rfl | rfl | rfl <;>
    decide

theorem gap_lost (gap : Gap) : Text.trimLeft gap.chars = [] ↔ Spaces gap.chars := by
  rw [Text.trimLeft, List.dropWhile_eq_nil_iff]
  exact forall₂_congr fun c hc => gap_char_blank (gap.inside c hc)

theorem scan_apart (op : Connective) (gap : Gap) (k : Word) :
    Token.scan (Tree.infixed op.operator ++ (gap.chars ++ k.chars)) =
      .connective op :: ((Text.trimLeft gap.chars).map .separator ++ [.word k.chars]) := by
  have hfront : SolidFront k.chars := (Operand.word k).text_front
  have hback : SolidBack (Text.trimLeft gap.chars ++ k.chars) :=
    solid_back_of_nonempty k.nonempty (Operand.word k).text_back
  have htrim : Text.trim (gap.chars ++ k.chars) = Text.trimLeft gap.chars ++ k.chars := by
    rw [Text.trim, trim_left_append (.inr hfront), trim_right_solid hback]
  have hkept : ∀ c ∈ Text.trimLeft gap.chars, isGapChar c = true :=
    fun c hc => gap.inside c ((List.dropWhile_sublist _).subset hc)
  have hword := k.scan_chars follows_nil
  have hno := k.no_operator follows_nil
  rw [List.append_nil] at hword hno
  rw [scan_connective, htrim, scan_gap hkept hno, hword, Token.scan_nil]

theorem Frame.spaced_negating (f : Frame) (gap : List Char) :
    (f.spaced gap).negating = f.negating := by
  rw [spaced]
  split
  · rfl
  · exact f.separate_negating

theorem Frame.spaced_started {f : Frame} (hf : f.children ≠ []) (gap : List Char) :
    (f.spaced gap).children ≠ [] := by
  rw [spaced]
  split
  · exact hf
  · exact separate_started hf

/-- A separator overrules an operator that the group had before. -/
theorem Frame.separate_rebound {f : Frame} (hf : f.Settled) (op : Connective) :
    (f.rebind op).separate.operator = if f.operator = op then .and else op := by
  by_cases hop : f.operator = op
  · have hsame : f.rebind op = f := by rw [rebind, if_pos hop]
    rw [hsame, separate_operator hf, if_pos hop]
  · have hfew : ¬ 1 < (f.rebind op).children.length := by
      rw [rebind, if_neg hop]
      dsimp only
      split
      · omega
      · simp
    rw [separate, if_neg fun h => hfew h.2, rebind_operator, if_neg hop]

def Expression.meant (e : Expression) (op : Connective) (gap : Gap) : Connective :=
  if e.last = op ∧ ¬ Spaces gap.chars then .and else op

theorem Expression.spaced_operator (e : Expression) (op : Connective) (gap : Gap) :
    ((e.frame.rebind op).spaced (Text.trimLeft gap.chars)).operator = e.meant op gap := by
  rw [Frame.spaced, meant]
  by_cases hspaces : Spaces gap.chars
  · rw [if_pos ((gap_lost gap).2 hspaces), if_neg fun h => h.2 hspaces, Frame.rebind_operator]
  · rw [if_neg (mt (gap_lost gap).1 hspaces), Frame.separate_rebound e.frame_settled,
      e.frame_operator]
    simp [hspaces]

theorem parse_apart (e : Expression) (op : Connective) (gap : Gap) (k : Word) :
    parseChars (e.apart op gap k) =
      (((e.frame.rebind op).spaced (Text.trimLeft gap.chars)).append (.term k.chars)).group := by
  have hfollows : Follows (Tree.infixed op.operator ++ (gap.chars ++ k.chars)) := by
    refine ⟨by simp [Tree.infixed, Token.isSeparator], ?_⟩
    rw [← List.append_assoc]
    exact solid_back_of_nonempty k.nonempty (Operand.word k).text_back
  have hnegating : ((e.frame.rebind op).spaced (Text.trimLeft gap.chars)).negating = false := by
    rw [Frame.spaced_negating, Frame.rebind_negating, e.frame_negating]
  have hword := (Operand.word k).build_tokens hnegating [] []
  rw [parseChars, Expression.apart, e.scan_text hfollows, scan_apart, e.build_tokens,
    build_connective, build_spaces]
  exact hword

theorem keeps_apart (e : Expression) (op : Connective) (gap : Gap) (k : Word) (name : String) :
    keeps (String.ofList (e.apart op gap k)) name = true ↔
      (e.meant op gap).Combines (keeps (String.ofList e.text) name = true)
        ((Operand.word k).Holds name.toList) := by
  have hstarted := Frame.rebind_started e.frame_settled.started op
  rw [keeps, parse, String.toList_ofList, parse_apart,
    Frame.append_accepts _ _ (Frame.spaced_started hstarted _), e.spaced_operator,
    Frame.spaced_accepts, Frame.rebind_accepts _ _ _ e.frame_settled.started,
    Tree.accepts_term, Tree.found_iff, keeps, parse, String.toList_ofList, e.parse_text]
  rfl

/-- Separators behind `AND` do not matter. Behind `OR` they do only if one of them is no space
and the expression ends in alternatives: then the word is asked for in addition. -/
theorem keeps_separated_operator (e : Expression) (gap : Gap) (k : Word) (name : String) :
    (keeps (String.ofList (e.apart .or gap k)) name = true ↔
      if e.last = .or ∧ ¬ Spaces gap.chars then
        keeps (String.ofList e.text) name = true ∧ (Operand.word k).Holds name.toList
      else keeps (String.ofList e.text) name = true ∨ (Operand.word k).Holds name.toList) ∧
    (keeps (String.ofList (e.apart .and gap k)) name = true ↔
      keeps (String.ofList e.text) name = true ∧ (Operand.word k).Holds name.toList) := by
  constructor
  · rw [keeps_apart, Expression.meant]
    split
    · rfl
    · rfl
  · rw [keeps_apart, Expression.meant, ite_self]
    rfl

def comma : Gap := ⟨[','], List.cons_ne_nil _ _, by simp [isGapChar, Token.isSeparator]⟩

/-- `a OR b OR ,c` does not keep the name `a`, which `a OR b` keeps. -/
theorem separated_alternative_lost :
    String.ofList (alternatives.apart .or comma (.lone 'c' rfl rfl)) = "a OR b OR ,c" ∧
      ¬ (keeps "a OR b OR ,c" "a" = true ↔ keeps (String.ofList alternatives.text) "a" = true ∨
        (Operand.word (.lone 'c' rfl rfl)).Holds "a".toList) := by
  have hkept : keeps (String.ofList alternatives.text) "a" = true := by decide +kernel
  have hdropped : keeps "a OR b OR ,c" "a" = false := by decide +kernel
  refine ⟨by decide +kernel, fun h => ?_⟩
  have hboth := h.2 (.inl hkept)
  rw [hdropped] at hboth
  exact Bool.false_ne_true hboth

end FileSearch.Query
