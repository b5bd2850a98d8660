import FileSearch.Proofs.Query.Expression
import FileSearch.Proofs.Query.Reduction
import FileSearch.Query.Filter
import Mathlib.Tactic.ByContra
import Mathlib.Tactic.SplitIfs

/-!
# Expressions are read from the left

There is no table of precedences: a group is rebuilt in place whenever an operator or a
separator comes up. Every step keeps what the group read so far accepts, so the group
left behind by an expression accepts what the expression means.
-/

set_option autoImplicit false

namespace FileSearch.Query

structure Follows (rest : List Char) : Prop where
  separated : ∀ c ∈ rest.head?, Token.isSeparator c = true
  back : SolidBack rest

theorem follows_nil : Follows [] := ⟨by simp, by simp [SolidBack]⟩

theorem gap_char_separator {c : Char} (h : isGapChar c = true) :
    Token.isSeparator c = true ∧ c ≠ ')' ∧ c ≠ '(' := by
  simp only [isGapChar, Bool.and_eq_true, bne_iff_ne] at h
  exact ⟨h.1.1, h.2, h.1.2⟩

theorem follows_closing {rest : List Char} (h : Follows rest) : Follows (')' :: rest) :=
  ⟨by simp [Token.isSeparator],
    solid_back_append (s := [')']) (by simp [SolidBack, show Text.isBlank ')' = false from rfl])
      h.back⟩

theorem Operand.follows {negated : Bool} (o : Operand negated) {joint rest : List Char}
    (hne : joint ≠ []) (hj : ∀ c ∈ joint.head?, Token.isSeparator c = true) (h : Follows rest) :
    Follows (joint ++ (o.text ++ rest)) := by
  obtain ⟨c, joint, rfl⟩ := List.exists_cons_of_ne_nil hne
  refine ⟨by simpa using hj, solid_back_of_nonempty ?_ (solid_back_append o.text_back h.back)⟩
  simp [o.text_nonempty]

theorem Operand.front {negated : Bool} (o : Operand negated) (rest : List Char) :
    SolidFront (o.text ++ rest) :=
  solid_front_append o.text_nonempty o.text_front

theorem Word.no_operator (w : Word) {rest : List Char} (h : Follows rest) :
    Token.NoOperator (w.chars ++ rest) := by
  apply Token.no_operator_solid ((Operand.word w).front rest)
  exact fun word hw hp => w.plain word hw (Token.operator_word_front hw h.separated hp)

theorem Word.scan_chars (w : Word) {rest : List Char} (h : Follows rest) :
    Token.scan (w.chars ++ rest) = .word w.chars :: Token.scan rest :=
  Token.scan_word w.nonempty w.inside h.separated (w.no_operator h)

theorem Operand.no_operator (o : Operand false) {rest : List Char} (h : Follows rest) :
    Token.NoOperator (o.text ++ rest) := by
  cases o with
  | word w => exact w.no_operator h
  | nested e =>
    apply Token.no_operator_solid ((Operand.nested e).front rest)
    exact Token.not_operator_word_separator rfl _

theorem no_operator_gap {gap s : List Char} (hgap : ∀ c ∈ gap, isGapChar c = true)
    (h : Token.NoOperator s) : Token.NoOperator (gap ++ s) := by
  induction gap with
  | nil => exact h
  | cons c gap ih =>
    have hc := gap_char_separator (hgap c (by simp))
    exact Token.no_operator_separator hc.1 (ih fun d hd => hgap d (by simp [hd]))

theorem scan_gap {gap s : List Char} (hgap : ∀ c ∈ gap, isGapChar c = true)
    (h : Token.NoOperator s) :
    Token.scan (gap ++ s) = gap.map .separator ++ Token.scan s := by
  induction gap with
  | nil => rfl
  | cons c gap ih =>
    obtain ⟨hc, hclosing, hopening⟩ := gap_char_separator (hgap c (by simp))
    have hrest : ∀ d ∈ gap, isGapChar d = true := fun d hd => hgap d (by simp [hd])
    have hno := Token.no_operator_separator hc (no_operator_gap hrest h)
    rw [List.cons_append, Token.scan_separator hclosing hopening hc hno, ih hrest]
    rfl

theorem scan_connective (op : Connective) (s : List Char) :
    Token.scan (Tree.infixed op.operator ++ s) = .connective op :: Token.scan (Text.trim s) := by
  have hblank : Text.isBlank ' ' = true := rfl
  have hname : SolidFront (Tree.Operator.name op.operator ++ ' ' :: s) := by
    cases op <;> simp [SolidFront, Connective.operator, Tree.Operator.name] <;> rfl
  have hleft : Text.trimLeft (' ' :: (Tree.Operator.name op.operator ++ ' ' :: s)) =
      Tree.Operator.name op.operator ++ ' ' :: s := by
    rw [trim_left_blank hblank, trim_left_solid hname]
  have hscan := Token.scan_operator (by decide) (by decide) (Token.operator_connective op hleft)
  rw [trim_blank hblank] at hscan
  simpa [Tree.infixed] using hscan

theorem scan_infixed (op : Connective) {s : List Char} (hf : SolidFront s) (hb : SolidBack s) :
    Token.scan (Tree.infixed op.operator ++ s) = .connective op :: Token.scan s := by
  rw [scan_connective, trim_solid hf hb]

mutual

theorem Operand.scan_text {negated : Bool} (o : Operand negated) {rest : List Char}
    (h : Follows rest) : Token.scan (o.text ++ rest) = o.tokens ++ Token.scan rest := by
  cases o with
  | word w => exact w.scan_chars h
  | negation w =>
    have hblank : Text.isBlank ' ' = true := rfl
    have hsolid : Text.trim (w.chars ++ rest) = w.chars ++ rest :=
      trim_solid ((Operand.word w).front rest) (solid_back_append (Operand.word w).text_back h.back)
    have hleft : Text.trimLeft ((Operand.negation w).text ++ rest) =
        ['N', 'O', 'T'] ++ ' ' :: (w.chars ++ rest) := trim_left_solid (Operand.front _ rest)
    have hscan := Token.scan_operator (by decide) (by decide) (Token.operator_not hleft)
    rw [trim_blank hblank, hsolid, w.scan_chars h] at hscan
    exact hscan
  | nested e =>
    have hclosing := follows_closing h
    have hsolid : Text.trim (e.text ++ ')' :: rest) = e.text ++ ')' :: rest :=
      trim_solid (solid_front_append e.text_nonempty e.text_front)
        (solid_back_of_nonempty (by simp) hclosing.back)
    simp only [Operand.text, Operand.tokens, List.cons_append, List.append_assoc, List.nil_append]
    rw [Token.scan_opening, hsolid, e.scan_text hclosing, Token.scan_closing]

theorem Expression.scan_text (e : Expression) {rest : List Char} (h : Follows rest) :
    Token.scan (e.text ++ rest) = e.tokens ++ Token.scan rest := by
  cases e with
  | first o => exact o.scan_text h
  | joined e op o =>
    have hjoint : Follows (Tree.infixed op.operator ++ (o.text ++ rest)) :=
      o.follows (by simp [Tree.infixed]) (by simp [Tree.infixed, Token.isSeparator]) h
    simp only [Expression.text, Expression.tokens, List.append_assoc, List.cons_append]
    rw [e.scan_text hjoint, scan_infixed op (o.front rest) (solid_back_append o.text_back h.back),
      o.scan_text h]
  | beside e gap o =>
    have hhead : ∀ c ∈ gap.chars.head?, Token.isSeparator c = true :=
      fun c hc => (gap_char_separator (gap.inside c (List.mem_of_mem_head? hc))).1
    simp only [Expression.text, Expression.tokens, List.append_assoc]
    rw [e.scan_text (o.follows gap.nonempty hhead h), scan_gap gap.inside (o.no_operator h),
      o.scan_text h]

end

mutual

def Operand.tree {negated : Bool} : Operand negated → Tree
  | .word w => .term w.chars
  | .negation w => .group .not [.term w.chars]
  | .nested e => e.frame.group

def Expression.frame : Expression → Frame
  | .first o => Frame.append {} o.tree
  | .joined e op o => (e.frame.rebind op).append o.tree
  | .beside e _ o => e.frame.separate.append o.tree

end

namespace Frame

@[simp]
theorem rebind_negating (f : Frame) (op : Connective) : (f.rebind op).negating = f.negating := by
  rw [rebind]
  split <;> rfl

@[simp]
theorem separate_negating (f : Frame) : f.separate.negating = f.negating := by
  rw [separate]
  split <;> rfl

theorem separate_separate (f : Frame) : f.separate.separate = f.separate := by
  by_cases h : f.operator ≠ .and ∧ 1 < f.children.length
  · simp [separate, if_pos h]
  · have hf : f.separate = f := by rw [separate, if_neg h]
    rw [hf, hf]

end Frame

theorem Expression.frame_negating (e : Expression) : e.frame.negating = false := by
  cases e with
  | first o => rfl
  | joined e op o => simp [frame, Frame.append, e.frame_negating]
  | beside e gap o => simp [frame, Frame.append, e.frame_negating]

theorem build_connective (f : Frame) (parents : List Frame) (op : Connective) (ts : List Token) :
    build f parents (.connective op :: ts) = build (f.rebind op) parents ts := rfl

/-- One separator does what a run of them does. -/
theorem build_gap (f : Frame) (parents : List Frame) {gap : List Char} (hne : gap ≠ [])
    (ts : List Token) :
    build f parents (gap.map .separator ++ ts) = build f.separate parents ts := by
  induction gap generalizing f with
  | nil => exact absurd rfl hne
  | cons c gap ih =>
    change build f.separate parents (gap.map .separator ++ ts) = _
    cases gap with
    | nil => rfl
    | cons d gap => rw [ih _ (List.cons_ne_nil _ _), Frame.separate_separate]

mutual

theorem Operand.build_tokens {negated : Bool} (o : Operand negated) {f : Frame}
    (hf : f.negating = false) (parents : List Frame) (ts : List Token) :
    build f parents (o.tokens ++ ts) = build (f.append o.tree) parents ts := by
  obtain ⟨op, children, negating⟩ := f
  subst hf
  cases o with
  | word w => rfl
  | negation w => rfl
  | nested e =>
    simp only [Operand.tokens, List.cons_append, List.append_assoc]
    rw [build, e.build_tokens]
    rfl

theorem Expression.build_tokens (e : Expression) (parents : List Frame) (ts : List Token) :
    build {} parents (e.tokens ++ ts) = build e.frame parents ts := by
  cases e with
  | first o => exact o.build_tokens rfl parents ts
  | joined e op o =>
    simp only [Expression.tokens, List.append_assoc, List.cons_append]
    rw [e.build_tokens, build_connective, o.build_tokens (by simp [e.frame_negating])]
    rfl
  | beside e gap o =>
    simp only [Expression.tokens, List.append_assoc]
    rw [e.build_tokens, build_gap _ _ gap.nonempty, o.build_tokens (by simp [e.frame_negating])]
    rfl

end

theorem Expression.parse_text (e : Expression) : parseChars e.text = e.frame.group := by
  have hscan := e.scan_text follows_nil
  rw [List.append_nil] at hscan
  rw [parseChars, hscan, e.build_tokens, Token.scan_nil]
  rfl

namespace Frame

/-- A group with an operand, and with two if it is a group of alternatives: its first
operand joined it before the operator did. -/
structure Settled (f : Frame) : Prop where
  started : f.children ≠ []
  alternatives : f.operator ≠ .and → 1 < f.children.length

theorem append_settled {f : Frame} (hf : f.operator ≠ .and → f.children ≠ []) (t : Tree) :
    (f.append t).Settled := by
  refine ⟨by simp [append], fun hop => ?_⟩
  have hlen := List.length_pos_iff.2 (hf hop)
  simp only [append, List.length_append, List.length_singleton]
  omega

theorem rebind_started {f : Frame} (hf : f.children ≠ []) (op : Connective) :
    (f.rebind op).children ≠ [] := by
  rw [rebind]
  split_ifs
  · exact hf
  · exact hf
  · exact List.cons_ne_nil _ _

theorem rebind_operator (f : Frame) (op : Connective) : (f.rebind op).operator = op := by
  rw [rebind]
  split
  · assumption
  · rfl

theorem separate_started {f : Frame} (hf : f.children ≠ []) : f.separate.children ≠ [] := by
  rw [separate]
  split
  · exact List.cons_ne_nil _ _
  · exact hf

theorem separate_operator {f : Frame} (hf : f.Settled) : f.separate.operator = .and := by
  rw [separate]
  split
  · rfl
  · next h =>
    by_contra hop
    exact h ⟨hop, hf.alternatives hop⟩

variable (target : List Char)

theorem accepts_single (op : Connective) (t : Tree) :
    (Tree.group op.operator [t]).accepts target = t.accepts target := by
  cases op <;> simp [Connective.operator, Tree.holds]

/-- Another operator does not change what is accepted before its next operand comes. -/
theorem rebind_accepts (f : Frame) (op : Connective) (hf : f.children ≠ []) :
    (f.rebind op).group.accepts target = f.group.accepts target := by
  obtain ⟨t, ts, hts⟩ := List.exists_cons_of_ne_nil hf
  rw [rebind]
  split_ifs with hop hlen
  · rfl
  · have hnil : ts = [] := by simpa [hts] using hlen
    subst hnil
    simp only [group, hts, accepts_single]
  · exact accepts_single target op f.group

theorem separate_accepts (f : Frame) :
    f.separate.group.accepts target = f.group.accepts target := by
  rw [separate]
  split
  · exact accepts_single target .and f.group
  · rfl

theorem append_accepts (f : Frame) (hf : f.children ≠ []) (t : Tree) :
    (f.append t).group.accepts target = true ↔
      f.operator.Combines (f.group.accepts target = true) (t.accepts target = true) := by
  have hne : (f.children.map (·.accepts target)).isEmpty = false := by simpa using hf
  cases hop : f.operator <;>
    simp [append, group, hop, Connective.operator, Connective.Combines, Tree.holds, hf]

end Frame

theorem Expression.frame_settled (e : Expression) : e.frame.Settled := by
  cases e with
  | first o => exact Frame.append_settled (fun h => absurd rfl h) _
  | joined e op o =>
    exact Frame.append_settled (fun _ => Frame.rebind_started e.frame_settled.started op) _
  | beside e gap o =>
    exact Frame.append_settled (fun _ => Frame.separate_started e.frame_settled.started) _

mutual

theorem Operand.tree_accepts (target : List Char) {negated : Bool} (o : Operand negated) :
    o.tree.accepts target = true ↔ o.Holds target := by
  cases o with
  | word w => rw [Operand.tree, Tree.accepts_term, Tree.found_iff, Operand.Holds]
  | negation w =>
    simp [Operand.tree, Operand.Holds, Tree.holds, ← Tree.found_iff]
  | nested e => exact e.frame_accepts target

theorem Expression.frame_accepts (target : List Char) (e : Expression) :
    e.frame.group.accepts target = true ↔ e.Holds target := by
  cases e with
  | first o =>
    rw [Expression.frame, Expression.Holds, ← o.tree_accepts target]
    exact (Bool.eq_iff_iff.1 (Frame.accepts_single target .and o.tree))
  | joined e op o =>
    have hs := Frame.rebind_started e.frame_settled.started op
    rw [Expression.frame, Frame.append_accepts target _ hs, Frame.rebind_operator,
      Frame.rebind_accepts target _ op e.frame_settled.started, e.frame_accepts target,
      o.tree_accepts target, Expression.Holds]
  | beside e gap o =>
    have hs := Frame.separate_started e.frame_settled.started
    rw [Expression.frame, Frame.append_accepts target _ hs,
      Frame.separate_operator e.frame_settled, Frame.separate_accepts, e.frame_accepts target,
      o.tree_accepts target, Expression.Holds, Connective.Combines]

end

/-- A query that is an expression keeps the names of which the expression holds, whatever
its length and its depth. -/
theorem keeps_expression (e : Expression) (name : String) :
    keeps (String.ofList e.text) name = true ↔ e.Holds name.toList := by
  rw [keeps, parse, String.toList_ofList, e.parse_text]
  exact e.frame_accepts name.toList

end FileSearch.Query
