import FileSearch.Proofs.Query.Scanning
import FileSearch.Query.Tree

/-!
# Well-formed expressions

The expressions that a user is told to write: words, negated words and parentheses,
joined by an operator between blanks or by separators alone. What an expression means
is said here by itself, from the left to the right, and with no regard to trees. Its
text is cut into the tokens that it was put together from.
-/

set_option autoImplicit false

namespace FileSearch.Query

structure Word where
  chars : List Char
  nonempty : chars ≠ []
  inside : ∀ c ∈ chars, Token.isSeparator c = false
  solid : ∀ c ∈ chars, Text.isBlank c = false
  plain : ∀ word ∈ Token.operatorWords, ¬ word <+: chars

def isGapChar (c : Char) : Bool := Token.isSeparator c && c != '(' && c != ')'

structure Gap where
  chars : List Char
  nonempty : chars ≠ []
  inside : ∀ c ∈ chars, isGapChar c = true

mutual

/-- An operand. The index tells whether it is a negated word, which may not follow
separators alone. -/
inductive Operand : Bool → Type
  | word (w : Word) : Operand false
  | negation (w : Word) : Operand true
  | nested (e : Expression) : Operand false

inductive Expression : Type
  | first {negated : Bool} (o : Operand negated) : Expression
  | joined (e : Expression) (op : Connective) {negated : Bool} (o : Operand negated) : Expression
  | beside (e : Expression) (gap : Gap) (o : Operand false) : Expression

end

def Connective.Combines (op : Connective) (p q : Prop) : Prop :=
  match op with
  | .and => p ∧ q
  | .or => p ∨ q

mutual

/-- A word holds of a target in which it occurs, whatever the case of the letters. -/
def Operand.Holds (target : List Char) {negated : Bool} : Operand negated → Prop
  | .word w => Text.fold w.chars <:+: Text.fold target
  | .negation w => ¬ Text.fold w.chars <:+: Text.fold target
  | .nested e => e.Holds target

def Expression.Holds (target : List Char) : Expression → Prop
  | .first o => o.Holds target
  | .joined e op o => op.Combines (e.Holds target) (o.Holds target)
  | .beside e _ o => e.Holds target ∧ o.Holds target

end

mutual

def Operand.text {negated : Bool} : Operand negated → List Char
  | .word w => w.chars
  | .negation w => 'N' :: 'O' :: 'T' :: ' ' :: w.chars
  | .nested e => '(' :: (e.text ++ [')'])

def Expression.text : Expression → List Char
  | .first o => o.text
  | .joined e op o => e.text ++ (Tree.infixed op.operator ++ o.text)
  | .beside e gap o => e.text ++ (gap.chars ++ o.text)

end

mutual

def Operand.tokens {negated : Bool} : Operand negated → List Token
  | .word w => [.word w.chars]
  | .negation w => [.not, .word w.chars]
  | .nested e => .opening :: (e.tokens ++ [.closing])

def Expression.tokens : Expression → List Token
  | .first o => o.tokens
  | .joined e op o => e.tokens ++ (.connective op :: o.tokens)
  | .beside e gap o => e.tokens ++ (gap.chars.map .separator ++ o.tokens)

end

namespace Operand

theorem text_nonempty {negated : Bool} (o : Operand negated) : o.text ≠ [] := by
  cases o with
  | word w => exact w.nonempty
  | negation w => exact List.cons_ne_nil _ _
  | nested e => exact List.cons_ne_nil _ _

theorem text_front {negated : Bool} (o : Operand negated) : SolidFront o.text := by
  cases o with
  | word w => exact fun c hc => w.solid c (List.mem_of_mem_head? hc)
  | negation w => simp [text, SolidFront, show Text.isBlank 'N' = false from rfl]
  | nested e => simp [text, SolidFront, show Text.isBlank '(' = false from rfl]

theorem text_back {negated : Bool} (o : Operand negated) : SolidBack o.text := by
  have hword (w : Word) : SolidBack w.chars :=
    fun c hc => w.solid c (List.mem_of_getLast? hc)
  cases o with
  | word w => exact hword w
  | negation w =>
    intro c hc
    apply hword w c
    have hne := w.nonempty
    simpa [text, List.getLast?_cons, Option.getD_eq_iff, List.getLast?_eq_some_getLast hne] using hc
  | nested e =>
    intro c hc
    have : c = ')' := by simpa [text, List.getLast?_cons] using hc.symm
    rw [this]
    rfl

end Operand

namespace Expression

theorem text_nonempty (e : Expression) : e.text ≠ [] := by
  cases e with
  | first o => exact o.text_nonempty
  | joined e op o => simp [text, o.text_nonempty]
  | beside e gap o => simp [text, o.text_nonempty]

theorem text_front : (e : Expression) → SolidFront e.text
  | first o => o.text_front
  | joined e _ _ => solid_front_append e.text_nonempty e.text_front
  | beside e _ _ => solid_front_append e.text_nonempty e.text_front

end Expression

end FileSearch.Query
