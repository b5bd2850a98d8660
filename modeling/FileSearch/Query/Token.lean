import FileSearch.Query.Tree
import FileSearch.Text.Blank

/-!
# Query tokens

A query text is cut from the left into parentheses, operator words, words and
separators. Operator words count wherever the rest of the text starts with one,
blanks aside, so `ORB` is an operator and a word; text behind an opening parenthesis
or an operator word loses the blanks at both its ends.
-/

set_option autoImplicit false

namespace FileSearch.Query

inductive Connective where
  | and
  | or
  deriving DecidableEq, Repr

def Connective.operator : Connective → Operator
  | .and => .and
  | .or => .or

inductive Token where
  | opening
  | closing
  | not
  | connective (op : Connective)
  | word (chars : List Char)
  | separator (char : Char)
  deriving DecidableEq, Repr

namespace Token

def isSeparator (c : Char) : Bool :=
  c ∈ [',', ';', '.', ':', '-', '_', '\'', '/', '!', ' ', '(', ')']

def after? (word s : List Char) : Option (List Char) :=
  (Text.after? word (Text.trimLeft s)).map Text.trim

def operator? (s : List Char) : Option (Token × List Char) :=
  match after? ['N', 'O', 'T'] s with
  | some rest => some (.not, rest)
  | none =>
    match after? ['O', 'R'] s with
    | some rest => some (.connective .or, rest)
    | none => (after? ['A', 'N', 'D'] s).map fun rest => (.connective .and, rest)

def plain (c : Char) (s : List Char) : Token × List Char :=
  if isSeparator c then (.separator c, s)
  else (.word (c :: s.takeWhile (!isSeparator ·)), s.dropWhile (!isSeparator ·))

def next? : List Char → Option (Token × List Char)
  | [] => none
  | ')' :: s => some (.closing, s)
  | '(' :: s => some (.opening, Text.trim s)
  | c :: s => some ((operator? (c :: s)).getD (plain c s))

theorem after_shorter {word s rest : List Char} (hw : word ≠ []) (h : after? word s = some rest) :
    rest.length < s.length := by
  obtain ⟨tail, htail, rfl⟩ := Option.map_eq_some_iff.1 h
  have hlen : (Text.trimLeft s).length = word.length + tail.length := by
    rw [(Text.after_eq_some_iff _ _ _).1 htail, List.length_append]
  have := Text.trim_length tail
  have := Text.trim_left_length s
  have := List.length_pos_iff.2 hw
  omega

theorem operator_shorter {s rest : List Char} {t : Token} (h : operator? s = some (t, rest)) :
    rest.length < s.length := by
  unfold operator? at h
  split at h
  · next r hr =>
    cases h
    exact after_shorter (by simp) hr
  · split at h
    · next r hr =>
      cases h
      exact after_shorter (by simp) hr
    · obtain ⟨r, hr, he⟩ := Option.map_eq_some_iff.1 h
      cases he
      exact after_shorter (by simp) hr

theorem plain_shorter (c : Char) (s : List Char) : (plain c s).2.length < (c :: s).length := by
  unfold plain
  split
  · simp
  · exact Nat.lt_succ_of_le (List.dropWhile_sublist _).length_le

theorem next_shorter {s rest : List Char} {t : Token} (h : next? s = some (t, rest)) :
    rest.length < s.length := by
  unfold next? at h
  split at h
  · cases h
  · cases h
    simp
  · cases h
    exact Nat.lt_succ_of_le (Text.trim_length _)
  · next c s _ _ =>
    cases ho : operator? (c :: s) with
    | none =>
      simp only [ho, Option.getD_none, Option.some.injEq] at h
      have := plain_shorter c s
      rw [h] at this
      exact this
    | some found =>
      rw [ho] at h
      cases h
      exact operator_shorter ho

def scan (s : List Char) : List Token :=
  match _cut : next? s with
  | none => []
  | some (t, rest) => t :: scan rest
termination_by s.length
decreasing_by exact next_shorter _cut

end Token

end FileSearch.Query
