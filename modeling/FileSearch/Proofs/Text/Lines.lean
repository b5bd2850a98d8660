import FileSearch.Text.Lines
import FileSearch.Proofs.Json.Scalars
import FileSearch.Proofs.Query.Scanning

/-!
# Lines that are cut back

A text without a line boundary is one line. Such lines, with a line feed behind each, are cut
back into the same lines, and trimming the end of them all reaches no further than the last line
that has more than blanks.
-/

set_option autoImplicit false

namespace FileSearch.Text

def OneLine (s : List Char) : Prop := ∀ c ∈ s, isLineBreak c = false

instance (s : List Char) : Decidable (OneLine s) :=
  List.decidableBAll (fun c => isLineBreak c = false) s

def ended (lines : List (List Char)) : List Char := lines.flatMap (· ++ ['\n'])

def lines (text : String) : List String := (splitLines text.toList).map String.ofList

def trimEnd (text : String) : String := String.ofList (trimRight text.toList)

section
variable {c : Char} {s t line : List Char}

@[simp]
theorem one_line_append : OneLine (s ++ t) ↔ OneLine s ∧ OneLine t := List.forall_mem_append

theorem digit_inside (h : c.isDigit = true) : isLineBreak c = false := by
  rw [Bool.eq_false_iff]
  intro hbreak
  simp only [isLineBreak, decide_eq_true_eq, List.mem_cons, List.not_mem_nil, or_false] at hbreak
  rcases hbreak with rfl | rfl | rfl | rfl | rfl | rfl | rfl | rfl | rfl | rfl <;> cases h

theorem nat_one_line (n : Nat) : OneLine (toString n).toList := by
  intro c hc
  rw [Nat.toString_eq_repr, Nat.toList_repr] at hc
  exact digit_inside (Json.digits_digit hc)

theorem int_one_line (n : Int) : OneLine (toString n).toList := by
  intro c hc
  rcases Json.int_char hc with rfl | hdigit
  · rfl
  · exact digit_inside hdigit

theorem trim_end_one_line {text : String} (h : OneLine text.toList) :
    OneLine (trimEnd text).toList := by
  rw [trimEnd, String.toList_ofList]
  exact fun c hc => h c ((Query.trim_right_begins text.toList).subset hc)

theorem split_inside (h : isLineBreak c = false) (s : List Char) :
    splitLines (c :: s) = extendLine c (splitLines s) := by
  have hreturn : c ≠ '\r' := by
    rintro rfl
    exact absurd h (by decide)
  rw [splitLines, h]
  · rfl
  · exact fun _ hc _ => hreturn hc

theorem split_line (h : OneLine line) (s : List Char) :
    splitLines (line ++ '\n' :: s) = line :: splitLines s := by
  induction line with
  | nil => rfl
  | cons c line ih =>
    obtain ⟨hc, hline⟩ := List.forall_mem_cons.1 h
    rw [List.cons_append, split_inside hc, ih hline]
    rfl

theorem split_ended {lines : List (List Char)} (h : ∀ line ∈ lines, OneLine line) :
    splitLines (ended lines) = lines := by
  induction lines with
  | nil => rfl
  | cons line lines ih =>
    obtain ⟨hline, hlines⟩ := List.forall_mem_cons.1 h
    have hfirst : ended (line :: lines) = line ++ '\n' :: ended lines := by
      simp [ended]
    rw [hfirst, split_line hline, ih hlines]

theorem lines_ended {lines : List String} (h : ∀ line ∈ lines, OneLine line.toList) :
    Text.lines (String.ofList (ended (lines.map String.toList))) = lines := by
  have hsplit : ∀ line ∈ lines.map String.toList, OneLine line := List.forall_mem_map.2 h
  rw [Text.lines, String.toList_ofList, split_ended hsplit]
  simp [Function.comp_def]

theorem intercalate_ended (lines : List (List Char)) :
    ['\n'].intercalate (lines ++ [[]]) = ended lines := by
  induction lines with
  | nil => rfl
  | cons line lines ih =>
    have hmore : lines ++ [[]] ≠ [] := List.append_ne_nil_of_right_ne_nil _ (List.cons_ne_nil _ _)
    rw [List.cons_append, List.intercalate_cons_of_ne_nil hmore, ih]
    simp [ended]

/-- Blanks are only lost behind the last line that has more than blanks. -/
theorem trim_right_ended (hc : isBlank c = false) (lines : List (List Char)) (s t : List Char) :
    trimRight (ended (lines ++ [s ++ c :: t])) = ended lines ++ trimRight (s ++ c :: t) := by
  have hfeed : isBlank '\n' = true := by decide
  have hended : ended (lines ++ [s ++ c :: t]) = (ended lines ++ s) ++ c :: (t ++ ['\n']) := by
    simp [ended]
  rw [hended, Query.trim_right_behind hc, Query.trim_right_behind hc,
    Query.trim_right_blank hfeed, List.append_assoc]

end

end FileSearch.Text
