/-!
# Prefixes and substrings

A text occurs in another one if it is a run of consecutive characters of it.
-/

set_option autoImplicit false

namespace FileSearch.Text

def occursIn (s : List Char) : List Char → Bool
  | [] => s.isEmpty
  | c :: t => s.isPrefixOf (c :: t) || occursIn s t

def after? : List Char → List Char → Option (List Char)
  | [], t => some t
  | _ :: _, [] => none
  | c :: s, d :: t => if c = d then after? s t else none

theorem after_eq_some_iff (s t rest : List Char) : after? s t = some rest ↔ t = s ++ rest := by
  induction s generalizing t with
  | nil => simp [after?]
  | cons c s ih =>
    cases t with
    | nil => simp [after?]
    | cons d t =>
      by_cases h : c = d
      · simp [after?, h, ih]
      · simp [after?, h, Ne.symm h]

theorem occursIn_iff (s t : List Char) : occursIn s t = true ↔ s <:+: t := by
  induction t with
  | nil => simp [occursIn]
  | cons c t ih => simp [occursIn, ih, List.infix_cons_iff]

end FileSearch.Text
