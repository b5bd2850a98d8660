import FileSearch.Proofs.Query.Expression
import FileSearch.Proofs.Query.Shape

/-!
# The trees that queries build

However malformed a query is, the leaves of its tree are words, a negation has one word
below it, and all other groups are conjunctions and alternatives. Blanks inside a query have
to be spaces for this: any other blank is a part of a word.
-/

set_option autoImplicit false

namespace FileSearch.Query

def Spaced (s : List Char) : Prop := ∀ c ∈ s, Text.isBlank c = true → c = ' '

theorem plain_is_word {chars : List Char} (h : Token.Plain chars) (hs : Spaced chars) :
    ∃ w : Word, w.chars = chars := by
  have hblank : ∀ c ∈ chars, Text.isBlank c = false := by
    intro c hc
    cases hb : Text.isBlank c with
    | false => rfl
    | true =>
      have hsep := h.inside c hc
      rw [hs c hc hb] at hsep
      exact absurd hsep (by decide)
  refine ⟨⟨chars, h.nonempty, h.inside, hblank, ?_⟩, rfl⟩
  intro word hword hp
  have hno := h.noOperator word hword
  rw [trim_left_solid fun c hc => hblank c (List.mem_of_mem_head? hc)] at hno
  exact hno hp

theorem scan_words {s : List Char} (hs : Spaced s) :
    ∀ chars, .word chars ∈ Token.scan s → ∃ w : Word, w.chars = chars := by
  intro chars hmem
  obtain ⟨hplain, hsub⟩ := Token.scan_word_part hmem
  exact plain_is_word hplain fun c hc => hs c (hsub.subset hc)

inductive Legible : Tree → Prop
  | word (w : Word) : Legible (.term w.chars)
  | negation (w : Word) : Legible (.group .not [.term w.chars])
  | group (op : Connective) {children : List Tree} (h : ∀ t ∈ children, Legible t) :
    Legible (.group op.operator children)

theorem shaped_legible {t : Tree} (h : Shaped (fun chars => ∃ w : Word, w.chars = chars) t) :
    Legible t := by
  induction h with
  | term hword =>
    obtain ⟨w, rfl⟩ := hword
    exact .word w
  | negation hword =>
    obtain ⟨w, rfl⟩ := hword
    exact .negation w
  | group op _ ih => exact .group op ih

theorem parse_legible {query : String} (h : Spaced query.toList) : Legible (parse query) :=
  shaped_legible (parse_shaped (scan_words h))

end FileSearch.Query
