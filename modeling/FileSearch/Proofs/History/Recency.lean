import FileSearch.History.Store
import Mathlib.Data.List.Basic

/-!
# The order of found rows

Rows are found most recently seen first, and rows of one time in the order of the table.
This order is that of the whole table, so it does not depend on which rows are kept.
-/

set_option autoImplicit false

namespace FileSearch.History

def Before (table : List Row) (a b : Row) : Prop :=
  b.lastSeen < a.lastSeen ∨ (a.lastSeen = b.lastSeen ∧ [a, b].Sublist table)

theorem before_le {table : List Row} {a b : Row} (h : Before table a b) :
    b.lastSeen ≤ a.lastSeen := by
  rcases h with hlt | ⟨heq, -⟩
  · omega
  · omega

theorem before_append {table : List Row} {a b : Row} (h : Before table a b) (rest : List Row) :
    Before (table ++ rest) a b := by
  rcases h with hlt | ⟨heq, hsub⟩
  · exact .inl hlt
  · exact .inr ⟨heq, hsub.trans (List.sublist_append_left _ _)⟩

theorem insert_recent_perm (row : Row) (sorted : List Row) :
    (insertRecent row sorted).Perm (row :: sorted) := by
  induction sorted with
  | nil => exact .refl _
  | cons other rest ih =>
    rw [insertRecent]
    split
    · exact .refl _
    · exact (ih.cons other).trans (.swap row other rest)

/-- A row that stands behind all sorted ones in the table goes to its place among them. -/
theorem insert_recent_before {table sorted : List Row} {row : Row}
    (hsorted : sorted.Pairwise (Before table))
    (hlast : ∀ other ∈ sorted, [other, row].Sublist table) :
    (insertRecent row sorted).Pairwise (Before table) := by
  induction sorted with
  | nil => exact List.pairwise_singleton _ _
  | cons other rest ih =>
    obtain ⟨hother, hrest⟩ := List.pairwise_cons.1 hsorted
    rw [insertRecent]
    by_cases hlt : other.lastSeen < row.lastSeen
    -- what follows the other row was not seen later than it
    · rw [if_pos hlt, List.pairwise_cons]
      refine ⟨fun b hb => .inl ?_, hsorted⟩
      rcases List.mem_cons.1 hb with rfl | hmem
      · exact hlt
      · have hle := before_le (hother b hmem)
        omega
    · rw [if_neg hlt, List.pairwise_cons]
      refine ⟨fun b hb => ?_, ih hrest fun b hb => hlast b (List.mem_cons_of_mem _ hb)⟩
      rcases List.mem_cons.1 ((insert_recent_perm row rest).mem_iff.1 hb) with rfl | hmem
      · by_cases heq : other.lastSeen = b.lastSeen
        · exact .inr ⟨heq, hlast other (by simp)⟩
        · exact .inl (by omega)
      · exact hother b hmem

/-- Sorting a table row by row: what is sorted is a rearrangement of the rows so far. -/
theorem by_recency_append {table sorted : List Row} (rest : List Row)
    (hperm : sorted.Perm table) (hsorted : sorted.Pairwise (Before table)) :
    (rest.foldl (fun sorted row => insertRecent row sorted) sorted).Perm (table ++ rest) ∧
      (rest.foldl (fun sorted row => insertRecent row sorted) sorted).Pairwise
        (Before (table ++ rest)) := by
  induction rest generalizing table sorted with
  | nil => exact ⟨by simpa using hperm, by simpa using hsorted⟩
  | cons row rest ih =>
    have hstep : (insertRecent row sorted).Perm (table ++ [row]) :=
      ((insert_recent_perm row sorted).trans (hperm.cons row)).trans
        (List.perm_append_singleton row table).symm
    have hlast : ∀ other ∈ sorted, [other, row].Sublist (table ++ [row]) := by
      intro other hmem
      have hfront : [other].Sublist table := List.singleton_sublist.2 (hperm.mem_iff.1 hmem)
      exact hfront.append (.refl [row])
    have hsorted' := insert_recent_before
      (hsorted.imp fun h => before_append h [row]) hlast
    rw [List.foldl_cons, ← List.singleton_append, ← List.append_assoc]
    exact ih hstep hsorted'

theorem by_recency_perm (table : List Row) : (byRecency table).Perm table :=
  (@by_recency_append [] [] table (.refl []) .nil).1

theorem by_recency_before (table : List Row) : (byRecency table).Pairwise (Before table) :=
  (@by_recency_append [] [] table (.refl []) .nil).2

def passes (query : String) (extension : Option String) (row : Row) : Bool :=
  Query.hasExtension row.key.name extension && Query.keeps query row.key.name

/-- A search finds the rows whose names pass, each once and in the order of the table. -/
theorem select_spec (query : String) (extension : Option String) (table : List Row) :
    ∃ found : List Row, select query extension table = found.map Row.toHit ∧
      found.Perm (table.filter (passes query extension)) ∧
      found.Pairwise (Before table) :=
  ⟨(byRecency table).filter (passes query extension), rfl,
    (by_recency_perm table).filter _, (by_recency_before table).filter _⟩

end FileSearch.History
