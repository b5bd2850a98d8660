import FileSearch.Proofs.History.Recency
import FileSearch.Proofs.History.Recounting

/-!
# Rows that a batch overwrites

A batch brings the rows of its own keys up to date. All other rows stay as they are and keep
their order, in the table and in what is found in it.
-/

set_option autoImplicit false

namespace FileSearch.History

section
variable {p : Key → Bool} (now : Int)

theorem upsert_filter {key : Key} (h : p key = false) (sources : Int) (rows : List Row) :
    (upsert now key sources rows).filter (p ·.key) = rows.filter (p ·.key) := by
  induction rows with
  | nil => simp [upsert, h]
  | cons row rows ih =>
    rw [upsert]
    by_cases hkey : row.key = key
    · simp [hkey, h]
    · rw [if_neg hkey, List.filter_cons, List.filter_cons, ih]

theorem record_filter {batch : List Sighting} (h : ∀ s ∈ batch, p s.key = false)
    (rows : List Row) :
    (recordAll now batch rows).1.filter (p ·.key) = rows.filter (p ·.key) := by
  induction batch generalizing rows with
  | nil => rfl
  | cons s rest ih =>
    rw [recordAll]
    by_cases hfits : s.fits = true
    · rw [if_pos hfits, ih fun other ho => h other (List.mem_cons_of_mem _ ho)]
      exact upsert_filter now (h s List.mem_cons_self) s.sources rows
    · rw [if_neg hfits]

end

section
variable {now : Int} {batch : List Sighting} {rows : List Row}

theorem record_complete (now : Int) (batch : List Sighting) (rows : List Row) :
    (recordAll now batch rows).2 = batch.all Sighting.fits := by
  induction batch generalizing rows with
  | nil => rfl
  | cons s rest ih =>
    rw [recordAll, List.all_cons]
    by_cases hfits : s.fits = true
    · rw [if_pos hfits, ih, hfits, Bool.true_and]
    · rw [if_neg hfits, Bool.eq_false_iff.2 hfits, Bool.false_and]

theorem upsert_nodup (h : (rows.map (·.key)).Nodup) (key : Key) (sources : Int) :
    ((upsert now key sources rows).map (·.key)).Nodup := by
  rw [upsert_keys]
  by_cases hkey : key ∈ rows.map (·.key)
  · rwa [if_pos hkey]
  · rw [if_neg hkey, List.nodup_append]
    refine ⟨h, List.nodup_singleton key, ?_⟩
    rintro a ha b hb rfl
    exact hkey (List.mem_singleton.1 hb ▸ ha)

theorem record_nodup (h : (rows.map (·.key)).Nodup) (now : Int) (batch : List Sighting) :
    ((recordAll now batch rows).1.map (·.key)).Nodup := by
  induction batch generalizing rows with
  | nil => exact h
  | cons s rest ih =>
    rw [recordAll]
    split
    · exact ih (upsert_nodup h s.key s.sources)
    · exact h

theorem record_keys (hfits : batch.all Sighting.fits = true) (now : Int) (rows : List Row)
    (key : Key) :
    key ∈ (recordAll now batch rows).1.map (·.key) ↔
      key ∈ rows.map (·.key) ∨ key ∈ batch.map (·.key) := by
  induction batch generalizing rows with
  | nil => simp [recordAll]
  | cons s rest ih =>
    rw [List.all_cons, Bool.and_eq_true] at hfits
    rw [recordAll, if_pos hfits.1, ih hfits.2, upsert_keys, List.map_cons, List.mem_cons]
    by_cases hkey : s.key ∈ rows.map (·.key)
    · rw [if_pos hkey]
      constructor
      · rintro (hin | hin)
        · exact .inl hin
        · exact .inr (.inr hin)
      · rintro (hin | rfl | hin)
        · exact .inl hin
        · exact .inl hkey
        · exact .inr hin
    · rw [if_neg hkey, List.mem_append, List.mem_singleton, or_assoc]

/-- Where the count of a sighting depends on its key only, so does that of a written row. -/
theorem record_sources {f : Key → Int} (hnodup : (rows.map (·.key)).Nodup)
    (hfits : batch.all Sighting.fits = true) (hf : ∀ s ∈ batch, s.sources = f s.key)
    {row : Row} (hrow : row ∈ (recordAll now batch rows).1) (hkey : row.key ∈ batch.map (·.key)) :
    row.sources = f row.key := by
  induction batch generalizing rows with
  | nil => cases hkey
  | cons s rest ih =>
    rw [List.all_cons, Bool.and_eq_true] at hfits
    rw [recordAll, if_pos hfits.1] at hrow
    have hrest : ∀ other ∈ rest, other.sources = f other.key :=
      fun other ho => hf other (List.mem_cons_of_mem _ ho)
    by_cases hlater : row.key ∈ rest.map (·.key)
    · exact ih (upsert_nodup hnodup s.key s.sources) hfits.2 hrest hrow hlater
    -- no later sighting of the key, so the row is that of the first one
    · have hsame : row.key = s.key := (List.mem_cons.1 hkey).resolve_right hlater
      have hapart : ∀ other ∈ rest, decide (other.key = row.key) = false := by
        intro other ho
        rw [decide_eq_false_iff_not]
        intro heq
        exact hlater (heq ▸ List.mem_map_of_mem ho)
      have hkept := record_filter now (p := fun key => decide (key = row.key)) hapart
        (upsert now s.key s.sources rows)
      have hmem : row ∈ (upsert now s.key s.sources rows).filter
          fun other => decide (other.key = row.key) := by
        rw [← hkept]
        exact List.mem_filter.2 ⟨hrow, by simp⟩
      rcases upsert_mem hnodup (List.mem_filter.1 hmem).1 with
        ⟨-, hne⟩ | ⟨old, -, -, rfl⟩ | ⟨-, rfl⟩
      · exact absurd hsame hne
      · rw [hsame]
        exact hf s List.mem_cons_self
      · exact hf s List.mem_cons_self

end

theorem insert_recent_front {row : Row} {sorted : List Row}
    (h : ∀ other ∈ sorted, other.lastSeen < row.lastSeen) :
    insertRecent row sorted = row :: sorted := by
  cases sorted with
  | nil => rfl
  | cons other rest => rw [insertRecent, if_pos (h other List.mem_cons_self)]

theorem insert_recent_filter {p : Row → Bool} {row : Row} {sorted : List Row}
    (hsorted : sorted.Pairwise fun a b => b.lastSeen ≤ a.lastSeen) :
    (insertRecent row sorted).filter p =
      if p row then insertRecent row (sorted.filter p) else sorted.filter p := by
  induction sorted with
  | nil => exact List.filter_cons
  | cons other rest ih =>
    obtain ⟨hother, hrest⟩ := List.pairwise_cons.1 hsorted
    rw [insertRecent]
    by_cases hlt : other.lastSeen < row.lastSeen
    -- the row goes to the front, and all that is kept was seen before it
    · have hfront : ∀ kept ∈ (other :: rest).filter p, kept.lastSeen < row.lastSeen := by
        intro kept hkept
        rcases List.mem_cons.1 (List.mem_filter.1 hkept).1 with rfl | hmem
        · exact hlt
        · have hle := hother kept hmem
          omega
      rw [if_pos hlt, insert_recent_front hfront]
      exact List.filter_cons
    · rw [if_neg hlt, List.filter_cons, ih hrest, List.filter_cons]
      by_cases hp : p other = true
      · rw [if_pos hp, if_pos hp, insertRecent, if_neg hlt]
        split <;> rfl
      · rw [if_neg hp, if_neg hp]

/-- The order does not depend on which rows are kept. -/
theorem by_recency_filter (p : Row → Bool) (rows : List Row) :
    (byRecency rows).filter p = byRecency (rows.filter p) := by
  induction rows using List.reverseRecOn with
  | nil => rfl
  | append_singleton rows row ih =>
    have hsorted : (byRecency rows).Pairwise fun a b => b.lastSeen ≤ a.lastSeen :=
      (by_recency_before rows).imp before_le
    have hlast (rows : List Row) (row : Row) :
        byRecency (rows ++ [row]) = insertRecent row (byRecency rows) := by
      rw [byRecency, List.foldl_append]
      rfl
    rw [hlast, insert_recent_filter hsorted, ih, List.filter_append]
    by_cases hp : p row = true
    · rw [if_pos hp, List.filter_cons_of_pos hp, List.filter_nil, hlast]
    · rw [if_neg hp, List.filter_cons_of_neg hp, List.filter_nil, List.append_nil]

end FileSearch.History
