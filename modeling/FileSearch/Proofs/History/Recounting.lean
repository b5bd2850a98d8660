import FileSearch.History.Connection
import Mathlib.Data.Finset.Card
import Mathlib.Data.List.Induction

/-!
# What the rows recount

The table of known hits is a record of sightings. A run of sightings, of which each has
the time of its batch, fixes its rows: there is one for each key, in the order in which
the keys came up, and it has the first and the last sighting of its key. Nothing is said
about the order of the times, which may stand still or go back.
-/

set_option autoImplicit false

namespace FileSearch.History

structure Event where
  time : Int
  sighting : Sighting

namespace Event

def key (e : Event) : Key := e.sighting.key

end Event

structure Recounts (events : List Event) (rows : List Row) : Prop where
  /-- One row for each key, in the order of first events. -/
  keys : rows.map (·.key) = (events.map (·.key)).eraseDups
  first : ∀ row ∈ rows,
    (events.find? (·.key = row.key)).map (·.time) = some row.firstSeen
  last : ∀ row ∈ rows,
    (events.reverse.find? (·.key = row.key)).map (fun e => (e.time, e.sighting.sources)) =
      some (row.lastSeen, row.sources)

theorem erase_dups_append {α : Type} [DecidableEq α] (l : List α) (a : α) :
    (l ++ [a]).eraseDups = if a ∈ l then l.eraseDups else l.eraseDups ++ [a] := by
  rw [List.eraseDups_append]
  by_cases ha : a ∈ l
  · simp [List.removeAll, ha]
  · simp [List.removeAll, ha, List.eraseDups_cons]

theorem nodup_erase_dups {α : Type} [DecidableEq α] (l : List α) : l.eraseDups.Nodup := by
  induction l using List.reverseRecOn with
  | nil => exact List.nodup_nil
  | append_singleton l a ih =>
    rw [erase_dups_append]
    by_cases ha : a ∈ l
    · rwa [if_pos ha]
    · rw [if_neg ha, List.nodup_append]
      refine ⟨ih, List.nodup_cons.2 ⟨by simp, List.nodup_nil⟩, ?_⟩
      intro b hb c hc hbc
      rw [hbc, List.mem_singleton.1 hc, List.mem_eraseDups] at hb
      exact ha hb

section
variable {events : List Event} {rows : List Row}

theorem recounts_nodup (h : Recounts events rows) : (rows.map (·.key)).Nodup := by
  rw [h.keys]
  exact nodup_erase_dups _

theorem recounts_mem (h : Recounts events rows) (key : Key) :
    key ∈ rows.map (·.key) ↔ key ∈ events.map (·.key) := by
  rw [h.keys, List.mem_eraseDups]

end

theorem upsert_keys (now : Int) (key : Key) (sources : Int) (rows : List Row) :
    (upsert now key sources rows).map (·.key) =
      if key ∈ rows.map (·.key) then rows.map (·.key) else rows.map (·.key) ++ [key] := by
  induction rows with
  | nil => rfl
  | cons row rows ih =>
    rw [upsert]
    by_cases hrow : row.key = key
    · simp [hrow]
    · rw [if_neg hrow, List.map_cons, ih]
      by_cases hkey : key ∈ rows.map (·.key)
      · simp [hkey]
      · simp [hkey, Ne.symm hrow]

/-- A row after a sighting is one of another key, the old row of the key brought up to
date, or a new row. -/
theorem upsert_mem {now : Int} {key : Key} {sources : Int} {rows : List Row} {row : Row}
    (hnodup : (rows.map (·.key)).Nodup) (h : row ∈ upsert now key sources rows) :
    (row ∈ rows ∧ row.key ≠ key) ∨
      (∃ old ∈ rows, old.key = key ∧ row = { old with sources, lastSeen := now }) ∨
      (key ∉ rows.map (·.key) ∧ row = ⟨key, sources, now, now⟩) := by
  induction rows with
  | nil => exact .inr (.inr ⟨by simp, by simpa [upsert] using h⟩)
  | cons first rows ih =>
    obtain ⟨hfirst, hrest⟩ := List.nodup_cons.1 hnodup
    rw [upsert] at h
    by_cases hkey : first.key = key
    · rw [if_pos hkey] at h
      rcases List.mem_cons.1 h with rfl | hmem
      · exact .inr (.inl ⟨first, by simp, hkey, rfl⟩)
      · refine .inl ⟨List.mem_cons_of_mem _ hmem, fun hsame => hfirst ?_⟩
        exact List.mem_map.2 ⟨row, hmem, hsame.trans hkey.symm⟩
    · rw [if_neg hkey] at h
      rcases List.mem_cons.1 h with rfl | hmem
      · exact .inl ⟨by simp, hkey⟩
      · rcases ih hrest hmem with ⟨hold, hne⟩ | ⟨old, hold, hsame, hrow⟩ | ⟨hnew, hrow⟩
        · exact .inl ⟨List.mem_cons_of_mem _ hold, hne⟩
        · exact .inr (.inl ⟨old, List.mem_cons_of_mem _ hold, hsame, hrow⟩)
        · refine .inr (.inr ⟨?_, hrow⟩)
          rw [List.map_cons, List.mem_cons, not_or]
          exact ⟨Ne.symm hkey, hnew⟩

section
variable {events : List Event} {rows : List Row}

theorem recounts_step (h : Recounts events rows) (now : Int) (s : Sighting) :
    Recounts (events ++ [⟨now, s⟩]) (upsert now s.key s.sources rows) where
  keys := by
    rw [upsert_keys, List.map_append, List.map_singleton, erase_dups_append, ← h.keys]
    simp only [recounts_mem h]
    rfl
  first := by
    intro row hrow
    rw [List.find?_append]
    rcases upsert_mem (recounts_nodup h) hrow with
      ⟨hold, -⟩ | ⟨old, hold, -, rfl⟩ | ⟨hnew, rfl⟩
    · have hfirst := h.first row hold
      obtain ⟨e, he, -⟩ := Option.map_eq_some_iff.1 hfirst
      rwa [he, Option.some_or, ← he]
    · have hfirst := h.first old hold
      obtain ⟨e, he, -⟩ := Option.map_eq_some_iff.1 hfirst
      rwa [he, Option.some_or, ← he]
    · rw [recounts_mem h] at hnew
      have hnone : events.find? (·.key = s.key) = none := by
        rw [List.find?_eq_none]
        intro e he hsame
        exact hnew (List.mem_map.2 ⟨e, he, by simpa using hsame⟩)
      rw [hnone, Option.none_or, List.find?_cons_of_pos (by simp [Event.key])]
      rfl
  last := by
    intro row hrow
    rw [List.reverse_append, List.reverse_singleton, List.singleton_append]
    rcases upsert_mem (recounts_nodup h) hrow with
      ⟨hold, hne⟩ | ⟨old, -, hsame, rfl⟩ | ⟨-, rfl⟩
    · rw [List.find?_cons_of_neg (by simp [Event.key, Ne.symm hne])]
      exact h.last row hold
    · rw [List.find?_cons_of_pos (by simp [Event.key, hsame])]
      rfl
    · rw [List.find?_cons_of_pos (by simp [Event.key])]
      rfl

/-- A batch that is recorded to its end adds its sightings, all of them at one time. -/
theorem recounts_batch (h : Recounts events rows) (now : Int) (batch : List Sighting)
    {later : List Row} (hall : recordAll now batch rows = (later, true)) :
    Recounts (events ++ batch.map (Event.mk now)) later := by
  induction batch generalizing events rows with
  | nil =>
    cases hall
    simpa using h
  | cons s rest ih =>
    rw [recordAll] at hall
    by_cases hfits : s.fits = true
    · rw [if_pos hfits] at hall
      have hrest := ih (recounts_step h now s) hall
      rwa [List.append_assoc, List.singleton_append] at hrest
    · rw [if_neg hfits] at hall
      cases hall

theorem record_all_fits {batch : List Sighting} (h : ∀ s ∈ batch, s.fits = true) (now : Int)
    (rows : List Row) : ∃ later, recordAll now batch rows = (later, true) := by
  induction batch generalizing rows with
  | nil => exact ⟨rows, rfl⟩
  | cons s rest ih =>
    rw [recordAll, if_pos (h s (by simp))]
    exact ih (fun other hother => h other (by simp [hother])) _

theorem recounts_nil : Recounts [] [] := ⟨rfl, by simp, by simp⟩

theorem recounts_length (h : Recounts events rows) :
    rows.length = (events.map (·.key)).toFinset.card := by
  rw [← List.length_map (·.key), ← List.toFinset_card_of_nodup (recounts_nodup h)]
  congr 1
  ext key
  rw [List.mem_toFinset, List.mem_toFinset, recounts_mem h]

/-- What has been recounted once stays: later events leave the row of each key in place,
with its first time. -/
theorem recounts_stays {later : List Event} {rows' : List Row} (h : Recounts events rows)
    (h' : Recounts (events ++ later) rows') :
    ∀ row ∈ rows, ∃ row' ∈ rows', row'.key = row.key ∧ row'.firstSeen = row.firstSeen := by
  intro row hrow
  have hkey : row.key ∈ rows'.map (·.key) := by
    rw [recounts_mem h', List.map_append, List.mem_append]
    exact .inl ((recounts_mem h _).1 (List.mem_map_of_mem hrow))
  obtain ⟨row', hrow', hsame⟩ := List.mem_map.1 hkey
  refine ⟨row', hrow', hsame, ?_⟩
  have hfirst := h.first row hrow
  have hfirst' := h'.first row' hrow'
  obtain ⟨e, he, -⟩ := Option.map_eq_some_iff.1 hfirst
  rw [hsame, List.find?_append, he, Option.some_or, ← he, hfirst] at hfirst'
  exact (Option.some.inj hfirst').symm

end

end FileSearch.History
