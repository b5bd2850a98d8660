import FileSearch.Hit.Aggregate

/-!
# Groups of hits

Looking up a key among the groups gives the hits with this key, in their order. The
count that a hit gets from its group is therefore a plain sum over the hits.
-/

set_option autoImplicit false

namespace FileSearch.Hit

def sharing (key : String) (hits : List Hit) : List Hit := hits.filter (·.contentKey = key)

theorem lookup_insert (h : Hit) (groups : Groups) (key : String) :
    (Groups.insert h groups).lookup key =
      if key = h.contentKey then some ((groups.lookup key).getD [] ++ [h])
      else groups.lookup key := by
  have hne {k : String} (hk : ¬ key = k) : (key == k) = false := beq_eq_false_iff_ne.2 hk
  induction groups with
  | nil =>
    by_cases hk : key = h.contentKey
    · simp [Groups.insert, hk]
    · simp [Groups.insert, List.lookup_cons, hk, hne hk]
  | cons g groups ih =>
    obtain ⟨k, members⟩ := g
    rw [Groups.insert]
    by_cases hh : k = h.contentKey
    · by_cases hk : key = h.contentKey
      · simp [hh, hk]
      · simp [hh, hk, List.lookup_cons, hne hk]
    · by_cases hk : key = k
      · simp [hh, hk]
      · simp [hh, List.lookup_cons, ih, hne hk]

theorem lookup_insert_all (hits : List Hit) (groups : Groups) (key : String) :
    (hits.foldl (fun groups h => Groups.insert h groups) groups).lookup key =
      if sharing key hits = [] then groups.lookup key
      else some ((groups.lookup key).getD [] ++ sharing key hits) := by
  induction hits generalizing groups with
  | nil => rfl
  | cons h hits ih =>
    rw [List.foldl_cons, ih, lookup_insert]
    by_cases hk : key = h.contentKey
    · subst hk
      by_cases hs : sharing h.contentKey hits = []
      · have hs' : sharing h.contentKey (h :: hits) = [h] := by simpa [sharing] using hs
        simp [hs, hs']
      · have hs' : sharing h.contentKey (h :: hits) = h :: sharing h.contentKey hits := by
          simp [sharing]
        simp [hs, hs']
    · have hs' : sharing key (h :: hits) = sharing key hits := by
        simp [sharing, Ne.symm hk]
      simp [hs', hk]

theorem lookup_group (hits : List Hit) (key : String) :
    (group hits).lookup key =
      if sharing key hits = [] then none else some (sharing key hits) := by
  rw [group, lookup_insert_all]
  rfl

theorem lookup_totals (groups : Groups) (key : String) :
    (groups.map fun g => (g.1, totalSources g.2)).lookup key =
      (groups.lookup key).map totalSources := by
  induction groups with
  | nil => rfl
  | cons g groups ih =>
    rw [List.map_cons, List.lookup_cons, List.lookup_cons, ih]
    split <;> rfl

/-- A hit gets the sum over its content among the others. It keeps its own count if its content
is not there. -/
theorem with_group_sources_total (hits others : List Hit) :
    withGroupSources hits others = hits.map fun hit =>
      if sharing hit.contentKey others = [] then hit
      else { hit with sources := totalSources (sharing hit.contentKey others) } := by
  rw [withGroupSources]
  apply List.map_congr_left
  intro hit _
  rw [lookup_totals, lookup_group]
  split
  · rfl
  · rfl

/-- Every hit that is among the others gets the sum over its content. -/
theorem with_group_sources_eq {hits others : List Hit} (h : ∀ hit ∈ hits, hit ∈ others) :
    withGroupSources hits others =
      hits.map fun hit =>
        { hit with sources := totalSources (sharing hit.contentKey others) } := by
  rw [with_group_sources_total]
  apply List.map_congr_left
  intro hit hmem
  have hne : sharing hit.contentKey others ≠ [] :=
    List.ne_nil_of_mem (List.mem_filter.2 ⟨h hit hmem, by simp⟩)
  rw [if_neg hne]

end FileSearch.Hit
