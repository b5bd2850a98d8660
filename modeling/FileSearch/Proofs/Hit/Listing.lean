import FileSearch.Proofs.Hit.Merging
import Mathlib.Algebra.BigOperators.Group.List.Basic
import Mathlib.Algebra.Ring.Int.Defs

/-!
# What a merged list shows

A merged list has each content in one run, in the order in which the contents come up, and in
this run each name once, in the order in which the names come up. Nothing is lost and nothing
is counted twice: every name of every content is there as its first hit, and the counts of the
contents add up to the sources of all hits. The order in which the hits come decides which hit
stands for a name and where it stands, but not what is counted.
-/

set_option autoImplicit false

namespace FileSearch.Hit

def label (h : Hit) : String × String := (h.contentKey, h.name)

def shownSources (merged : List Hit) (key : String) : Int :=
  ((merged.find? (·.contentKey = key)).map (·.sources)).getD 0

structure Merges (hits merged : List Hit) : Prop where
  distinct : (merged.map label).Nodup
  complete : ∀ l, l ∈ merged.map label ↔ l ∈ hits.map label
  /-- What is shown is the first hit of its label, with the sources of its whole content. -/
  first : ∀ h ∈ merged, ∃ first, hits.find? (·.label = h.label) = some first ∧
    h = { first with sources := ((hits.filter (·.contentKey = h.contentKey)).map (·.sources)).sum }
  /-- One content stands behind the other, in the order in which they come up. -/
  contents : merged = (hits.map contentKey).eraseDups.flatMap fun key =>
    merged.filter (·.contentKey = key)
  /-- The names of a content stand in the order in which they come up. -/
  names : ∀ key, (merged.filter (·.contentKey = key)).map (·.name) =
    ((hits.filter (·.contentKey = key)).map (·.name)).eraseDups
  total : ((merged.map contentKey).eraseDups.map (shownSources merged)).sum =
    (hits.map (·.sources)).sum

theorem first_named_names (seen : List String) (hits : List Hit) :
    (firstNamed seen hits).map (·.name) =
      ((hits.map (·.name)).filter fun name => decide (name ∉ seen)).eraseDups := by
  induction hits generalizing seen with
  | nil => rfl
  | cons h hits ih =>
    rw [firstNamed, List.map_cons]
    by_cases hseen : h.name ∈ seen
    · rw [if_pos hseen, List.filter_cons_of_neg (by simpa using hseen), ih]
    · rw [if_neg hseen, List.filter_cons_of_pos (by simpa using hseen), List.eraseDups_cons,
        List.map_cons, ih, List.filter_filter]
      congr 3
      funext name
      by_cases hname : name = h.name
      · simp [hname]
      · simp [hname]

theorem first_named_all (members : List Hit) :
    (firstNamed [] members).map (·.name) = (members.map (·.name)).eraseDups := by
  rw [first_named_names, List.filter_eq_self.2 (by simp)]

theorem first_named_find {seen : List String} {hits : List Hit} {h : Hit}
    (hmem : h ∈ firstNamed seen hits) : hits.find? (·.name = h.name) = some h := by
  induction hits generalizing seen with
  | nil => cases hmem
  | cons first hits ih =>
    have hnew : ∀ {later}, h ∈ firstNamed later hits → h.name ∉ later := by
      intro later hin
      have hname := List.mem_map_of_mem (f := (·.name)) hin
      rw [first_named_names, List.mem_eraseDups] at hname
      simpa using (List.mem_filter.1 hname).2
    rw [firstNamed] at hmem
    by_cases hseen : first.name ∈ seen
    · rw [if_pos hseen] at hmem
      have hother : first.name ≠ h.name := fun heq => hnew hmem (heq ▸ hseen)
      rw [List.find?_cons_of_neg (by simpa using hother), ih hmem]
    · rw [if_neg hseen] at hmem
      rcases List.mem_cons.1 hmem with rfl | hmem
      · exact List.find?_cons_of_pos (by simp)
      · have hother : first.name ≠ h.name := fun heq => hnew hmem (heq ▸ List.mem_cons_self)
        rw [List.find?_cons_of_neg (by simpa using hother), ih hmem]

theorem sharing_blocks {block : String → List Hit}
    (hblock : ∀ key, ∀ h ∈ block key, h.contentKey = key) {keys : List String}
    (hnodup : keys.Nodup) (key : String) :
    sharing key (keys.flatMap block) = if key ∈ keys then block key else [] := by
  have hone (other : String) :
      sharing key (block other) = if key = other then block key else [] := by
    by_cases hkey : key = other
    · subst hkey
      rw [if_pos rfl, sharing, List.filter_eq_self]
      exact fun h hh => by simpa using hblock key h hh
    · rw [if_neg hkey, sharing, List.filter_eq_nil_iff]
      intro h hh hsame
      exact hkey ((by simpa using hsame : h.contentKey = key).symm.trans (hblock other h hh))
  induction keys with
  | nil => rfl
  | cons other keys ih =>
    obtain ⟨hother, hkeys⟩ := List.nodup_cons.1 hnodup
    rw [List.flatMap_cons, sharing_append, hone, ih hkeys]
    by_cases hkey : key = other
    · subst hkey
      simp [hother]
    · simp [hkey]

theorem sharing_aggregate (hits : List Hit) (key : String) :
    sharing key (aggregate hits) = condense (sharing key hits) := by
  have hblock : ∀ key, ∀ h ∈ condense (sharing key hits), h.contentKey = key := by
    intro key h hh
    obtain ⟨member, hmember, rfl⟩ := List.mem_map.1 hh
    have hkey : member.contentKey = key := by
      simpa using (List.mem_filter.1 (first_named_mem hmember)).2
    exact hkey
  rw [aggregate, group_eq, List.flatMap_map, sharing_blocks hblock (History.nodup_erase_dups _)]
  by_cases hkey : key ∈ (hits.map contentKey).eraseDups
  · rw [if_pos hkey]
  · have hnone : sharing key hits = [] := by
      rw [sharing, List.filter_eq_nil_iff]
      intro h hh hsame
      exact hkey (List.mem_eraseDups.2 (List.mem_map.2 ⟨h, hh, by simpa using hsame⟩))
    rw [if_neg hkey, hnone]
    rfl

theorem condense_names (members : List Hit) :
    (condense members).map (·.name) = (members.map (·.name)).eraseDups := by
  rw [condense, List.map_map, ← first_named_all]
  rfl

theorem aggregate_contents (hits : List Hit) :
    aggregate hits =
      (hits.map contentKey).eraseDups.flatMap fun key => sharing key (aggregate hits) := by
  conv_lhs => rw [aggregate, group_eq, List.flatMap_map]
  exact List.flatMap_congr fun key _ => (sharing_aggregate hits key).symm

theorem aggregate_labels (hits : List Hit) :
    (aggregate hits).map label = (hits.map contentKey).eraseDups.flatMap fun key =>
      ((sharing key hits).map (·.name)).eraseDups.map fun name => (key, name) := by
  rw [aggregate_contents, List.map_flatMap]
  apply List.flatMap_congr
  intro key _
  rw [← condense_names, ← sharing_aggregate, List.map_map]
  apply List.map_congr_left
  intro h hh
  have hkey : h.contentKey = key := by simpa using (List.mem_filter.1 hh).2
  rw [label, hkey]
  rfl

theorem labels_mem (hits : List Hit) (l : String × String) :
    l ∈ (aggregate hits).map label ↔ l ∈ hits.map label := by
  obtain ⟨key, name⟩ := l
  simp only [aggregate_labels, List.mem_flatMap, List.mem_eraseDups, List.mem_map, sharing,
    List.mem_filter, decide_eq_true_eq, label, Prod.mk.injEq]
  constructor
  · rintro ⟨_, -, _, ⟨h, ⟨hh, hkey⟩, hname⟩, rfl, rfl⟩
    exact ⟨h, hh, hkey, hname⟩
  · rintro ⟨h, hh, hkey, hname⟩
    exact ⟨key, ⟨h, hh, hkey⟩, name, ⟨h, ⟨hh, hkey⟩, hname⟩, rfl, rfl⟩

theorem labels_nodup (hits : List Hit) : ((aggregate hits).map label).Nodup := by
  rw [aggregate_labels, List.nodup_flatMap]
  constructor
  · intro key _
    exact (History.nodup_erase_dups _).map fun _ _ h => (Prod.mk.inj h).2
  · refine (History.nodup_erase_dups _).imp ?_
    intro key other hne l hl hother
    obtain ⟨name, -, rfl⟩ := List.mem_map.1 hl
    obtain ⟨_, -, hl⟩ := List.mem_map.1 hother
    exact hne (Prod.mk.inj hl).1.symm

theorem aggregate_first {hits : List Hit} {h : Hit} (hmem : h ∈ aggregate hits) :
    ∃ first, hits.find? (·.label = h.label) = some first ∧
      h = { first with sources := totalSources (sharing h.contentKey hits) } := by
  have hhere : h ∈ sharing h.contentKey (aggregate hits) := List.mem_filter.2 ⟨hmem, by simp⟩
  rw [sharing_aggregate, condense] at hhere
  obtain ⟨first, hfirst, hh⟩ := List.mem_map.1 hhere
  refine ⟨first, ?_, hh.symm⟩
  have hfind := first_named_find hfirst
  rw [sharing, List.find?_filter] at hfind
  have hname : first.name = h.name := hh ▸ rfl
  rw [← hfind]
  congr 1
  funext other
  simp [label, hname]

/-- The sources of all hits are those of the contents together. -/
theorem total_contents {keys : List String} (hnodup : keys.Nodup) {hits : List Hit}
    (hkeys : ∀ h ∈ hits, h.contentKey ∈ keys) :
    (keys.map fun key => totalSources (sharing key hits)).sum = totalSources hits := by
  induction hits with
  | nil => simp [sharing, totalSources]
  | cons h hits ih =>
    obtain ⟨hkey, hrest⟩ := List.forall_mem_cons.1 hkeys
    have hone (key : String) : totalSources (sharing key (h :: hits)) =
        (if key = h.contentKey then h.sources else 0) + totalSources (sharing key hits) := by
      by_cases hsame : key = h.contentKey
      · simp [sharing, hsame, total_cons]
      · simp [sharing, hsame, Ne.symm hsame]
    have hcount : (keys.map fun key => if key = h.contentKey then h.sources else 0).sum =
        h.sources := by
      rw [List.sum_map_ite_eq, List.count_eq_one_of_mem hnodup hkey]
      simp
    simp only [hone]
    rw [List.sum_map_add, hcount, ih hrest, total_cons]

theorem aggregate_shown {hits : List Hit} {key : String}
    (hkey : key ∈ (aggregate hits).map contentKey) :
    shownSources (aggregate hits) key = totalSources (sharing key hits) := by
  obtain ⟨h, hh, rfl⟩ := List.mem_map.1 hkey
  rw [shownSources]
  cases hfind : (aggregate hits).find? (·.contentKey = h.contentKey) with
  | none => exact absurd (List.find?_eq_none.1 hfind h hh) (by simp)
  | some shown =>
    have hsame : shown.contentKey = h.contentKey := by simpa using List.find?_some hfind
    rw [Option.map_some, Option.getD_some, aggregate_sources (List.mem_of_find?_eq_some hfind),
      hsame]

theorem aggregate_keys_mem (hits : List Hit) (key : String) :
    key ∈ (aggregate hits).map contentKey ↔ key ∈ hits.map contentKey := by
  have hfirst (hs : List Hit) : hs.map contentKey = (hs.map label).map (·.1) := by
    rw [List.map_map]
    rfl
  simp only [hfirst, List.mem_map (f := Prod.fst), labels_mem]

theorem aggregate_total (hits : List Hit) :
    (((aggregate hits).map contentKey).eraseDups.map (shownSources (aggregate hits))).sum =
      totalSources hits := by
  have hshown : ∀ key ∈ ((aggregate hits).map contentKey).eraseDups,
      shownSources (aggregate hits) key = totalSources (sharing key hits) :=
    fun key hkey => aggregate_shown (List.mem_eraseDups.1 hkey)
  rw [List.map_congr_left hshown]
  refine total_contents (History.nodup_erase_dups _) fun h hh => ?_
  exact List.mem_eraseDups.2 ((aggregate_keys_mem hits _).2 (List.mem_map_of_mem hh))

/-- Merging shows every name of every content once and in order, as its first hit, and counts
every source once. -/
theorem aggregate_merges (hits : List Hit) : Merges hits (aggregate hits) where
  distinct := labels_nodup hits
  complete := labels_mem hits
  first := fun _ => aggregate_first
  contents := aggregate_contents hits
  names := fun key => (congrArg _ (sharing_aggregate hits key)).trans (condense_names _)
  total := aggregate_total hits

def tally (h : Hit) : (String × String) × Int := (h.label, h.sources)

theorem aggregate_tallies (hits : List Hit) :
    (aggregate hits).map tally =
      ((aggregate hits).map label).map fun l => (l, totalSources (sharing l.1 hits)) := by
  rw [List.map_map]
  apply List.map_congr_left
  intro h hh
  rw [tally, aggregate_sources hh]
  rfl

section
variable {hits others : List Hit} (h : hits.Perm others)
include h

theorem sharing_perm (key : String) : (sharing key hits).Perm (sharing key others) := h.filter _

theorem labels_perm : ((aggregate hits).map label).Perm ((aggregate others).map label) := by
  rw [List.perm_ext_iff_of_nodup (labels_nodup hits) (labels_nodup others)]
  intro l
  rw [labels_mem, labels_mem, (h.map label).mem_iff]

/-- Merging shows the same contents, names and counts whatever the order of the hits is, and
other hits get the same counts from them. -/
theorem aggregate_permuted :
    ((aggregate hits).map tally).Perm ((aggregate others).map tally) ∧
    ∀ counted, withGroupSources counted hits = withGroupSources counted others := by
  have htotal (key : String) :
      totalSources (sharing key hits) = totalSources (sharing key others) :=
    total_perm (sharing_perm h key)
  constructor
  · rw [aggregate_tallies, aggregate_tallies]
    simp only [htotal]
    exact (labels_perm h).map _
  · intro counted
    have hnone (key : String) : sharing key hits = [] ↔ sharing key others = [] := by
      rw [← List.length_eq_zero_iff, (sharing_perm h key).length_eq, List.length_eq_zero_iff]
    rw [with_group_sources_total, with_group_sources_total]
    simp only [htotal, hnone]

end

def offers : List Hit :=
  [{ hash := "12", size := 3, name := "a", sources := 1 },
   { hash := "1", size := 23, name := "b", sources := 2 },
   { hash := "12", size := 3, name := "a", sources := -5, extra := [("rating", .int 4)] },
   { hash := "12", size := -3, sources := 7 }]

theorem offers_permuted :
    offers.Perm offers.reverse ∧
    ((aggregate offers).map tally).Perm ((aggregate offers.reverse).map tally) ∧
    ∀ counted, withGroupSources counted offers = withGroupSources counted offers.reverse :=
  have hperm : offers.Perm offers.reverse := (List.reverse_perm offers).symm
  ⟨hperm, aggregate_permuted hperm⟩

end FileSearch.Hit
