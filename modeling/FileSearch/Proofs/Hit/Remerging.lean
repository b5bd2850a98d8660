import FileSearch.Proofs.Hit.Listing
import Mathlib.Logic.Function.Iterate

/-!
# Merging again

Merging a merged list once more shows the same hits in the same order. Only the counts change:
each hit of a content has the sources of the whole content by then, and these are summed again.
So every further merge multiplies the counts of a content by the number of its names.
-/

set_option autoImplicit false

namespace FileSearch.Hit

def nameCount (key : String) (hits : List Hit) : Nat :=
  ((sharing key hits).map (·.name)).eraseDups.length

section
variable {f : Hit → Hit} (hf : ∀ h, (f h).label = h.label)
include hf

theorem sharing_map (key : String) (hits : List Hit) :
    sharing key (hits.map f) = (sharing key hits).map f := by
  have hkey (h : Hit) : (f h).contentKey = h.contentKey := (Prod.mk.inj (hf h)).1
  rw [sharing, List.filter_map, sharing]
  congr 1
  exact List.filter_congr fun h _ => by simp [hkey]

theorem first_named_map (seen : List String) (hits : List Hit) :
    firstNamed seen (hits.map f) = (firstNamed seen hits).map f := by
  have hname (h : Hit) : (f h).name = h.name := (Prod.mk.inj (hf h)).2
  induction hits generalizing seen with
  | nil => rfl
  | cons h hits ih =>
    rw [List.map_cons, firstNamed, firstNamed, hname, ih, ih]
    split
    · rfl
    · rw [List.map_cons]

theorem distinct_map (hits : List Hit) : distinct (hits.map f) = (distinct hits).map f := by
  have hkeys : (hits.map f).map contentKey = hits.map contentKey := by
    rw [List.map_map]
    exact List.map_congr_left fun h _ => (Prod.mk.inj (hf h)).1
  rw [distinct, distinct, hkeys, List.map_flatMap]
  apply List.flatMap_congr
  intro key _
  rw [sharing_map hf, first_named_map hf]

end

theorem first_named_nodup {seen : List String} {hits : List Hit}
    (hnodup : (hits.map (·.name)).Nodup) (hnew : ∀ h ∈ hits, h.name ∉ seen) :
    firstNamed seen hits = hits := by
  induction hits generalizing seen with
  | nil => rfl
  | cons h hits ih =>
    obtain ⟨hname, hrest⟩ := List.nodup_cons.1 hnodup
    obtain ⟨hfirst, hlater⟩ := List.forall_mem_cons.1 hnew
    have hfresh : ∀ other ∈ hits, other.name ∉ h.name :: seen := by
      intro other hother hseen
      rcases List.mem_cons.1 hseen with hsame | hseen
      · exact hname (List.mem_map.2 ⟨other, hother, hsame⟩)
      · exact hlater other hother hseen
    rw [firstNamed, if_neg hfirst, ih hrest hfresh]

theorem erase_dups_constant {key : String} {keys : List String} (hne : keys ≠ [])
    (h : ∀ other ∈ keys, other = key) : keys.eraseDups = [key] := by
  obtain ⟨first, rest, rfl⟩ := List.exists_cons_of_ne_nil hne
  obtain ⟨rfl, hrest⟩ := List.forall_mem_cons.1 h
  have hnone : rest.filter (fun other => !other == first) = [] := by
    rw [List.filter_eq_nil_iff]
    intro other hother
    simp [hrest other hother]
  rw [List.eraseDups_cons, hnone]
  rfl

/-- Keys that come up in blocks come up in the order of the blocks. -/
theorem erase_dups_blocks {block : String → List String} {keys : List String}
    (hnodup : keys.Nodup) (hblock : ∀ key ∈ keys, (block key).eraseDups = [key]) :
    (keys.flatMap block).eraseDups = keys := by
  induction keys using List.reverseRecOn with
  | nil => rfl
  | append_singleton keys key ih =>
    obtain ⟨hkeys, -, hnew⟩ := List.nodup_append.1 hnodup
    have hearlier := ih hkeys fun other hother => hblock other (List.mem_append_left _ hother)
    have hlast := hblock key (List.mem_append_right _ List.mem_cons_self)
    -- None of the earlier blocks brings up the key of the last one.
    have hapart : (block key).removeAll (keys.flatMap block) = block key := by
      rw [List.removeAll, List.filter_eq_self]
      intro other hother
      rw [← List.mem_eraseDups, hlast, List.mem_singleton] at hother
      have hfresh : key ∉ keys.flatMap block := by
        rw [← List.mem_eraseDups, hearlier]
        exact fun hin => hnew key hin key List.mem_cons_self rfl
      simpa [hother] using hfresh
    rw [List.flatMap_append, List.eraseDups_append, hearlier, List.flatMap_singleton, hapart, hlast]

theorem aggregate_keys (hits : List Hit) :
    ((aggregate hits).map contentKey).eraseDups = (hits.map contentKey).eraseDups := by
  conv_lhs => rw [aggregate_contents, List.map_flatMap]
  refine erase_dups_blocks (History.nodup_erase_dups _) fun key hkey => ?_
  rw [List.mem_eraseDups, ← aggregate_keys_mem] at hkey
  obtain ⟨h, hh, rfl⟩ := List.mem_map.1 hkey
  have hhere : h ∈ sharing h.contentKey (aggregate hits) := List.mem_filter.2 ⟨hh, by simp⟩
  refine erase_dups_constant (List.ne_nil_of_mem (List.mem_map_of_mem hhere)) ?_
  intro key hkey
  obtain ⟨other, hother, rfl⟩ := List.mem_map.1 hkey
  simpa using (List.mem_filter.1 hother).2

theorem distinct_aggregate (hits : List Hit) : distinct (aggregate hits) = aggregate hits := by
  conv_rhs => rw [aggregate_contents]
  rw [distinct, aggregate_keys]
  apply List.flatMap_congr
  intro key _
  refine first_named_nodup ?_ (by simp)
  rw [sharing_aggregate, condense_names]
  exact History.nodup_erase_dups _

def scale (factor : String → Int) (h : Hit) : Hit :=
  { h with sources := h.sources * factor h.contentKey }

section
variable (factor other : String → Int) (h : Hit)

theorem scale_label : (scale factor h).label = h.label := rfl

theorem scale_sources : (scale factor h).sources = h.sources * factor h.contentKey := rfl

theorem scale_one : scale (fun _ => 1) h = h := by
  rw [scale, Int.mul_one]

theorem scale_scale :
    scale other (scale factor h) = scale (fun key => factor key * other key) h := by
  have hcount := Int.mul_assoc h.sources (factor h.contentKey) (other h.contentKey)
  exact congrArg (fun count => { h with sources := count }) hcount

end

structure Settled (hits : List Hit) : Prop where
  shown : distinct hits = hits
  even : ∀ h ∈ hits, ∀ other ∈ hits, other.contentKey = h.contentKey → other.sources = h.sources

theorem aggregate_settled (hits : List Hit) : Settled (aggregate hits) where
  shown := distinct_aggregate hits
  even := by
    intro h hh other hother hkey
    rw [aggregate_sources hh, aggregate_sources hother, hkey]

section
variable {hits : List Hit}

theorem scale_settled (h : Settled hits) (factor : String → Int) :
    Settled (hits.map (scale factor)) where
  shown := by rw [distinct_map (scale_label factor), h.shown]
  even := by
    rintro _ hfirst _ hsecond hkey
    obtain ⟨a, ha, rfl⟩ := List.mem_map.1 hfirst
    obtain ⟨b, hb, rfl⟩ := List.mem_map.1 hsecond
    have hsame : b.contentKey = a.contentKey := hkey
    rw [scale_sources, scale_sources, h.even a ha b hb hsame, hsame]

/-- One merge multiplies the counts of a content by the number of its hits. -/
theorem settled_step (h : Settled hits) :
    aggregate hits = hits.map (scale fun key => (sharing key hits).length) := by
  rw [aggregate_eq, h.shown]
  apply List.map_congr_left
  intro hit hhit
  have hsum : totalSources (sharing hit.contentKey hits) =
      (sharing hit.contentKey hits).length * hit.sources := by
    refine total_constant fun other hother => ?_
    obtain ⟨hother, hkey⟩ := List.mem_filter.1 hother
    exact h.even hit hhit other hother (by simpa using hkey)
  rw [hsum, Int.mul_comm, scale]

/-- By induction on the number of merges: each of them leaves a list that is settled as the first
one was, with as many hits of each content. -/
theorem settled_run (h : Settled hits) (n : Nat) :
    aggregate^[n] hits = hits.map (scale fun key => (sharing key hits).length ^ n) := by
  induction n with
  | zero =>
    simp only [pow_zero]
    exact (List.map_id'' scale_one hits).symm
  | succ n ih =>
    rw [Function.iterate_succ_apply', ih, settled_step (scale_settled h _), List.map_map]
    apply List.map_congr_left
    intro hit _
    simp only [Function.comp_apply, scale_scale, sharing_map (scale_label _), List.length_map,
      pow_succ]

end

/-- Merging any number of times more shows the same hits in the same order. Each time the counts
of a content are multiplied by the number of its names. -/
theorem aggregate_repeated (hits : List Hit) (n : Nat) :
    aggregate^[n + 1] hits = (aggregate hits).map fun h =>
      { h with sources := h.sources * nameCount h.contentKey hits ^ n } := by
  have hcount (key : String) : (sharing key (aggregate hits)).length = nameCount key hits := by
    rw [nameCount, ← condense_names, sharing_aggregate, List.length_map]
  rw [Function.iterate_succ_apply, settled_run (aggregate_settled hits)]
  simp only [hcount]
  rfl

-- A content with two names has its count doubled by the second merge.
example : (aggregate^[2] [{ hash := "h", size := 1, name := "a", sources := 2 },
    { hash := "h", size := 1, name := "a", sources := 3 },
    { hash := "h", size := 1, name := "b", sources := 1 },
    { hash := "k", size := 5, name := "c", sources := 7 }]).map (·.sources) = [12, 12, 7] := by
  decide +kernel

end FileSearch.Hit
