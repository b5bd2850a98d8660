import FileSearch.Proofs.Hit.Listing
import FileSearch.Proofs.Json.Scalars
import Mathlib.Data.List.Induction

/-!
# Contents and their keys

A content is a hash and a size. Its key does not say where the hash ends, so two contents can
share a key, as size 3 of hash `12` and size 23 of hash `1` do. Where all hashes have one length
they cannot: hits are then merged, and counts are summed, by hash and size.
-/

set_option autoImplicit false

namespace FileSearch.Hit

def content (h : Hit) : String × Int := (h.hash, h.size)

theorem content_eq_iff (a b : Hit) : a.content = b.content ↔ a.hash = b.hash ∧ a.size = b.size :=
  Prod.ext_iff

/-- Behind hashes of one length, a key is only that of one content. -/
theorem content_key_iff {a b : Hit} (h : a.hash.length = b.hash.length) :
    a.contentKey = b.contentKey ↔ a.content = b.content := by
  rw [content_eq_iff]
  constructor
  · intro hkey
    rw [contentKey, contentKey, ← String.toList_inj, String.toList_append,
      String.toList_append] at hkey
    obtain ⟨hhash, hsize⟩ := List.append_inj hkey h
    exact ⟨String.toList_inj.1 hhash, Json.int_injective (String.toList_inj.1 hsize)⟩
  · rintro ⟨hhash, hsize⟩
    rw [contentKey, contentKey, hhash, hsize]

def offered (members : List Hit) : List Hit :=
  (members.map (·.name)).eraseDups.filterMap fun name =>
    (members.find? (·.name = name)).map fun first =>
      { first with sources := (members.map (·.sources)).sum }

theorem first_named_eq (members : List Hit) :
    firstNamed [] members = (members.map (·.name)).eraseDups.filterMap fun name =>
      members.find? (·.name = name) := by
  rw [← first_named_all, List.filterMap_map]
  exact ((List.filterMap_congr fun h hh => first_named_find hh).trans List.filterMap_some).symm

theorem condense_eq_offered (members : List Hit) : condense members = offered members := by
  rw [condense, first_named_eq, List.map_filterMap]
  rfl

section
variable {κ : Type} [DecidableEq κ] (key : Hit → κ)

def mergedBy (hits : List Hit) : List Hit :=
  (hits.map key).eraseDups.flatMap fun k => offered (hits.filter (key · = k))

def countedBy (hits others : List Hit) : List Hit :=
  hits.map fun h =>
    let members := others.filter (key · = key h)
    if members = [] then h else { h with sources := (members.map (·.sources)).sum }

end

theorem aggregate_eq_merged (hits : List Hit) : aggregate hits = mergedBy contentKey hits := by
  rw [aggregate, group_eq, List.flatMap_map, mergedBy]
  exact List.flatMap_congr fun key _ => condense_eq_offered _

theorem with_group_sources_eq_counted (hits others : List Hit) :
    withGroupSources hits others = countedBy contentKey hits others :=
  with_group_sources_total hits others

section
variable {κ ι : Type} [DecidableEq κ] [DecidableEq ι] {key : Hit → κ} {other : Hit → ι}
  {hits others : List Hit}

theorem flat_map_keys (h : ∀ a ∈ hits, ∀ b ∈ hits, key a = key b ↔ other a = other b)
    {shown : κ → List Hit} {shown' : ι → List Hit}
    (hshown : ∀ a ∈ hits, shown (key a) = shown' (other a)) :
    (hits.map key).eraseDups.flatMap shown = (hits.map other).eraseDups.flatMap shown' := by
  induction hits using List.reverseRecOn with
  | nil => rfl
  | append_singleton hits last ih =>
    have hearlier := ih
      (fun a ha b hb => h a (List.mem_append_left _ ha) b (List.mem_append_left _ hb))
      (fun a ha => hshown a (List.mem_append_left _ ha))
    have hlast : last ∈ hits ++ [last] := List.mem_append_right _ List.mem_cons_self
    -- The last hit comes with a new key on both sides or on none.
    have hthere : key last ∈ hits.map key ↔ other last ∈ hits.map other := by
      simp only [List.mem_map]
      exact exists_congr fun a => and_congr_right fun ha =>
        h a (List.mem_append_left _ ha) last hlast
    simp only [List.map_append, List.map_singleton, History.erase_dups_append, hthere]
    split
    · exact hearlier
    · rw [List.flatMap_append, List.flatMap_append, hearlier, List.flatMap_singleton,
        List.flatMap_singleton, hshown last hlast]

theorem merged_by_congr (h : ∀ a ∈ hits, ∀ b ∈ hits, key a = key b ↔ other a = other b) :
    mergedBy key hits = mergedBy other hits := by
  refine flat_map_keys h fun a ha => congrArg offered (List.filter_congr fun b hb => ?_)
  rw [decide_eq_decide, h b hb a ha]

theorem counted_by_congr (h : ∀ a ∈ hits, ∀ b ∈ others, key b = key a ↔ other b = other a) :
    countedBy key hits others = countedBy other hits others := by
  apply List.map_congr_left
  intro a ha
  have hmembers : others.filter (key · = key a) = others.filter (other · = other a) :=
    List.filter_congr fun b hb => by rw [decide_eq_decide, h a ha b hb]
  rw [hmembers]

end

/-- Among hits whose hashes have one length, a key is that of one content. Merging is then merging
by content, and the counts of any other such hits are summed by content. -/
theorem uniform_hashes {length : Nat} {hits : List Hit}
    (h : ∀ hit ∈ hits, hit.hash.length = length) :
    (∀ a ∈ hits, ∀ b ∈ hits, a.contentKey = b.contentKey ↔ a.hash = b.hash ∧ a.size = b.size) ∧
    aggregate hits = mergedBy content hits ∧
    ∀ others : List Hit, (∀ hit ∈ others, hit.hash.length = length) →
      withGroupSources hits others = countedBy content hits others := by
  have hkeys : ∀ {others : List Hit}, (∀ hit ∈ others, hit.hash.length = length) →
      ∀ a ∈ hits, ∀ b ∈ others, b.contentKey = a.contentKey ↔ b.content = a.content :=
    fun hothers a ha b hb => content_key_iff ((hothers b hb).trans (h a ha).symm)
  refine ⟨fun a ha b hb => ?_, ?_, fun others hothers => ?_⟩
  · rw [hkeys h b hb a ha, content_eq_iff]
  · rw [aggregate_eq_merged]
    exact merged_by_congr fun a ha b hb => hkeys h b hb a ha
  · rw [with_group_sources_eq_counted]
    exact counted_by_congr (hkeys hothers)

def pairs : List Hit :=
  [{ hash := "12", size := 3, name := "a", sources := 1 },
   { hash := "1-", size := 23, name := "b", sources := 2 },
   { hash := "12", size := -3, name := "a", sources := 3 },
   { hash := "12", size := 3, name := "c", sources := 4 }]

theorem pairs_uniform :
    (∀ hit ∈ pairs, hit.hash.length = 2) ∧
    (∀ hit ∈ pairs.tail, hit.hash.length = 2) ∧
    (∀ a ∈ pairs, ∀ b ∈ pairs, a.contentKey = b.contentKey ↔ a.hash = b.hash ∧ a.size = b.size) ∧
    aggregate pairs = mergedBy content pairs ∧
    withGroupSources pairs pairs.tail = countedBy content pairs pairs.tail := by
  have hpairs : ∀ hit ∈ pairs, hit.hash.length = 2 := by decide
  have htail : ∀ hit ∈ pairs.tail, hit.hash.length = 2 := by decide
  obtain ⟨hkeys, hmerged, hcounted⟩ := uniform_hashes hpairs
  exact ⟨hpairs, htail, hkeys, hmerged, hcounted pairs.tail htail⟩

-- With hashes of several lengths, two contents can share a key.
example : contentKey { hash := "12", size := 3 } = contentKey { hash := "1", size := 23 } := by
  decide +kernel

end FileSearch.Hit
