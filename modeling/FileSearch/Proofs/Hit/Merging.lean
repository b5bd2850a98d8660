import FileSearch.Hit.Sanitize
import FileSearch.Proofs.Hit.Grouping
import FileSearch.Proofs.History.Recounting

/-!
# Merged hits

Merging shows the first hit of each name of each content, in the order in which contents
and names come up, with the sum of sources over the content. Hits whose content and name
have come up before change the sums and nothing else.
-/

set_option autoImplicit false

namespace FileSearch.Hit

theorem insert_there {h : Hit} {keys : List String} (hnodup : keys.Nodup)
    (hmem : h.contentKey ∈ keys) (members : String → List Hit) :
    Groups.insert h (keys.map fun key => (key, members key)) =
      keys.map fun key =>
        (key, if key = h.contentKey then members key ++ [h] else members key) := by
  induction keys with
  | nil => cases hmem
  | cons key keys ih =>
    obtain ⟨hkey, hkeys⟩ := List.nodup_cons.1 hnodup
    rw [List.map_cons, Groups.insert, List.map_cons]
    by_cases hsame : key = h.contentKey
    · have hrest : ∀ other ∈ keys, (other, members other) =
          (other, if other = h.contentKey then members other ++ [h] else members other) := by
        intro other hother
        rw [if_neg]
        rintro rfl
        exact hkey (hsame ▸ hother)
      rw [if_pos hsame, if_pos hsame, List.map_congr_left hrest]
    · have hrest := (List.mem_cons.1 hmem).resolve_left (Ne.symm hsame)
      rw [if_neg hsame, if_neg hsame, ih hkeys hrest]

theorem insert_new {h : Hit} {keys : List String} (hmem : h.contentKey ∉ keys)
    (members : String → List Hit) :
    Groups.insert h (keys.map fun key => (key, members key)) =
      (keys.map fun key => (key, members key)) ++ [(h.contentKey, [h])] := by
  induction keys with
  | nil => rfl
  | cons key keys ih =>
    simp only [List.mem_cons, not_or] at hmem
    rw [List.map_cons, Groups.insert, if_neg (Ne.symm hmem.1), ih hmem.2, List.cons_append]

theorem sharing_append (key : String) (hits others : List Hit) :
    sharing key (hits ++ others) = sharing key hits ++ sharing key others :=
  List.filter_append ..

theorem group_eq (hits : List Hit) :
    group hits = (hits.map contentKey).eraseDups.map fun key => (key, sharing key hits) := by
  induction hits using List.reverseRecOn with
  | nil => rfl
  | append_singleton hits h ih =>
    have hmembers (key : String) : sharing key (hits ++ [h]) =
        if key = h.contentKey then sharing key hits ++ [h] else sharing key hits := by
      rw [sharing_append]
      by_cases hkey : key = h.contentKey
      · simp [sharing, hkey]
      · simp [sharing, hkey, Ne.symm hkey]
    have hgroup : group (hits ++ [h]) = Groups.insert h (group hits) := by
      rw [group, List.foldl_append]
      rfl
    rw [hgroup, ih, List.map_append, List.map_singleton, History.erase_dups_append]
    simp only [hmembers]
    by_cases hmem : h.contentKey ∈ hits.map contentKey
    · rw [if_pos hmem]
      exact insert_there (History.nodup_erase_dups _) (List.mem_eraseDups.2 hmem) _
    · have hnone : sharing h.contentKey hits = [] := by
        rw [sharing, List.filter_eq_nil_iff]
        intro other hother
        simp only [decide_eq_true_eq]
        intro hsame
        exact hmem (hsame ▸ List.mem_map_of_mem hother)
      have hkept : ∀ key ∈ (hits.map contentKey).eraseDups, (key, sharing key hits) =
          (key, if key = h.contentKey then sharing key hits ++ [h] else sharing key hits) := by
        intro key hkey
        rw [if_neg]
        rintro rfl
        exact hmem (List.mem_eraseDups.1 hkey)
      rw [if_neg hmem, insert_new (fun hin => hmem (List.mem_eraseDups.1 hin)), List.map_append,
        List.map_congr_left hkept, List.map_singleton, if_pos rfl, hnone, List.nil_append]

def distinct (hits : List Hit) : List Hit :=
  (hits.map contentKey).eraseDups.flatMap fun key => firstNamed [] (sharing key hits)

theorem first_named_mem {seen : List String} {hits : List Hit} {h : Hit}
    (hmem : h ∈ firstNamed seen hits) : h ∈ hits := by
  induction hits generalizing seen with
  | nil => cases hmem
  | cons first hits ih =>
    rw [firstNamed] at hmem
    split at hmem
    · exact List.mem_cons_of_mem _ (ih hmem)
    · rcases List.mem_cons.1 hmem with rfl | hmem
      · exact List.mem_cons_self
      · exact List.mem_cons_of_mem _ (ih hmem)

theorem aggregate_eq (hits : List Hit) :
    aggregate hits = (distinct hits).map fun h =>
      { h with sources := totalSources (sharing h.contentKey hits) } := by
  rw [aggregate, group_eq, List.flatMap_map, distinct, List.map_flatMap]
  apply List.flatMap_congr
  intro key _
  apply List.map_congr_left
  intro h hmem
  have hkey : h.contentKey = key := by
    simpa using (List.mem_filter.1 (first_named_mem hmem)).2
  rw [hkey]

theorem aggregate_sources {hits : List Hit} {h : Hit} (hmem : h ∈ aggregate hits) :
    h.sources = totalSources (sharing h.contentKey hits) := by
  rw [aggregate_eq] at hmem
  obtain ⟨shown, -, hshown⟩ := List.mem_map.1 hmem
  have hkey : h.contentKey = shown.contentKey := by
    rw [← hshown]
    rfl
  rw [hkey, ← hshown]

theorem first_named_seen {p : Hit → Bool} {seen : List String} {hits : List Hit}
    (h : ∀ hit ∈ hits, p hit = false → hit.name ∈ seen) :
    firstNamed seen (hits.filter p) = firstNamed seen hits := by
  induction hits generalizing seen with
  | nil => rfl
  | cons hit hits ih =>
    have hrest : ∀ other ∈ hits, p other = false → other.name ∈ seen :=
      fun other ho => h other (List.mem_cons_of_mem _ ho)
    by_cases hp : p hit = true
    · rw [List.filter_cons_of_pos hp, firstNamed, firstNamed, ih hrest]
      rw [ih fun other ho hno => List.mem_cons_of_mem _ (hrest other ho hno)]
    · have hname := h hit List.mem_cons_self (by simpa using hp)
      rw [List.filter_cons_of_neg hp, firstNamed, if_pos hname, ih hrest]

theorem first_named_fresh {p : Hit → Bool} {seen : List String} {earlier hits : List Hit}
    (h : ∀ hit ∈ hits, p hit = false → hit.name ∈ seen ∨ hit.name ∈ earlier.map (·.name)) :
    firstNamed seen (earlier ++ hits.filter p) = firstNamed seen (earlier ++ hits) := by
  induction earlier generalizing seen with
  | nil => exact first_named_seen fun hit hhit hno => by simpa using h hit hhit hno
  | cons first earlier ih =>
    rw [List.cons_append, List.cons_append, firstNamed, firstNamed]
    by_cases hseen : first.name ∈ seen
    · rw [if_pos hseen, if_pos hseen]
      apply ih
      intro hit hhit hno
      rcases h hit hhit hno with hin | hin
      · exact .inl hin
      · rcases List.mem_cons.1 hin with heq | hin
        · exact .inl (heq ▸ hseen)
        · exact .inr hin
    · rw [if_neg hseen, if_neg hseen]
      congr 1
      apply ih
      intro hit hhit hno
      rcases h hit hhit hno with hin | hin
      · exact .inl (List.mem_cons_of_mem _ hin)
      · rcases List.mem_cons.1 hin with heq | hin
        · exact .inl (heq ▸ List.mem_cons_self)
        · exact .inr hin

/-- Hits whose contents and names have come up before do not change what is shown. -/
theorem distinct_fresh {p : Hit → Bool} {earlier hits : List Hit}
    (h : ∀ hit ∈ hits, p hit = false →
      ∃ other ∈ earlier, other.contentKey = hit.contentKey ∧ other.name = hit.name) :
    distinct (earlier ++ hits.filter p) = distinct (earlier ++ hits) := by
  have hnew : ((hits.filter p).map contentKey).removeAll (earlier.map contentKey) =
      (hits.map contentKey).removeAll (earlier.map contentKey) := by
    rw [List.removeAll, List.removeAll, List.filter_map, List.filter_map, List.filter_filter]
    congr 1
    apply List.filter_congr
    intro hit hhit
    cases hp : p hit with
    | true => rw [Bool.and_true]
    | false =>
      obtain ⟨other, hother, hsame, -⟩ := h hit hhit hp
      have hthere : ∃ a ∈ earlier, a.contentKey = hit.contentKey := ⟨other, hother, hsame⟩
      simpa using hthere
  have hkeys : ((earlier ++ hits.filter p).map contentKey).eraseDups =
      ((earlier ++ hits).map contentKey).eraseDups := by
    rw [List.map_append, List.eraseDups_append, hnew, List.map_append, List.eraseDups_append]
  rw [distinct, distinct, hkeys]
  apply List.flatMap_congr
  intro key _
  rw [sharing_append, sharing_append, sharing, sharing, sharing, List.filter_comm]
  apply first_named_fresh
  intro hit hhit hno
  obtain ⟨hhit, hkey⟩ := List.mem_filter.1 hhit
  obtain ⟨other, hother, hsame, hname⟩ := h hit hhit hno
  right
  rw [← hname]
  refine List.mem_map_of_mem (List.mem_filter.2 ⟨hother, ?_⟩)
  rw [hsame]
  exact hkey

/-- Where the same hits are shown, merging differs in the sums only. -/
theorem aggregate_again {hits later : List Hit} (h : distinct later = distinct hits) :
    aggregate later = (aggregate hits).map fun hit =>
      { hit with sources := totalSources (sharing hit.contentKey later) } := by
  rw [aggregate_eq, aggregate_eq, h, List.map_map]
  rfl

theorem total_cons (h : Hit) (hits : List Hit) :
    totalSources (h :: hits) = h.sources + totalSources hits := rfl

theorem total_append (hits others : List Hit) :
    totalSources (hits ++ others) = totalSources hits + totalSources others := by
  induction hits with
  | nil => exact (Int.zero_add _).symm
  | cons h hits ih => rw [List.cons_append, total_cons, total_cons, ih, Int.add_assoc]

theorem total_perm {hits others : List Hit} (h : hits.Perm others) :
    totalSources hits = totalSources others := by
  induction h with
  | nil => rfl
  | cons h _ ih => rw [total_cons, total_cons, ih]
  | swap a b hits =>
    rw [total_cons, total_cons, total_cons, total_cons]
    omega
  | trans _ _ ih ih' => exact ih.trans ih'

theorem total_constant {hits : List Hit} {n : Int} (h : ∀ hit ∈ hits, hit.sources = n) :
    totalSources hits = hits.length * n := by
  induction hits with
  | nil => simp [totalSources]
  | cons first hits ih =>
    have hrest := ih fun hit hhit => h hit (List.mem_cons_of_mem _ hhit)
    rw [total_cons, h first List.mem_cons_self, hrest, List.length_cons, Int.natCast_succ,
      Int.add_mul, Int.one_mul, Int.add_comm]

def passedName (sanitizes : Bool) (name : String) : String :=
  if sanitizes then safeName name else name

def named (sanitizes : Bool) (h : Hit) : Hit := { h with name := passedName sanitizes h.name }

theorem safe_char_safe (c : Char) : safeChar (safeChar c) = safeChar c := by
  by_cases hc : isSafe c = true
  · rw [show safeChar c = c from if_pos hc, show safeChar c = c from if_pos hc]
  · rw [show safeChar c = '.' from if_neg hc]
    rfl

theorem safe_name_safe (name : String) : safeName (safeName name) = safeName name := by
  rw [safeName, safeName, String.map_map]
  congr 1
  exact funext safe_char_safe

section
variable (sanitizes : Bool)

theorem passed_name_passed (name : String) :
    passedName sanitizes (passedName sanitizes name) = passedName sanitizes name := by
  cases sanitizes with
  | false => rfl
  | true => exact safe_name_safe name

theorem named_map (hits : List Hit) :
    (if sanitizes then hits.map sanitize else hits) = hits.map (named sanitizes) := by
  cases sanitizes with
  | false => exact (List.map_id' hits).symm
  | true => rfl

theorem total_named (hits : List Hit) :
    totalSources (hits.map (named sanitizes)) = totalSources hits := by
  rw [totalSources, totalSources, List.map_map]
  rfl

end

end FileSearch.Hit
