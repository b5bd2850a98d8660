import FileSearch.Proofs.History.Overwriting
import FileSearch.Proofs.Hit.Merging

/-!
# Hits that come back

Hits that have been remembered are found again by the next search, each key once and with
the count it was remembered with. What else the history holds is found as before.
-/

set_option autoImplicit false

namespace FileSearch.History

def Key.content (k : Key) : String := k.hash ++ toString k.size

def keysOf (hits : List Hit) : List Key := hits.map fun h => (Sighting.ofHit h).key

def counted (f : String → Int) (hits : List Hit) : List Hit :=
  hits.map fun h => { h with sources := f h.contentKey }

section
variable (query : String) (extension : Option String)

def Key.passes (k : Key) : Bool := Query.hasExtension k.name extension && Query.keeps query k.name

def recalled (sanitizes : Bool) (rows : List Row) : List Hit :=
  (select query extension rows).map (Hit.named sanitizes)

def remaining (hits : List Hit) (rows : List Row) : List Hit :=
  (rows.filter fun row => row.key.passes query extension && row.key ∉ keysOf hits).map Row.toHit

def returning (hits : List Hit) : List Key :=
  (keysOf hits).eraseDups.filter (Key.passes query extension)

end

theorem counted_keys (f : String → Int) (hits : List Hit) :
    ((counted f hits).map Sighting.ofHit).map (·.key) = keysOf hits := by
  rw [counted, List.map_map, List.map_map]
  rfl

theorem counted_sources (f : String → Int) (hits : List Hit) :
    ∀ s ∈ (counted f hits).map Sighting.ofHit, s.sources = f s.key.content := by
  intro s hs
  obtain ⟨hit, hhit, rfl⟩ := List.mem_map.1 hs
  obtain ⟨h, -, rfl⟩ := List.mem_map.1 hhit
  rfl

section
variable (query : String) (extension : Option String) (sanitizes : Bool)

theorem recalled_eq (rows : List Row) :
    recalled query extension sanitizes rows =
      ((byRecency rows).filter fun row => row.key.passes query extension).map fun row =>
        row.toHit.named sanitizes := by
  rw [recalled, select, List.map_map]
  rfl

theorem recalled_apart {p : Hit → Bool} {q : Key → Bool} {batch : List Sighting}
    (hrow : ∀ row : Row, p (row.toHit.named sanitizes) = q row.key)
    (hbatch : ∀ s ∈ batch, q s.key = false) (now : Int) (rows : List Row) :
    (recalled query extension sanitizes (recordAll now batch rows).1).filter p =
      (recalled query extension sanitizes rows).filter p := by
  have hfound (rows : List Row) : (recalled query extension sanitizes rows).filter p =
      (byRecency (rows.filter fun row =>
        q row.key && row.key.passes query extension)).map fun row =>
          row.toHit.named sanitizes := by
    rw [recalled_eq, List.filter_map, List.filter_filter, ← by_recency_filter]
    congr 2
    funext row
    rw [Function.comp_apply, hrow]
  have hapart : ∀ s ∈ batch, (q s.key && s.key.passes query extension) = false := by
    intro s hs
    rw [hbatch s hs, Bool.false_and]
  have hrows := record_filter now (p := fun key => q key && key.passes query extension)
    hapart rows
  rw [hfound, hfound, hrows]

/-- Hits that are remembered under the names that a search passes on show nothing new when
they come back: each of them stands for itself already. -/
theorem recalled_distinct {hits : List Hit}
    (hnames : ∀ h ∈ hits, Hit.passedName sanitizes h.name = h.name) (f : String → Int) (now : Int)
    (rows : List Row) :
    Hit.distinct (hits ++ recalled query extension sanitizes
        (recordAll now ((counted f hits).map Sighting.ofHit) rows).1) =
      Hit.distinct (hits ++ recalled query extension sanitizes rows) := by
  let fresh : Hit → Bool := fun hit =>
    !hits.any fun other => other.contentKey = hit.contentKey && other.name = hit.name
  let shown : Key → Bool := fun key =>
    !hits.any fun other => other.contentKey = key.content &&
      other.name = Hit.passedName sanitizes key.name
  have hcovered (others : List Hit) : ∀ hit ∈ others, fresh hit = false →
      ∃ other ∈ hits, other.contentKey = hit.contentKey ∧ other.name = hit.name := by
    intro hit _ hold
    simpa [fresh] using hold
  have hbatch : ∀ s ∈ (counted f hits).map Sighting.ofHit, shown s.key = false := by
    intro s hs
    obtain ⟨hit, hhit, rfl⟩ := List.mem_map.1 hs
    obtain ⟨h, hh, rfl⟩ := List.mem_map.1 hhit
    have hthere : (hits.any fun other => other.contentKey = h.contentKey &&
        other.name = Hit.passedName sanitizes h.name) = true := by
      rw [List.any_eq_true]
      exact ⟨h, hh, by simp [hnames h hh]⟩
    exact congrArg Bool.not hthere
  have hkept := recalled_apart query extension sanitizes (p := fresh) (q := shown) (fun _ => rfl)
    hbatch now rows
  rw [← Hit.distinct_fresh (hcovered _), hkept, Hit.distinct_fresh (hcovered _)]

theorem recalled_total (content : String) (rows : List Row) :
    Hit.totalSources (Hit.sharing content (recalled query extension sanitizes rows)) =
      Hit.totalSources ((rows.filter fun row =>
        row.key.content = content && row.key.passes query extension).map Row.toHit) := by
  have hsharing : Hit.sharing content (recalled query extension sanitizes rows) =
      (((byRecency rows).filter fun row =>
        row.key.content = content && row.key.passes query extension).map Row.toHit).map
          (Hit.named sanitizes) := by
    rw [recalled_eq, Hit.sharing, List.filter_map, List.filter_filter, List.map_map]
    rfl
  rw [hsharing, Hit.total_named]
  exact Hit.total_perm (((by_recency_perm rows).filter _).map Row.toHit)

theorem remaining_total (content : String) (hits : List Hit) (rows : List Row) :
    Hit.totalSources (Hit.sharing content (remaining query extension hits rows)) =
      Hit.totalSources ((rows.filter fun row =>
        row.key.content = content && row.key.passes query extension &&
          row.key ∉ keysOf hits).map Row.toHit) := by
  rw [remaining, Hit.sharing, List.filter_map, List.filter_filter]
  simp only [Bool.and_assoc]
  rfl

theorem total_split (p q : Row → Bool) (rows : List Row) :
    Hit.totalSources ((rows.filter q).map Row.toHit) =
      Hit.totalSources ((rows.filter fun row => q row && !p row).map Row.toHit) +
        Hit.totalSources ((rows.filter fun row => q row && p row).map Row.toHit) := by
  have hperm := (List.filter_append_perm p (rows.filter q)).map Row.toHit
  rw [← Hit.total_perm hperm, List.map_append, Hit.total_append, Int.add_comm,
    List.filter_filter, List.filter_filter]
  simp only [Bool.and_comm]

/-- Of a table without repetitions that has all keys of the hits, as many rows have one of
these keys as there are different ones. -/
theorem written_length {hits : List Hit} {later : List Row} (q : Key → Bool)
    (hnodup : (later.map (·.key)).Nodup)
    (hthere : ∀ key ∈ keysOf hits, key ∈ later.map (·.key)) :
    (later.filter fun row => q row.key && decide (row.key ∈ keysOf hits)).length =
      ((keysOf hits).eraseDups.filter q).length := by
  have hkeys : (later.filter fun row => q row.key && decide (row.key ∈ keysOf hits)).map (·.key) =
      (later.map (·.key)).filter fun key => q key && decide (key ∈ keysOf hits) := by
    rw [List.filter_map]
    rfl
  have hperm : ((later.map (·.key)).filter fun key => q key && decide (key ∈ keysOf hits)).Perm
      ((keysOf hits).eraseDups.filter q) := by
    rw [List.perm_ext_iff_of_nodup (hnodup.filter _) ((nodup_erase_dups _).filter _)]
    intro key
    simp only [List.mem_filter, Bool.and_eq_true, decide_eq_true_eq, List.mem_eraseDups]
    constructor
    · rintro ⟨-, hq, hkey⟩
      exact ⟨hkey, hq⟩
    · rintro ⟨hkey, hq⟩
      exact ⟨hthere key hkey, hq, hkey⟩
  rw [← List.length_map (·.key), hkeys]
  exact hperm.length_eq

section
variable (now : Int) (q : Key → Bool)

theorem left_rows (f : String → Int) (hits : List Hit) (rows : List Row) :
    ((recordAll now ((counted f hits).map Sighting.ofHit) rows).1.filter fun row =>
        q row.key && decide (row.key ∉ keysOf hits)) =
      rows.filter fun row => q row.key && decide (row.key ∉ keysOf hits) := by
  refine record_filter now (p := fun key => q key && decide (key ∉ keysOf hits)) ?_ rows
  intro s hs
  have hin : s.key ∈ keysOf hits := counted_keys f hits ▸ List.mem_map_of_mem hs
  simp [hin]

/-- After hits are remembered, the rows of one content that have their keys add up to the
count of the content, once for each of these keys. -/
theorem written_total {f : String → Int} {hits : List Hit} {rows : List Row} {content : String}
    (hnodup : (rows.map (·.key)).Nodup)
    (hq : ∀ key, q key = true → key.content = content)
    (hfits : ((counted f hits).map Sighting.ofHit).all Sighting.fits = true) :
    Hit.totalSources (((recordAll now ((counted f hits).map Sighting.ofHit) rows).1.filter
        fun row => q row.key && decide (row.key ∈ keysOf hits)).map Row.toHit) =
      ((keysOf hits).eraseDups.filter q).length * f content := by
  have hlength := written_length q (record_nodup hnodup now _) fun key hkey =>
    (record_keys hfits now rows key).2 (.inr (counted_keys f hits ▸ hkey))
  have hcount : ∀ hit ∈ ((recordAll now ((counted f hits).map Sighting.ofHit) rows).1.filter
      fun row => q row.key && decide (row.key ∈ keysOf hits)).map Row.toHit,
      hit.sources = f content := by
    intro hit hhit
    obtain ⟨row, hrow, rfl⟩ := List.mem_map.1 hhit
    obtain ⟨hrow, hboth⟩ := List.mem_filter.1 hrow
    obtain ⟨hcontent, hkey⟩ := Bool.and_eq_true_iff.1 hboth
    have hkey : row.key ∈ ((counted f hits).map Sighting.ofHit).map (·.key) :=
      (counted_keys f hits).symm ▸ of_decide_eq_true hkey
    rw [← hq row.key hcontent]
    exact record_sources (f := fun key => f key.content) hnodup hfits (counted_sources f hits)
      hrow hkey
  rw [Hit.total_constant hcount, List.length_map, hlength]

end

/-- A content that was remembered is found again with what remains of it, and once more for
each of its keys that comes back. -/
theorem recalled_recount {f : String → Int} {hits : List Hit} {rows : List Row}
    (hnodup : (rows.map (·.key)).Nodup) (now : Int) (content : String)
    (hfits : ((counted f hits).map Sighting.ofHit).all Sighting.fits = true) :
    Hit.totalSources (Hit.sharing content (recalled query extension sanitizes
        (recordAll now ((counted f hits).map Sighting.ofHit) rows).1)) =
      Hit.totalSources (Hit.sharing content (remaining query extension hits rows)) +
        ((returning query extension hits).filter (·.content = content)).length * f content := by
  let q : Key → Bool := fun key => key.content = content && key.passes query extension
  have hq : ∀ key, q key = true → key.content = content := by
    intro key hkey
    exact of_decide_eq_true (Bool.and_eq_true_iff.1 hkey).1
  have hsplit := total_split (fun row => decide (row.key ∈ keysOf hits)) (fun row => q row.key)
    (recordAll now ((counted f hits).map Sighting.ofHit) rows).1
  simp only [← decide_not, left_rows, written_total now q hnodup hq hfits] at hsplit
  rw [recalled_total, remaining_total, hsplit, returning, List.filter_filter]

end

end FileSearch.History
