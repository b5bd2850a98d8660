import FileSearch.Proofs.Hit.Records
import FileSearch.Proofs.Hit.Documents
import Mathlib.Data.List.MinMax

/-!
# Lists of plain records

Each record of a list may be read on its own, and may have any further fields. The list is read
as the same hits exactly if no record has a further field that marks a block: a record that has
one is never seen itself, and no record within a block can stand in for it, since what such a
record holds is smaller than the block.
-/

set_option autoImplicit false

namespace FileSearch.Hit

section
variable {fields : Json.Fields} {name : String} {record held : Json} {h : Hit}

theorem get_further (hname : isCore name = false) :
    Json.Fields.get? (fields.filter (!isCore ·.1)) name = fields.get? name := by
  induction fields with
  | nil => rfl
  | cons field fields ih =>
    obtain ⟨other, value⟩ := field
    simp only [Json.Fields.get?] at ih
    by_cases hsame : name = other
    · subst hsame
      simp [Json.Fields.get?, hname]
    · have hother : (name == other) = false := beq_eq_false_iff_ne.2 hsame
      cases hcore : isCore other <;>
        simp [Json.Fields.get?, List.lookup_cons, hcore, hother, ih]

theorem held_further (hread : ofJson record = .ok h) : held? record = h.extra.get? "hits" := by
  obtain ⟨fields, rfl, hspells⟩ := of_json_iff.1 hread
  rw [hspells.extra, get_further (by decide)]
  rfl

theorem held_smaller (hheld : held? record = some held) : sizeOf held < sizeOf record := by
  cases record with
  | object fields =>
    obtain ⟨before, after, hfields, -⟩ := List.lookup_eq_some_iff.1 hheld
    have hmem : ("hits", held) ∈ fields := by
      rw [hfields]
      exact List.mem_append_right before List.mem_cons_self
    have hfield := List.sizeOf_lt_of_mem hmem
    rw [Prod.mk.sizeOf_spec] at hfield
    rw [Json.object.sizeOf_spec]
    omega
  | _ => cases hheld

end

section
variable {location : String} {records : List Json} {hits : List Hit}

theorem plain_read (hreads : records.map ofJson = hits.map .ok)
    (hplain : ∀ record ∈ records, held? record = none) :
    readDocument location (.list records) = .ok hits := by
  have hrecords : records.flatMap recordsOf = records := by
    rw [List.flatMap_congr fun record hrecord => records_plain (hplain record hrecord),
      List.flatMap_singleton']
  refine document_ok.2 ⟨records, rfl, fun record hrecord => ?_, by rw [hrecords, hreads]⟩
  exact .plain (hplain record hrecord) (readings_iff.2 ⟨hits, hreads⟩ record hrecord)

/-- A block among the records would have to stand for a hit that is read from a greater block. -/
theorem held_above (hreads : records.map ofJson = hits.map .ok)
    (hread : readDocument location (.list records) = .ok hits) {record held : Json}
    (hrecord : record ∈ records) (hheld : held? record = some held) :
    ∃ other ∈ records, ∃ above, held? other = some above ∧ sizeOf held < sizeOf above := by
  obtain ⟨h, hh, hrecorded⟩ : ∃ h ∈ hits, .ok h = ofJson record := by
    rw [← List.mem_map, ← hreads]
    exact List.mem_map_of_mem hrecord
  obtain ⟨_, ⟨⟩, -, hall⟩ := document_ok.1 hread
  obtain ⟨inner, hinner, hsame⟩ : ∃ inner ∈ records.flatMap recordsOf, ofJson inner = .ok h := by
    rw [← List.mem_map, hall]
    exact List.mem_map_of_mem hh
  have hholds : held? inner = some held := by
    rw [held_further hsame, ← held_further hrecorded.symm, hheld]
  obtain ⟨other, hother, hinner⟩ := List.mem_flatMap.1 hinner
  rcases held_cases other with hplain | ⟨block, hblock⟩ | ⟨value, hvalue, hwrong⟩
  · rw [records_plain hplain] at hinner
    rw [List.mem_singleton.1 hinner, hplain] at hholds
    cases hholds
  · rw [records_block hblock] at hinner
    have hlt := List.sizeOf_lt_of_mem hinner
    have hsmaller := held_smaller hholds
    refine ⟨other, hother, .list block, hblock, ?_⟩
    rw [Json.list.sizeOf_spec]
    omega
  · rw [records_unlisted hvalue hwrong] at hinner
    cases hinner

/-- Of the blocks among the records, none can be the greatest. -/
theorem none_held (hreads : records.map ofJson = hits.map .ok)
    (hread : readDocument location (.list records) = .ok hits) :
    ∀ record ∈ records, held? record = none := by
  have hempty : records.filterMap held? = [] := by
    cases hmax : (records.filterMap held?).argmax sizeOf with
    | none => exact List.argmax_eq_none.1 hmax
    | some held =>
      obtain ⟨record, hrecord, hheld⟩ := List.mem_filterMap.1 (List.argmax_mem hmax)
      obtain ⟨other, hother, above, habove, hlt⟩ := held_above hreads hread hrecord hheld
      have hle := List.le_of_mem_argmax (List.mem_filterMap.2 ⟨other, hother, habove⟩) hmax
      exact absurd hlt (Nat.not_lt.2 hle)
  exact List.filterMap_eq_nil_iff.1 hempty

end

structure Expressible (h : Hit) : Prop where
  size : 0 ≤ h.size
  sources : 0 ≤ h.sources
  names : ∀ field ∈ h.extra, isCore field.1 = false

theorem expressible_read {h : Hit} (hwhole : h.Expressible) : ofJson h.toJson = .ok h := by
  have hextra : h.extra.filter (!isCore ·.1) = h.extra := by
    refine List.filter_eq_self.2 fun field hfield => ?_
    rw [hwhole.names field hfield]
    rfl
  have hread := of_json_record hwhole.size hwhole.sources
  rwa [bare, hextra] at hread

/-- A list of records is read as the hits that they are exactly if none of them, and none of the
hits, has a further field that marks a block. -/
theorem records_loaded (location : String) :
    (∀ (records : List Json) (hits : List Hit), records.map ofJson = hits.map .ok →
      (readDocument location (.list records) = .ok hits ↔
        ∀ record ∈ records, held? record = none)) ∧
    ∀ hits : List Hit, (∀ h ∈ hits, h.Expressible) →
      (readDocument location (.list (hits.map toJson)) = .ok hits ↔
        ∀ h ∈ hits, h.extra.get? "hits" = none) := by
  have hlists : ∀ (records : List Json) (hits : List Hit), records.map ofJson = hits.map .ok →
      (readDocument location (.list records) = .ok hits ↔
        ∀ record ∈ records, held? record = none) :=
    fun _ _ hreads => ⟨none_held hreads, plain_read hreads⟩
  refine ⟨hlists, fun hits hwhole => ?_⟩
  have hreads : (hits.map toJson).map ofJson = hits.map .ok := by
    rw [List.map_map]
    exact List.map_congr_left fun h hh => expressible_read (hwhole h hh)
  rw [hlists _ hits hreads, List.forall_mem_map]
  refine forall₂_congr fun h hh => ?_
  rw [held_further (expressible_read (hwhole h hh))]

def tagged : Hit :=
  { hash := "h", size := 7, name := "a", sources := 3,
    extra := [("query", .null), ("tags", .list [.object [("hits", .int 1)]])] }

theorem tagged_loaded :
    [tagged.toJson].map ofJson = [tagged].map .ok ∧ (∀ h ∈ [tagged], h.Expressible) ∧
    readDocument "results.json" (.list [tagged.toJson]) = .ok [tagged] ∧
    (readDocument "results.json" (.list ([tagged].map toJson)) = .ok [tagged] ↔
      ∀ h ∈ [tagged], h.extra.get? "hits" = none) := by
  have hreads : [tagged.toJson].map ofJson = [tagged].map .ok := rfl
  have hwhole : ∀ h ∈ [tagged], h.Expressible := by
    intro h hh
    rw [List.mem_singleton.1 hh]
    exact ⟨by decide, by decide, by decide⟩
  have hplain : ∀ record ∈ [tagged.toJson], held? record = none := by
    intro record hrecord
    rw [List.mem_singleton.1 hrecord]
    rfl
  obtain ⟨hlists, hhits⟩ := records_loaded "results.json"
  exact ⟨hreads, hwhole, (hlists _ _ hreads).2 hplain, hhits _ hwhole⟩

def listing : Json :=
  .object [("hash", .text "h"), ("size", .int 7), ("name", .text "a"), ("hits", .list [])]

theorem listing_lost :
    readDocument "results.json" (.list [listing]) = .ok [] ∧
    ¬ ∀ (location : String) (records : List Json) (hits : List Hit),
      records.map ofJson = hits.map .ok → readDocument location (.list records) = .ok hits := by
  have hempty : readDocument "results.json" (.list [listing]) = .ok [] := rfl
  refine ⟨hempty, fun hall => ?_⟩
  have hread : readDocument "results.json" (.list [listing]) =
      .ok [{ hash := "h", size := 7, name := "a", extra := [("hits", .list [])] }] :=
    hall "results.json" [listing] _ rfl
  cases hempty.symm.trans hread

end FileSearch.Hit
