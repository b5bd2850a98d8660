import FileSearch.Proofs.Hit.Spelling
import FileSearch.Proofs.Json.Readback

/-!
# Records read back

A hit is read from its record as it was, but for further fields that are named like one
of the first four: those are not written.
-/

set_option autoImplicit false

namespace FileSearch.Hit

structure Storable (h : Hit) : Prop where
  size : 0 ≤ h.size
  sources : 0 ≤ h.sources
  names : (h.extra.map (·.1)).Nodup
  values : ∀ field ∈ h.extra, field.2.Exact

def bare (h : Hit) : Hit := { h with extra := h.extra.filter (!isCore ·.1) }

theorem fields_names {h : Hit} (hstorable : h.Storable) : (h.toFields.map (·.1)).Nodup := by
  have hnames : h.toFields.map (·.1) = coreNames ++ h.bare.extra.map (·.1) := by
    rw [toFields, List.map_append]
    rfl
  have hextra : (h.bare.extra.map (·.1)).Nodup :=
    hstorable.names.sublist (List.filter_sublist.map _)
  rw [hnames, List.nodup_append]
  refine ⟨by decide, hextra, ?_⟩
  rintro name hcore other hother rfl
  obtain ⟨field, hfield, rfl⟩ := List.mem_map.1 hother
  have hkept : (!isCore field.1) = true := (List.mem_filter.1 hfield).2
  rw [isCore, List.contains_iff_mem.2 hcore] at hkept
  cases hkept

theorem record_exact {h : Hit} (hstorable : h.Storable) : h.toJson.Exact := by
  refine .object (fields_names hstorable) ?_
  intro field hfield
  rcases List.mem_append.1 hfield with hcore | hextra
  · simp only [List.mem_cons, List.not_mem_nil, or_false] at hcore
    rcases hcore with rfl | rfl | rfl | rfl
    · exact .text _
    · exact .int _
    · exact .text _
    · exact .int _
  · exact hstorable.values field (List.mem_filter.1 hextra).1

theorem fields_kept (h : Hit) : h.toFields.filter (!isCore ·.1) = h.bare.extra := by
  rw [toFields, List.filter_append, List.filter_filter]
  simp [isCore, coreNames, bare]

theorem spells_record {h : Hit} (hsize : 0 ≤ h.size) (hsources : 0 ≤ h.sources) :
    Spells h.toFields h.bare where
  hash := rfl
  size := ⟨rfl, hsize⟩
  name := .inr rfl
  sources := .inr ⟨rfl, hsources⟩
  extra := (fields_kept h).symm

theorem of_json_record {h : Hit} (hsize : 0 ≤ h.size) (hsources : 0 ≤ h.sources) :
    ofJson h.toJson = .ok h.bare :=
  of_json_iff.2 ⟨h.toFields, rfl, spells_record hsize hsources⟩

theorem read_records {hits : List Hit} (h : ∀ hit ∈ hits, hit.Storable) (place : String)
    (i : Nat) : readRecords place i (hits.map toJson) = .ok (hits.map bare) := by
  induction hits generalizing i with
  | nil => rfl
  | cons hit hits ih =>
    have hstorable := h hit (by simp)
    have hhit := of_json_record hstorable.size hstorable.sources
    rw [List.map_cons, readRecords, readRecord, hhit, ih fun other ho => h other (by simp [ho])]
    rfl

theorem records_exact {hits : List Hit} (h : ∀ hit ∈ hits, hit.Storable) :
    (Json.list (hits.map toJson)).Exact := by
  refine .list ?_
  intro record hrecord
  obtain ⟨hit, hhit, rfl⟩ := List.mem_map.1 hrecord
  exact record_exact (h hit hhit)

end FileSearch.Hit
