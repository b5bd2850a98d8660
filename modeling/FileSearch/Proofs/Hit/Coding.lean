import FileSearch.Proofs.Hit.Records

/-!
# Records and hits

A record is accepted exactly if it is an object with a hash and a size of the right kinds, and
with a name and a count of sources that are of the right kinds or left out. What was read is
written with these four in front and all else behind them, and reads as the same hit.
-/

set_option autoImplicit false

namespace FileSearch.Hit

structure Acceptable (fields : Json.Fields) : Prop where
  hash : ∃ s, fields.get? "hash" = some (.text s)
  size : ∃ n : Nat, fields.get? "size" = some (.int n)
  name : Unset fields "name" ∨ ∃ s, fields.get? "name" = some (.text s)
  sources : Unset fields "sources" ∨ ∃ n : Nat, fields.get? "sources" = some (.int n)

def stated (fields : Json.Fields) (name : String) (default : Json) : Json :=
  match fields.get? name with
  | none => default
  | some .null => default
  | some value => value

def rearranged (fields : Json.Fields) : Json.Fields :=
  [("hash", stated fields "hash" .null), ("size", stated fields "size" .null),
   ("name", stated fields "name" (.text "")), ("sources", stated fields "sources" (.int 0))] ++
    fields.filter (!isCore ·.1)

section
variable {fields : Json.Fields} {name : String} {default value : Json} {h : Hit}

theorem stated_unset (hunset : Unset fields name) : stated fields name default = default := by
  rw [stated]
  rcases hunset with hnone | hnull
  · rw [hnone]
  · rw [hnull]

theorem stated_set (hset : fields.get? name = some value) (hvalue : value ≠ .null) :
    stated fields name default = value := by
  rw [stated, hset]
  split
  · next hnone => cases hnone
  · next hnull => exact absurd (Option.some.inj hnull) hvalue
  · next found hfound => exact (Option.some.inj hfound).symm

theorem acceptable_iff : Acceptable fields ↔ ∃ h, Spells fields h := by
  constructor
  · rintro ⟨⟨hash, hhash⟩, ⟨size, hsize⟩, hname, hsources⟩
    obtain ⟨name, hname⟩ : ∃ name : String, Unset fields "name" ∧ name = "" ∨
        fields.get? "name" = some (.text name) := by
      rcases hname with hunset | ⟨s, hset⟩
      · exact ⟨"", .inl ⟨hunset, rfl⟩⟩
      · exact ⟨s, .inr hset⟩
    obtain ⟨sources, hsources⟩ : ∃ sources : Int, Unset fields "sources" ∧ sources = 0 ∨
        fields.get? "sources" = some (.int sources) ∧ 0 ≤ sources := by
      rcases hsources with hunset | ⟨n, hset⟩
      · exact ⟨0, .inl ⟨hunset, rfl⟩⟩
      · exact ⟨n, .inr ⟨hset, Int.natCast_nonneg n⟩⟩
    exact ⟨{ hash, size, name, sources, extra := fields.filter (!isCore ·.1) },
      hhash, ⟨hsize, Int.natCast_nonneg size⟩, hname, hsources, rfl⟩
  · rintro ⟨h, hspells⟩
    refine ⟨⟨h.hash, hspells.hash⟩, ?_, ?_, ?_⟩
    · obtain ⟨n, hn⟩ := Int.eq_ofNat_of_zero_le hspells.size.2
      exact ⟨n, hn ▸ hspells.size.1⟩
    · exact hspells.name.imp (·.1) fun hset => ⟨h.name, hset⟩
    · refine hspells.sources.imp (·.1) fun ⟨hset, hcount⟩ => ?_
      obtain ⟨n, hn⟩ := Int.eq_ofNat_of_zero_le hcount
      exact ⟨n, hn ▸ hset⟩

theorem spells_extra (hspells : Spells fields h) : h.extra.filter (!isCore ·.1) = h.extra := by
  rw [hspells.extra, List.filter_filter]
  simp only [Bool.and_self]

/-- The four fields come from the record or from the defaults, and the others are kept. -/
theorem spells_rearranged (hspells : Spells fields h) : h.toFields = rearranged fields := by
  have hname : stated fields "name" (.text "") = .text h.name := by
    rcases hspells.name with ⟨hunset, hempty⟩ | hset
    · rw [stated_unset hunset, hempty]
    · exact stated_set hset (text_ne_null _)
  have hsources : stated fields "sources" (.int 0) = .int h.sources := by
    rcases hspells.sources with ⟨hunset, hzero⟩ | ⟨hset, -⟩
    · rw [stated_unset hunset, hzero]
    · exact stated_set hset (int_ne_null _)
  rw [toFields, rearranged, stated_set hspells.hash (text_ne_null _),
    stated_set hspells.size.1 (int_ne_null _), hname, hsources, spells_extra hspells,
    hspells.extra]

theorem spells_bare (hspells : Spells fields h) : h.bare = h := by
  rw [bare, spells_extra hspells]

theorem spells_counts (hspells : Spells fields h) : 0 ≤ h.size ∧ 0 ≤ h.sources := by
  refine ⟨hspells.size.2, ?_⟩
  rcases hspells.sources with ⟨-, hzero⟩ | ⟨-, hcount⟩
  · exact Int.le_of_eq hzero.symm
  · exact hcount

end

theorem record_coded (place : String) :
    (∀ h : Hit, 0 ≤ h.size → 0 ≤ h.sources → readRecord place h.toJson = .ok h.bare) ∧
    ∀ record : Json,
      ((∃ h, readRecord place record = .ok h) ↔
        ∃ fields, record = .object fields ∧ Acceptable fields) ∧
      ∀ h, readRecord place record = .ok h →
        (∃ fields, record = .object fields ∧ h.toFields = rearranged fields) ∧
        readRecord place h.toJson = .ok h := by
  simp only [read_record_iff]
  refine ⟨fun h hsize hsources => of_json_record hsize hsources, fun record => ⟨?_, ?_⟩⟩
  · simp only [acceptable_iff, of_json_iff]
    constructor
    · rintro ⟨h, fields, hrecord, hspells⟩
      exact ⟨fields, hrecord, h, hspells⟩
    · rintro ⟨fields, hrecord, h, hspells⟩
      exact ⟨h, fields, hrecord, hspells⟩
  · intro h hread
    obtain ⟨fields, hrecord, hspells⟩ := of_json_iff.1 hread
    obtain ⟨hsize, hsources⟩ := spells_counts hspells
    have hagain := of_json_record hsize hsources
    rw [spells_bare hspells] at hagain
    exact ⟨⟨fields, hrecord, spells_rearranged hspells⟩, hagain⟩

def clashing : Hit :=
  { hash := "ab", size := 7, name := "a", sources := 3,
    extra := [("size", .text "big"), ("kind", .text "video"), ("name", .null)] }

def sparse : Json.Fields :=
  [("kind", .text "video"), ("size", .int 7), ("name", .null), ("hash", .text "ab")]

theorem clashing_coded :
    (0 ≤ clashing.size ∧ 0 ≤ clashing.sources ∧
      readRecord "hit" clashing.toJson =
        .ok { clashing with extra := [("kind", .text "video")] }) ∧
    readRecord "hit" (.object sparse) =
      .ok { hash := "ab", size := 7, extra := [("kind", .text "video")] } ∧
    rearranged sparse =
      [("hash", .text "ab"), ("size", .int 7), ("name", .text ""), ("sources", .int 0),
       ("kind", .text "video")] ∧
    readRecord "hit" (.object (rearranged sparse)) = readRecord "hit" (.object sparse) := by
  have hsize : 0 ≤ clashing.size := by decide
  have hsources : 0 ≤ clashing.sources := by decide
  have hread : readRecord "hit" (.object sparse) =
      .ok { hash := "ab", size := 7, extra := [("kind", .text "video")] } := rfl
  obtain ⟨hhits, hrecords⟩ := record_coded "hit"
  obtain ⟨⟨_, ⟨⟩, hfields⟩, hagain⟩ := (hrecords (.object sparse)).2 _ hread
  refine ⟨⟨hsize, hsources, hhits clashing hsize hsources⟩, hread, rfl, ?_⟩
  rw [← hfields, hread]
  exact hagain

end FileSearch.Hit
