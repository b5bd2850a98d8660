import FileSearch.Proofs.Config.Reading

/-!
# Valid settings files

Which settings files give a configuration, told section by section and from the file alone.
Defaults are subject to the same conditions: the history is searched unless sources are
listed, and the results of a dump have no place by default.
-/

set_option autoImplicit false

namespace FileSearch.Config

open Yaml

def IfSet (root : Entries) (name field : String) (kind : Kind) : Prop :=
  ∀ v, setting? root name field = some v → kind.has v = true

structure ValidLog (root : Entries) : Prop where
  present : HasSection root "log"
  level : ∃ level, setting? root "log" "level" = some (.text level) ∧
    String.ofList (Text.upper level.toList) ∈ levels
  toFile : IfSet root "log" "to_file" .boolean
  folder : IfSet root "log" "dir" .string
  filled : setting? root "log" "to_file" = some (.bool true) → ¬ BlankAt root "log" "dir"

structure ValidSearch (root : Entries) : Prop where
  present : HasSection root "search"
  extension : ∀ v, setting? root "search" "extension" = some v →
    v = .null ∨ Kind.string.has v = true
  sources : ∃ names, SourcesListed root names ∧ names ≠ [] ∧
    ∀ name ∈ names, name ∈ SourceName.all.map SourceName.text
  workers : ∀ v, setting? root "search" "max_workers" = some v → ∃ n, v = .int n ∧ 0 < n
  sanitizes : IfSet root "search" "sanitize_names" .boolean

structure ValidDump (root : Entries) : Prop where
  present : MayHaveSection root "dump"
  path : IfSet root "dump" "path" .string
  filled : Asks root .dump →
    ∃ path, setting? root "dump" "path" = some (.text path) ∧ isBlankText path = false

structure ValidStorage (root : Entries) : Prop where
  present : HasSection root "storage"
  enabled : ∃ b, setting? root "storage" "enabled" = some (.bool b)
  path : IfSet root "storage" "db_path" .string
  filled : setting? root "storage" "enabled" = some (.bool true) →
    ¬ BlankAt root "storage" "db_path"
  history : Asks root .known → setting? root "storage" "enabled" = some (.bool true)

structure ValidOutput (root : Entries) : Prop where
  present : MayHaveSection root "output"
  folder : IfSet root "output" "base_dir" .string
  formats : ∃ formats, FormatsListed root formats ∧ formats ≠ [] ∧
    (∀ format ∈ formats, format ∈ knownFormats) ∧
    ("json" ∈ formats → ¬ BlankAt root "output" "base_dir")

structure Valid (root : Entries) : Prop where
  log : ValidLog root
  search : ValidSearch root
  dump : ValidDump root
  storage : ValidStorage root
  output : ValidOutput root

section
variable {root : Entries} {c : Config} {name field : String}

section
variable {α : Type} {tag : α → Value} {default a : α}

theorem Given.if_set {kind : Kind} (h : Given root name field tag default a)
    (hkind : ∀ a, kind.has (tag a) = true) : IfSet root name field kind := by
  intro v hset
  rcases h with ⟨hnone, -⟩ | hgiven
  · cases hset.symm.trans hnone
  · cases hset.symm.trans hgiven
    exact hkind a

theorem Given.value {b : α} (h : Given root name field tag default a)
    (hset : setting? root name field = some (tag b)) : tag a = tag b := by
  rcases h with ⟨hnone, -⟩ | hgiven
  · cases hset.symm.trans hnone
  · exact Option.some.inj (hgiven.symm.trans hset)

end

theorem Given.not_blank {default s : String} (h : Given root name field .text default s)
    (hfilled : isBlankText s = false) : ¬ BlankAt root name field := by
  rintro ⟨t, hset, hblank⟩
  cases h.value hset
  cases hfilled.symm.trans hblank

theorem Asks.read {source : SourceName} (h : Asks root source) (hread : ReadFrom root c) :
    source ∈ c.sources := by
  obtain ⟨names, hnames, hsource⟩ := h
  obtain ⟨names', hnames', hsources⟩ := hread.sources
  rw [hnames.unique hnames', ← List.mem_eraseDups, ← hsources] at hsource
  simpa using hsource

theorem valid_log (h : ReadFrom root c) (hs : Sound c) : ValidLog root where
  present := h.log
  level := by
    obtain ⟨level, hset, hlevel⟩ := h.logLevel
    exact ⟨level, hset, hlevel ▸ hs.level⟩
  toFile := h.logToFile.if_set fun _ => rfl
  folder := h.logFolder.if_set fun _ => rfl
  filled := fun htoFile =>
    h.logFolder.not_blank (hs.logFolder (Value.bool.inj (h.logToFile.value htoFile)))

theorem valid_search (h : ReadFrom root c) (hs : Sound c) : ValidSearch root where
  present := h.search
  extension := by
    intro v hset
    obtain ⟨-, -, ⟨-, hnone | hnull⟩ | ⟨e, -, htext⟩⟩ := h.extension
    · cases hset.symm.trans hnone
    · cases hset.symm.trans hnull
      exact .inl rfl
    · cases hset.symm.trans htext
      exact .inr rfl
  sources := by
    obtain ⟨names, hnames, hsources⟩ := h.sources
    refine ⟨names, hnames, ?_, fun name hname => ?_⟩
    · rintro rfl
      exact hs.sources (List.map_eq_nil_iff.1 hsources)
    · rw [← List.mem_eraseDups, ← hsources] at hname
      obtain ⟨source, -, rfl⟩ := List.mem_map.1 hname
      cases source <;> decide
  workers := by
    intro v hset
    rcases h.workers with ⟨hnone, -⟩ | hgiven
    · cases hset.symm.trans hnone
    · exact ⟨c.workers, Option.some.inj (hset.symm.trans hgiven), hs.workers⟩
  sanitizes := h.sanitizes.if_set fun _ => rfl

theorem valid_dump (h : ReadFrom root c) (hs : Sound c) : ValidDump root where
  present := h.dump
  path := h.dumpPath.if_set fun _ => rfl
  filled := by
    intro hasked
    have hfilled := hs.dump (hasked.read h)
    rcases h.dumpPath with ⟨-, hdefault⟩ | hset
    · rw [hdefault] at hfilled
      cases hfilled
    · exact ⟨c.dumpPath, hset, hfilled⟩

theorem valid_storage (h : ReadFrom root c) (hs : Sound c) : ValidStorage root where
  present := h.storage
  enabled := ⟨c.storageEnabled, h.storageEnabled⟩
  path := h.databasePath.if_set fun _ => rfl
  filled := by
    intro henabled
    have hvalue := h.storageEnabled.symm.trans henabled
    exact h.databasePath.not_blank (hs.database (Value.bool.inj (Option.some.inj hvalue)))
  history := fun hasked => (hs.history (hasked.read h)) ▸ h.storageEnabled

theorem valid_output (h : ReadFrom root c) (hs : Sound c) : ValidOutput root where
  present := h.output
  folder := h.outputFolder.if_set fun _ => rfl
  formats := ⟨c.formats, h.formats, hs.formats, hs.knownFormats, fun hjson =>
    h.outputFolder.not_blank (hs.outputFolder hjson)⟩

theorem valid_of_read (h : ReadFrom root c) (hs : Sound c) : Valid root where
  log := valid_log h hs
  search := valid_search h hs
  dump := valid_dump h hs
  storage := valid_storage h hs
  output := valid_output h hs

theorem HasSection.not_absent (h : HasSection root name) :
    ¬ (root.get? name = none ∨ root.get? name = some .null) := by
  obtain ⟨entries, hfound⟩ := h
  rw [hfound]
  simp

theorem Valid.section_kind {v : Value} (h : Valid root)
    (hname : name ∈ requiredSections ++ optionalSections) (hfound : root.get? name = some v)
    (hnull : v ≠ .null) : Kind.object.has v = true := by
  have hthere (hmay : MayHaveSection root name) : Kind.object.has v = true := by
    rcases hmay with hnone | hempty | ⟨entries, hmapping⟩
    · cases hfound.symm.trans hnone
    · exact absurd (Option.some.inj (hfound.symm.trans hempty)) hnull
    · cases hfound.symm.trans hmapping
      rfl
  simp only [requiredSections, optionalSections, List.cons_append, List.nil_append, List.mem_cons,
    List.not_mem_nil, or_false] at hname
  rcases hname with rfl | rfl | rfl | rfl | rfl
  · exact hthere (.inr (.inr h.log.present))
  · exact hthere (.inr (.inr h.search.present))
  · exact hthere (.inr (.inr h.storage.present))
  · exact hthere h.dump.present
  · exact hthere h.output.present

theorem Listed.if_set {default names : List String} (h : Listed root name field default names) :
    IfSet root name field .list := by
  intro v hset
  rcases h with ⟨hnone, -⟩ | ⟨items, hitems, -⟩
  · cases hset.symm.trans hnone
  · cases hset.symm.trans hitems
    rfl

theorem Listed.item_kind {default names : List String} {items : List Value} {i : Nat} {v : Value}
    (h : Listed root name field default names)
    (hset : setting? root name field = some (.list items)) (hitem : items[i]? = some v) :
    Kind.string.has v = true := by
  rcases h with ⟨hnone, -⟩ | ⟨texts, htexts, -⟩
  · cases hset.symm.trans hnone
  · cases hset.symm.trans htexts
    obtain ⟨text, -, rfl⟩ := List.mem_map.1 (List.mem_of_getElem? hitem)
    rfl

theorem Valid.setting_kind {kind : Kind} (h : Valid root)
    (hknown : (name, field, kind) ∈ settingKinds) : IfSet root name field kind := by
  obtain ⟨level, hlevel, -⟩ := h.log.level
  obtain ⟨names, hnames, -⟩ := h.search.sources
  obtain ⟨enabled, henabled⟩ := h.storage.enabled
  obtain ⟨formats, hformats, -⟩ := h.output.formats
  simp only [settingKinds, List.mem_cons, List.not_mem_nil, or_false, Prod.mk.injEq] at hknown
  rcases hknown with ⟨rfl, rfl, rfl⟩ | ⟨rfl, rfl, rfl⟩ | ⟨rfl, rfl, rfl⟩ | ⟨rfl, rfl, rfl⟩ |
    ⟨rfl, rfl, rfl⟩ | ⟨rfl, rfl, rfl⟩ | ⟨rfl, rfl, rfl⟩ | ⟨rfl, rfl, rfl⟩ | ⟨rfl, rfl, rfl⟩ |
    ⟨rfl, rfl, rfl⟩ | ⟨rfl, rfl, rfl⟩
  · intro v hset
    cases hset.symm.trans hlevel
    rfl
  · exact h.log.toFile
  · exact h.log.folder
  · exact hnames.if_set
  · intro v hset
    obtain ⟨n, rfl, -⟩ := h.search.workers v hset
    rfl
  · exact h.search.sanitizes
  · exact h.dump.path
  · intro v hset
    cases hset.symm.trans henabled
    rfl
  · exact h.storage.path
  · exact h.output.folder
  · exact hformats.if_set

theorem Valid.item_kind {items : List Value} {i : Nat} {v : Value} (h : Valid root)
    (hknown : (name, field, .list) ∈ settingKinds)
    (hset : setting? root name field = some (.list items)) (hitem : items[i]? = some v) :
    Kind.string.has v = true := by
  obtain ⟨names, hnames, -⟩ := h.search.sources
  obtain ⟨formats, hformats, -⟩ := h.output.formats
  have hlists : name = "search" ∧ field = "sources" ∨ name = "output" ∧ field = "formats" := by
    simpa [settingKinds] using hknown
  rcases hlists with ⟨rfl, rfl⟩ | ⟨rfl, rfl⟩
  · exact hnames.item_kind hset hitem
  · exact hformats.item_kind hset hitem

theorem wrong_kind_invalid {refusal : Refusal} (h : WrongKind root refusal) : ¬ Valid root := by
  intro hvalid
  cases h with
  | ofSection hknown hfound hnull hwrong =>
    cases hwrong.symm.trans (hvalid.section_kind hknown hfound hnull)
  | ofSetting hknown hset hwrong => cases hwrong.symm.trans (hvalid.setting_kind hknown _ hset)
  | ofExtension hset hnull hwrong =>
    rcases hvalid.search.extension _ hset with rfl | hkind
    · exact hnull rfl
    · cases hwrong.symm.trans hkind
  | ofItem hknown hset hitem hwrong =>
    cases hwrong.symm.trans (hvalid.item_kind hknown hset hitem)

theorem wrong_value_invalid {refusal : Refusal} (h : WrongValue root refusal) :
    ¬ Valid root := by
  intro hvalid
  obtain ⟨names, hnames, hsome, hknown⟩ := hvalid.search.sources
  obtain ⟨formats, hformats, hany, hformatsKnown, hfolder⟩ := hvalid.output.formats
  cases h with
  | noSection hname habsent =>
    simp only [requiredSections, List.mem_cons, List.not_mem_nil, or_false] at hname
    rcases hname with rfl | rfl | rfl
    · exact hvalid.log.present.not_absent habsent
    · exact hvalid.search.present.not_absent habsent
    · exact hvalid.storage.present.not_absent habsent
  | noSetting hsetting habsent =>
    simp only [requiredSettings, List.mem_cons, List.not_mem_nil, or_false, Prod.mk.injEq]
      at hsetting
    rcases hsetting with ⟨rfl, rfl⟩ | ⟨rfl, rfl⟩
    · obtain ⟨level, hset, -⟩ := hvalid.log.level
      cases hset.symm.trans habsent
    · obtain ⟨enabled, hset⟩ := hvalid.storage.enabled
      cases hset.symm.trans habsent
  | unknownSource hlisted hasked hunknown =>
    rw [hlisted.unique hnames] at hasked
    exact hunknown (hknown _ hasked)
  | noSources hlisted => exact hsome (hnames.unique hlisted)
  | badLevel hset hunknown =>
    obtain ⟨level, hlevel, hmem⟩ := hvalid.log.level
    cases hset.symm.trans hlevel
    exact hunknown hmem
  | blankLogFolder htoFile hblank => exact hvalid.log.filled htoFile hblank
  | badWorkers hset hfew =>
    obtain ⟨n, heq, hpositive⟩ := hvalid.search.workers _ hset
    cases heq
    omega
  | blankDatabase henabled hblank => exact hvalid.storage.filled henabled hblank
  | noFormats hlisted => exact hany (hformats.unique hlisted)
  | unknownFormats hlisted hunknown =>
    obtain ⟨format, hformat, hunknown⟩ := hunknown
    rw [hlisted.unique hformats] at hformat
    exact hunknown (hformatsKnown format hformat)
  | blankOutputFolder hlisted hjson hblank =>
    rw [hlisted.unique hformats] at hjson
    exact hfolder hjson hblank
  | historyDisabled hasked hdisabled =>
    cases hdisabled.symm.trans (hvalid.storage.history hasked)
  | blankDump hasked hpath =>
    obtain ⟨path, hset, hfilled⟩ := hvalid.dump.filled hasked
    rcases hpath with hnone | ⟨path', hset', hblank⟩
    · cases hset.symm.trans hnone
    · cases hset.symm.trans hset'
      cases hfilled.symm.trans hblank

theorem faulty_invalid {refusal : Refusal} (h : Faulty root refusal) : ¬ Valid root :=
  h.elim wrong_kind_invalid wrong_value_invalid

end

/-- A settings file gives a configuration exactly if it is valid. If it is not, it is refused
because a value is not of its kind, or because one is missing or not one to go on with; that
ground is in the file. -/
theorem of_entries_valid (root : Entries) :
    ((∃ config, ofEntries root = .ok config) ↔ Valid root) ∧
      (¬ Valid root → ∃ refusal, ofEntries root = .error refusal ∧
        (WrongKind root refusal ∨ WrongValue root refusal)) := by
  rcases hrun : ofEntries root with refusal | config
  · have hfaulty : Faulty root refusal := of_entries_error hrun
    have hinvalid : ¬ Valid root := faulty_invalid hfaulty
    exact ⟨⟨nofun, fun hvalid => absurd hvalid hinvalid⟩, fun _ => ⟨refusal, rfl, hfaulty⟩⟩
  · obtain ⟨hread, hsound⟩ := of_entries_ok hrun
    have hvalid : Valid root := valid_of_read hread hsound
    exact ⟨⟨fun _ => hvalid, fun _ => ⟨config, rfl⟩⟩, fun hinvalid => absurd hvalid hinvalid⟩

example :
    ofEntries [("log", .mapping [("level", .text "info")]), ("search", .mapping []),
      ("storage", .mapping [("enabled", .bool false)])] = .error .historyDisabled := by rfl

end FileSearch.Config
