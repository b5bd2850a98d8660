import FileSearch.Config.Reader

/-!
# What reading a configuration ends in

A settings file is read to a configuration, or refused at its first fault. One lemma for each
function of the reader tells both endings: what a result holds, and on what grounds a refusal
stands. They are chained in the order in which the reader goes.
-/

set_option autoImplicit false

namespace FileSearch

@[simp] theorem SourceName.text_inj {a b : SourceName} : a.text = b.text ↔ a = b := by
  cases a <;> cases b <;> decide

theorem SourceName.of_text_eq {name : String} {source : SourceName} :
    SourceName.ofText? name = some source ↔ source.text = name := by
  constructor
  · intro h
    simpa using List.find?_some h
  · rintro rfl
    cases source <;> rfl

theorem SourceName.of_text_none {name : String} :
    SourceName.ofText? name = none ↔ name ∉ SourceName.all.map SourceName.text := by
  simp [SourceName.ofText?, SourceName.all, eq_comm (a := name)]

namespace Config

open Yaml

def Ends {α : Type} (x : Except Refusal α) (good : α → Prop) (bad : Refusal → Prop) : Prop :=
  match x with
  | .ok a => good a
  | .error refusal => bad refusal

section
variable {α β : Type} {good : α → Prop} {bad : Refusal → Prop}

theorem Ends.bind {x : Except Refusal α} {f : α → Except Refusal β} {last : β → Prop}
    (hx : Ends x good bad) (hf : ∀ a, good a → Ends (f a) last bad) :
    Ends (x >>= f) last bad := by
  cases x with
  | error refusal => exact hx
  | ok a => exact hf a hx

theorem Ends.imp {x : Except Refusal α} {good' : α → Prop} {bad' : Refusal → Prop}
    (hx : Ends x good bad) (hgood : ∀ a, good a → good' a)
    (hbad : ∀ refusal, bad refusal → bad' refusal) : Ends x good' bad' := by
  cases x with
  | error refusal => exact hbad refusal hx
  | ok a => exact hgood a hx

theorem refuse_if_ends {fault : Bool} {refusal : Refusal} (h : fault = true → bad refusal) :
    Ends (refuseIf fault refusal) (fun _ => fault = false) bad := by
  cases fault with
  | false => exact rfl
  | true => exact h rfl

end

def Kind.has : Kind → Value → Bool
  | .string, .text _ => true
  | .boolean, .bool _ => true
  | .integer, .int _ => true
  | .list, .list _ => true
  | .object, .mapping _ => true
  | _, _ => false

def setting? (root : Entries) (name field : String) : Option Value :=
  match root.get? name with
  | some (.mapping entries) => Entries.get? entries field
  | _ => none

def HasSection (root : Entries) (name : String) : Prop :=
  ∃ entries, root.get? name = some (.mapping entries)

def MayHaveSection (root : Entries) (name : String) : Prop :=
  root.get? name = none ∨ root.get? name = some .null ∨ HasSection root name

def Given {α : Type} (root : Entries) (name field : String) (tag : α → Value) (default a : α) :
    Prop :=
  setting? root name field = none ∧ a = default ∨ setting? root name field = some (tag a)

def listed (items : List String) : List String :=
  (items.filter fun item => !isBlankText item).map tidyName

def Listed (root : Entries) (name field : String) (default names : List String) : Prop :=
  setting? root name field = none ∧ names = default ∨
    ∃ items : List String,
      setting? root name field = some (.list (items.map .text)) ∧ names = listed items

abbrev SourcesListed (root : Entries) (names : List String) : Prop :=
  Listed root "search" "sources" ["known"] names

abbrev FormatsListed (root : Entries) (formats : List String) : Prop :=
  Listed root "output" "formats" ["console"] formats

def Asks (root : Entries) (source : SourceName) : Prop :=
  ∃ names, SourcesListed root names ∧ source.text ∈ names

def BlankAt (root : Entries) (name field : String) : Prop :=
  ∃ s, setting? root name field = some (.text s) ∧ isBlankText s = true

theorem Given.blank {root : Entries} {name field default s : String}
    (h : Given root name field .text default s) (hdefault : isBlankText default = false)
    (hblank : isBlankText s = true) : BlankAt root name field := by
  rcases h with ⟨-, rfl⟩ | hset
  · rw [hdefault] at hblank
    cases hblank
  · exact ⟨s, hset, hblank⟩

theorem Listed.unique {root : Entries} {name field : String} {default names names' : List String}
    (h : Listed root name field default names) (h' : Listed root name field default names') :
    names = names' := by
  rcases h with ⟨hnone, rfl⟩ | ⟨items, hset, rfl⟩ <;>
    rcases h' with ⟨hnone', rfl⟩ | ⟨items', hset', rfl⟩
  · rfl
  · cases hnone.symm.trans hset'
  · cases hset.symm.trans hnone'
  · have hitems : items.map Value.text = items'.map Value.text := by
      simpa using hset.symm.trans hset'
    rw [(List.map_inj_right fun _ _ => Value.text.inj).1 hitems]

def requiredSections : List String := ["log", "search", "storage"]

def optionalSections : List String := ["dump", "output"]

def requiredSettings : List (String × String) := [("log", "level"), ("storage", "enabled")]

def settingKinds : List (String × String × Kind) :=
  [("log", "level", .string), ("log", "to_file", .boolean), ("log", "dir", .string),
   ("search", "sources", .list), ("search", "max_workers", .integer),
   ("search", "sanitize_names", .boolean), ("dump", "path", .string),
   ("storage", "enabled", .boolean), ("storage", "db_path", .string),
   ("output", "base_dir", .string), ("output", "formats", .list)]

inductive WrongKind (root : Entries) : Refusal → Prop where
  | ofSection {name : String} {v : Value} (known : name ∈ requiredSections ++ optionalSections)
      (value : root.get? name = some v) (notNull : v ≠ .null) (wrong : Kind.object.has v = false) :
      WrongKind root (.wrongKind name .object)
  | ofSetting {name field : String} {kind : Kind} {v : Value}
      (known : (name, field, kind) ∈ settingKinds) (value : setting? root name field = some v)
      (wrong : kind.has v = false) : WrongKind root (.wrongKind s!"{name}.{field}" kind)
  | ofExtension {v : Value} (value : setting? root "search" "extension" = some v)
      (notNull : v ≠ .null) (wrong : Kind.string.has v = false) :
      WrongKind root (.wrongKind "search.extension" .string)
  | ofItem {name field : String} {items : List Value} {i : Nat} {v : Value}
      (known : (name, field, .list) ∈ settingKinds)
      (value : setting? root name field = some (.list items)) (item : items[i]? = some v)
      (wrong : Kind.string.has v = false) :
      WrongKind root (.wrongKind s!"{name}.{field}[{i}]" .string)

inductive WrongValue (root : Entries) : Refusal → Prop where
  | noSection {name : String} (known : name ∈ requiredSections)
      (absent : root.get? name = none ∨ root.get? name = some .null) :
      WrongValue root (.missing name)
  | noSetting {name field : String} (known : (name, field) ∈ requiredSettings)
      (absent : setting? root name field = none) : WrongValue root (.missing s!"{name}.{field}")
  | unknownSource {names : List String} {name : String} (sources : SourcesListed root names)
      (asked : name ∈ names) (unknown : name ∉ SourceName.all.map SourceName.text) :
      WrongValue root (.unknownSource name)
  | noSources (sources : SourcesListed root []) : WrongValue root .noSources
  | badLevel {level : String} (value : setting? root "log" "level" = some (.text level))
      (unknown : String.ofList (Text.upper level.toList) ∉ levels) : WrongValue root .badLevel
  | blankLogFolder (toFile : setting? root "log" "to_file" = some (.bool true))
      (folder : BlankAt root "log" "dir") : WrongValue root .blankLogFolder
  | badWorkers {n : Int} (value : setting? root "search" "max_workers" = some (.int n))
      (few : n ≤ 0) : WrongValue root .badWorkers
  | blankDatabase (enabled : setting? root "storage" "enabled" = some (.bool true))
      (path : BlankAt root "storage" "db_path") : WrongValue root .blankDatabase
  | noFormats (formats : FormatsListed root []) : WrongValue root .noFormats
  | unknownFormats {formats : List String} (asked : FormatsListed root formats)
      (unknown : ∃ format ∈ formats, format ∉ knownFormats) :
      WrongValue root (.unknownFormats (unknownFormats formats))
  | blankOutputFolder {formats : List String} (asked : FormatsListed root formats)
      (json : "json" ∈ formats) (folder : BlankAt root "output" "base_dir") :
      WrongValue root .blankOutputFolder
  | historyDisabled (asked : Asks root .known)
      (disabled : setting? root "storage" "enabled" = some (.bool false)) :
      WrongValue root .historyDisabled
  | blankDump (asked : Asks root .dump)
      (path : setting? root "dump" "path" = none ∨ BlankAt root "dump" "path") :
      WrongValue root .blankDump

def Faulty (root : Entries) (refusal : Refusal) : Prop :=
  WrongKind root refusal ∨ WrongValue root refusal

section
variable {root : Entries} {s : Section} {name field : String} {kind : Kind}

structure Section.From (s : Section) (root : Entries) (name : String) : Prop where
  named : s.name = name
  settings : ∀ field, s.entries.get? field = setting? root name field

theorem require_section_ends (hname : name ∈ requiredSections) :
    Ends (requireSection root name) (fun s => s.From root name ∧ HasSection root name)
      (Faulty root) := by
  have hknown : name ∈ requiredSections ++ optionalSections := List.mem_append_left _ hname
  rw [requireSection]
  rcases hfound : root.get? name with _ | v
  · exact .inr (.noSection hname (.inl hfound))
  · cases v with
    | null => exact .inr (.noSection hname (.inr hfound))
    | mapping entries =>
      exact ⟨⟨rfl, fun field => by rw [setting?, hfound]⟩, entries, hfound⟩
    | _ => exact .inl (.ofSection hknown hfound nofun rfl)

theorem optional_section_ends (hname : name ∈ optionalSections) :
    Ends (optionalSection root name) (fun s => s.From root name ∧ MayHaveSection root name)
      (Faulty root) := by
  have hknown : name ∈ requiredSections ++ optionalSections := List.mem_append_right _ hname
  rw [optionalSection]
  rcases hfound : root.get? name with _ | v
  · exact ⟨⟨rfl, fun field => by rw [setting?, hfound]; rfl⟩, .inl hfound⟩
  · cases v with
    | null => exact ⟨⟨rfl, fun field => by rw [setting?, hfound]; rfl⟩, .inr (.inl hfound)⟩
    | mapping entries =>
      exact ⟨⟨rfl, fun field => by rw [setting?, hfound]⟩, .inr (.inr ⟨entries, hfound⟩)⟩
    | _ => exact .inl (.ofSection hknown hfound nofun rfl)

def Reads {α : Type} (read : String → Value → Except Refusal α) (kind : Kind) (tag : α → Value) :
    Prop :=
  ∀ setting v, Ends (read setting v) (fun a => v = tag a)
    fun refusal => refusal = .wrongKind setting kind ∧ kind.has v = false

theorem string_reads : Reads string .string .text := by
  intro setting v
  cases v <;> first | rfl | exact ⟨rfl, rfl⟩

theorem boolean_reads : Reads boolean .boolean .bool := by
  intro setting v
  cases v <;> first | rfl | exact ⟨rfl, rfl⟩

theorem integer_reads : Reads integer .integer .int := by
  intro setting v
  cases v <;> first | rfl | exact ⟨rfl, rfl⟩

section
variable {α : Type} {read : String → Value → Except Refusal α} {tag : α → Value} {default : α}
  {good : α → Prop} {bad : Refusal → Prop}

theorem Section.From.get_ends (hs : s.From root name)
    (habsent : setting? root name field = none → good default)
    (hread : ∀ v, setting? root name field = some v → Ends (read s!"{name}.{field}" v) good bad) :
    Ends (s.get field default read) good bad := by
  obtain ⟨rfl, hsettings⟩ := hs
  rw [Section.get, hsettings field]
  rcases hfound : setting? root s.name field with _ | v
  · exact habsent hfound
  · exact hread v hfound

theorem reads_setting (hread : Reads read kind tag) (hknown : (name, field, kind) ∈ settingKinds)
    (v : Value) (hset : setting? root name field = some v) :
    Ends (read s!"{name}.{field}" v) (fun a => setting? root name field = some (tag a))
      (Faulty root) := by
  refine (hread _ v).imp ?_ ?_
  · rintro a rfl
    exact hset
  · rintro refusal ⟨rfl, hkind⟩
    exact .inl (.ofSetting hknown hset hkind)

theorem Section.From.get_given (hs : s.From root name) (hread : Reads read kind tag)
    (hknown : (name, field, kind) ∈ settingKinds) :
    Ends (s.get field default read) (Given root name field tag default) (Faulty root) :=
  hs.get_ends (fun hnone => .inl ⟨hnone, rfl⟩) fun v hset =>
    (reads_setting hread hknown v hset).imp (fun _ => .inr) fun _ => id

theorem Section.From.require_ends (hs : s.From root name) (hread : Reads read kind tag)
    (hknown : (name, field, kind) ∈ settingKinds) (hrequired : (name, field) ∈ requiredSettings) :
    Ends (s.require field read) (fun a => setting? root name field = some (tag a))
      (Faulty root) := by
  obtain ⟨rfl, hsettings⟩ := hs
  rw [Section.require, hsettings field]
  rcases hfound : setting? root s.name field with _ | v
  · exact .inr (.noSetting hrequired hfound)
  · have hread := reads_setting hread hknown v hfound
    rwa [hfound] at hread

end

theorem optional_string_ends {setting : String} (v : Value) :
    Ends (optionalString setting v)
      (fun extension => v = .null ∧ extension = none ∨ ∃ e, v = .text e ∧ extension = some e)
      fun refusal => refusal = .wrongKind setting .string ∧ v ≠ .null ∧
        Kind.string.has v = false := by
  cases v with
  | null => exact .inl ⟨rfl, rfl⟩
  | text e => exact .inr ⟨e, rfl, rfl⟩
  | _ => exact ⟨rfl, nofun, rfl⟩

theorem names_from_ends (setting : String) (items : List Value) (i : Nat) :
    Ends (namesFrom setting i items)
      (fun names => ∃ texts : List String, items = texts.map .text ∧ names = listed texts)
      fun refusal => ∃ j v, items[j]? = some v ∧ Kind.string.has v = false ∧
        refusal = .wrongKind s!"{setting}[{i + j}]" .string := by
  induction items generalizing i with
  | nil => exact ⟨[], rfl, rfl⟩
  | cons item items ih =>
    cases item with
    | text name =>
      rw [namesFrom]
      refine ((ih (i + 1)).imp (fun _ => id) ?_).bind ?_
      · rintro refusal ⟨j, v, hitem, hkind, rfl⟩
        exact ⟨j + 1, v, hitem, hkind, by rw [Nat.add_right_comm, Nat.add_assoc]⟩
      · rintro rest ⟨texts, rfl, rfl⟩
        refine ⟨name :: texts, rfl, ?_⟩
        by_cases hblank : Text.allBlank name.toList = true <;>
          simp [listed, isBlankText, hblank]
    | _ => exact ⟨0, _, rfl, rfl, rfl⟩

theorem names_ends (hknown : (name, field, .list) ∈ settingKinds) {default : List String}
    (v : Value) (hset : setting? root name field = some v) :
    Ends (names s!"{name}.{field}" v) (Listed root name field default) (Faulty root) := by
  cases v with
  | list items =>
    refine (names_from_ends s!"{name}.{field}" items 0).imp ?_ ?_
    · rintro names ⟨texts, rfl, rfl⟩
      exact .inr ⟨texts, hset, rfl⟩
    · rintro refusal ⟨j, v, hitem, hkind, rfl⟩
      rw [Nat.zero_add]
      exact .inl (.ofItem hknown hset hitem hkind)
  | _ => exact .inl (.ofSetting hknown hset rfl)

theorem sources_from_ends (seen : List SourceName) (names : List String) :
    Ends (sourcesFrom seen names)
      (fun found => found.map SourceName.text =
        (names.filter fun name => name ∉ seen.map SourceName.text).eraseDups)
      fun refusal => ∃ name ∈ names, name ∉ SourceName.all.map SourceName.text ∧
        refusal = .unknownSource name := by
  induction names generalizing seen with
  | nil => exact rfl
  | cons name names ih =>
    have hlater (refusal : Refusal)
        (h : ∃ other ∈ names, other ∉ SourceName.all.map SourceName.text ∧
          refusal = .unknownSource other) :
        ∃ other ∈ name :: names, other ∉ SourceName.all.map SourceName.text ∧
          refusal = .unknownSource other := by
      obtain ⟨other, hother, h⟩ := h
      exact ⟨other, List.mem_cons_of_mem _ hother, h⟩
    rw [sourcesFrom]
    rcases hsource : SourceName.ofText? name with _ | source
    · exact ⟨name, List.mem_cons_self, SourceName.of_text_none.1 hsource, rfl⟩
    obtain rfl := SourceName.of_text_eq.1 hsource
    dsimp only
    split
    case isTrue hmem =>
      refine (ih seen).imp (fun found hfound => ?_) hlater
      rw [hfound, List.filter_cons_of_neg (by simpa using hmem)]
    case isFalse hmem =>
      refine ((ih (source :: seen)).imp (fun _ => id) hlater).bind fun more hmore => ?_
      change source.text :: more.map SourceName.text = _
      rw [hmore, List.filter_cons_of_pos (by simpa using hmem), List.eraseDups_cons,
        List.filter_filter]
      congr 3
      funext other
      by_cases hother : other = source.text <;> simp [hother]

theorem erase_dups_nil {names : List String} (h : names.eraseDups = []) : names = [] := by
  cases names with
  | nil => rfl
  | cons name names =>
    rw [List.eraseDups_cons] at h
    cases h

theorem read_sources_ends (v : Value) (hset : setting? root "search" "sources" = some v) :
    Ends (readSources "search.sources" v)
      (fun sources => ∃ names, SourcesListed root names ∧
        sources.map SourceName.text = names.eraseDups)
      (Faulty root) := by
  have hnames : Ends (names "search.sources" v) (SourcesListed root) (Faulty root) :=
    names_ends (by decide) v hset
  refine hnames.bind fun names hnames => ?_
  have hfound : Ends (sourcesFrom [] names)
      (fun found => found.map SourceName.text = names.eraseDups) (Faulty root) := by
    refine (sources_from_ends [] names).imp (fun found hfound => ?_) ?_
    · simpa [List.filter_eq_self.2] using hfound
    rintro refusal ⟨name, hname, hunknown, rfl⟩
    exact .inr (.unknownSource hnames hname hunknown)
  refine hfound.bind fun found hfound => ?_
  cases found with
  | nil =>
    obtain rfl := erase_dups_nil hfound.symm
    exact .inr (.noSources hnames)
  | cons source found => exact ⟨names, hnames, hfound⟩

structure ReadFrom (root : Entries) (c : Config) : Prop where
  log : HasSection root "log"
  logLevel : ∃ level, setting? root "log" "level" = some (.text level) ∧
    c.logLevel = String.ofList (Text.upper level.toList)
  logToFile : Given root "log" "to_file" .bool false c.logToFile
  logFolder : Given root "log" "dir" .text "log" c.logFolder
  search : HasSection root "search"
  extension : ∃ extension, c.extension = tidyExtension extension ∧
    (extension = none ∧
        (setting? root "search" "extension" = none ∨
          setting? root "search" "extension" = some .null) ∨
      ∃ e, extension = some e ∧ setting? root "search" "extension" = some (.text e))
  sources : ∃ names, SourcesListed root names ∧ c.sources.map SourceName.text = names.eraseDups
  workers : Given root "search" "max_workers" .int 4 c.workers
  sanitizes : Given root "search" "sanitize_names" .bool true c.sanitizes
  dump : MayHaveSection root "dump"
  dumpPath : Given root "dump" "path" .text "" c.dumpPath
  storage : HasSection root "storage"
  storageEnabled : setting? root "storage" "enabled" = some (.bool c.storageEnabled)
  databasePath : Given root "storage" "db_path" .text "database/known.db" c.databasePath
  output : MayHaveSection root "output"
  outputFolder : Given root "output" "base_dir" .text "output" c.outputFolder
  formats : FormatsListed root c.formats

theorem read_sections_ends (root : Entries) :
    Ends (readSections root) (ReadFrom root) (Faulty root) := by
  refine (require_section_ends (by decide)).bind fun log ⟨hlog, hasLog⟩ => ?_
  refine (hlog.require_ends string_reads (by decide) (by decide)).bind fun level hlevel => ?_
  refine (hlog.get_given boolean_reads (by decide)).bind fun toFile htoFile => ?_
  refine (hlog.get_given string_reads (by decide)).bind fun logFolder hlogFolder => ?_
  refine (require_section_ends (by decide)).bind fun search ⟨hsearch, hasSearch⟩ => ?_
  have hextension : Ends (search.get "extension" none optionalString)
      (fun extension => extension = none ∧
          (setting? root "search" "extension" = none ∨
            setting? root "search" "extension" = some .null) ∨
        ∃ e, extension = some e ∧ setting? root "search" "extension" = some (.text e))
      (Faulty root) := by
    refine hsearch.get_ends (fun hnone => .inl ⟨rfl, .inl hnone⟩) fun v hset => ?_
    refine (optional_string_ends v).imp ?_ ?_
    · rintro extension (⟨rfl, rfl⟩ | ⟨e, rfl, rfl⟩)
      · exact .inl ⟨rfl, .inr hset⟩
      · exact .inr ⟨e, rfl, hset⟩
    · rintro refusal ⟨rfl, hnull, hkind⟩
      exact .inl (.ofExtension hset hnull hkind)
  refine hextension.bind fun extension hextension => ?_
  have hsources : Ends (search.get "sources" [.known] readSources)
      (fun sources => ∃ names, SourcesListed root names ∧
        sources.map SourceName.text = names.eraseDups)
      (Faulty root) :=
    hsearch.get_ends (fun hnone => ⟨["known"], .inl ⟨hnone, rfl⟩, by decide⟩) read_sources_ends
  refine hsources.bind fun sources hsources => ?_
  refine (hsearch.get_given integer_reads (by decide)).bind fun workers hworkers => ?_
  refine (hsearch.get_given boolean_reads (by decide)).bind fun sanitizes hsanitizes => ?_
  refine (optional_section_ends (by decide)).bind fun dump ⟨hdump, hasDump⟩ => ?_
  refine (hdump.get_given string_reads (by decide)).bind fun dumpPath hdumpPath => ?_
  refine (require_section_ends (by decide)).bind fun storage ⟨hstorage, hasStorage⟩ => ?_
  refine (hstorage.require_ends boolean_reads (by decide) (by decide)).bind
    fun enabled henabled => ?_
  refine (hstorage.get_given string_reads (by decide)).bind fun databasePath hdatabasePath => ?_
  refine (optional_section_ends (by decide)).bind fun output ⟨houtput, hasOutput⟩ => ?_
  refine (houtput.get_given string_reads (by decide)).bind fun outputFolder houtputFolder => ?_
  have hformats : Ends (output.get "formats" ["console"] names) (FormatsListed root)
      (Faulty root) :=
    houtput.get_ends (fun hnone => .inl ⟨hnone, rfl⟩) (names_ends (by decide))
  refine hformats.bind fun formats hformats => ?_
  exact
    { log := hasLog
      logLevel := ⟨level, hlevel, rfl⟩
      logToFile := htoFile
      logFolder := hlogFolder
      search := hasSearch
      extension := ⟨extension, rfl, hextension⟩
      sources := hsources
      workers := hworkers
      sanitizes := hsanitizes
      dump := hasDump
      dumpPath := hdumpPath
      storage := hasStorage
      storageEnabled := henabled
      databasePath := hdatabasePath
      output := hasOutput
      outputFolder := houtputFolder
      formats := hformats }

structure Sound (c : Config) : Prop where
  level : c.logLevel ∈ levels
  logFolder : c.logToFile = true → isBlankText c.logFolder = false
  workers : 0 < c.workers
  sources : c.sources ≠ []
  database : c.storageEnabled = true → isBlankText c.databasePath = false
  formats : c.formats ≠ []
  knownFormats : ∀ format ∈ c.formats, format ∈ knownFormats
  outputFolder : "json" ∈ c.formats → isBlankText c.outputFolder = false
  history : .known ∈ c.sources → c.storageEnabled = true
  dump : .dump ∈ c.sources → isBlankText c.dumpPath = false

theorem insert_name_ne_nil (name : String) (names : List String) : insertName name names ≠ [] := by
  cases names with
  | nil => nofun
  | cons other rest =>
    rw [insertName]
    split
    · nofun
    · split <;> nofun

theorem unknown_formats_nil {formats : List String} :
    unknownFormats formats = [] ↔ ∀ format ∈ formats, format ∈ knownFormats := by
  have hnil (names : List String) : names.foldr insertName [] = [] ↔ names = [] := by
    cases names with
    | nil => simp
    | cons name names => simp [insert_name_ne_nil]
  simp [unknownFormats, hnil]

theorem check_ends {c : Config} (h : ReadFrom root c) :
    Ends (check c) (fun _ => Sound c) (Faulty root) := by
  obtain ⟨names, hnames, hsources⟩ := h.sources
  have hasks (source : SourceName) (hsource : source ∈ c.sources) : Asks root source := by
    refine ⟨names, hnames, ?_⟩
    rw [← List.mem_eraseDups, ← hsources]
    exact List.mem_map_of_mem hsource
  have hsearch : Ends (checkSearch c.workers (!c.sources.isEmpty))
      (fun _ => 0 < c.workers ∧ c.sources ≠ []) (Faulty root) := by
    refine (refuse_if_ends fun hfew => ?_).bind fun _ hworkers => ?_
    · rcases h.workers with ⟨-, hdefault⟩ | hset
      · simp [hdefault] at hfew
      · exact .inr (.badWorkers hset (by simpa using hfew))
    · refine (refuse_if_ends fun hempty => ?_).imp (fun _ hsome => ?_) fun _ => id
      · have hnil : c.sources = [] := by simpa using hempty
        rw [hnil] at hsources
        obtain rfl := erase_dups_nil hsources.symm
        exact .inr (.noSources hnames)
      · exact ⟨by simpa using hworkers, by simpa using hsome⟩
  refine (refuse_if_ends fun hunknown => ?_).bind fun _ hlevel => ?_
  · obtain ⟨level, hset, heq⟩ := h.logLevel
    exact .inr (.badLevel hset (by simpa [heq] using hunknown))
  refine (refuse_if_ends fun hblank => ?_).bind fun _ hlogFolder => ?_
  · obtain ⟨htoFile, hblank⟩ := Bool.and_eq_true_iff.1 hblank
    rcases h.logToFile with ⟨-, hdefault⟩ | hset
    · rw [hdefault] at htoFile
      cases htoFile
    · exact .inr (.blankLogFolder (htoFile ▸ hset) (h.logFolder.blank (by decide) hblank))
  refine hsearch.bind fun _ ⟨hworkers, hsome⟩ => ?_
  refine (refuse_if_ends fun hblank => ?_).bind fun _ hdatabase => ?_
  · obtain ⟨henabled, hblank⟩ := Bool.and_eq_true_iff.1 hblank
    exact .inr (.blankDatabase (henabled ▸ h.storageEnabled)
      (h.databasePath.blank (by decide) hblank))
  refine (refuse_if_ends fun hempty => ?_).bind fun _ hformats => ?_
  · have hnil : c.formats = [] := by simpa using hempty
    exact .inr (.noFormats (hnil ▸ h.formats))
  refine (refuse_if_ends fun hunknown => ?_).bind fun _ hknown => ?_
  · exact .inr (.unknownFormats h.formats (by simpa [unknown_formats_nil] using hunknown))
  refine (refuse_if_ends fun hblank => ?_).bind fun _ houtputFolder => ?_
  · obtain ⟨hjson, hblank⟩ := Bool.and_eq_true_iff.1 hblank
    exact .inr (.blankOutputFolder h.formats (by simpa using hjson)
      (h.outputFolder.blank (by decide) hblank))
  refine (refuse_if_ends fun hdisabled => ?_).bind fun _ hhistory => ?_
  · obtain ⟨hasked, hdisabled⟩ := Bool.and_eq_true_iff.1 hdisabled
    have henabled : c.storageEnabled = false := by simpa using hdisabled
    exact .inr (.historyDisabled (hasks _ (by simpa using hasked)) (henabled ▸ h.storageEnabled))
  refine (refuse_if_ends fun hblank => ?_).imp (fun _ hdump => ?_) fun _ => id
  · obtain ⟨hasked, hblank⟩ := Bool.and_eq_true_iff.1 hblank
    refine .inr (.blankDump (hasks _ (by simpa using hasked)) ?_)
    rcases h.dumpPath with ⟨hnone, -⟩ | hset
    · exact .inl hnone
    · exact .inr ⟨_, hset, hblank⟩
  · exact
      { level := by simpa using hlevel
        logFolder := by simpa using hlogFolder
        workers := hworkers
        sources := hsome
        database := by simpa using hdatabase
        formats := by simpa using hformats
        knownFormats := by simpa [unknown_formats_nil] using hknown
        outputFolder := by simpa using houtputFolder
        history := by simpa using hhistory
        dump := by simpa using hdump }

theorem of_entries_ends (root : Entries) :
    Ends (ofEntries root) (fun c => ReadFrom root c ∧ Sound c) (Faulty root) := by
  refine (read_sections_ends root).bind fun c hread => ?_
  exact (check_ends hread).bind fun _ hsound => ⟨hread, hsound⟩

theorem of_entries_ok {c : Config} (h : ofEntries root = .ok c) : ReadFrom root c ∧ Sound c := by
  have hends := of_entries_ends root
  rwa [h] at hends

theorem of_entries_error {refusal : Refusal} (h : ofEntries root = .error refusal) :
    Faulty root refusal := by
  have hends := of_entries_ends root
  rwa [h] at hends

end

end Config

end FileSearch
