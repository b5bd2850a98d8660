import FileSearch.Output.Writer
import FileSearch.Proofs.Config.Reading
import FileSearch.Proofs.History.Recounting
import FileSearch.Proofs.Search.Storage

/-!
# Wiring a configuration

A configuration that was read can be put to work: the refusals of the parts that a search is
built from are for settings that no reading lets through.
-/

set_option autoImplicit false

namespace FileSearch

open Yaml

namespace Search

def Source.named (dumpPath : String) : SourceName → Source
  | .known => .known
  | .dump => .dump { path := .ofString dumpPath }

theorem Source.named_name (dumpPath : String) (name : SourceName) :
    (Source.named dumpPath name).name? = some name.text := by
  cases name <;> rfl

theorem Source.of_name_ok {dumpPath : String} {hasStore : Bool} {name : SourceName}
    (h : name = .known → hasStore = true) :
    Source.ofName name.text dumpPath hasStore = .ok (Source.named dumpPath name) := by
  cases name with
  | known =>
    rw [h rfl]
    rfl
  | dump => rfl

theorem of_config_ok {config : Config} {hasStore : Bool}
    (h : .known ∈ config.sources → hasStore = true) :
    Service.ofConfig config hasStore = .ok
      { sources := config.sources.map (Source.named config.dumpPath)
        recorder := if hasStore then .history else .nothing
        sanitizes := config.sanitizes
        workers := config.workers } := by
  have hsources : config.sources.mapM
      (fun name => Source.ofName name.text config.dumpPath hasStore) =
        .ok (config.sources.map (Source.named config.dumpPath)) := by
    generalize config.sources = names at h
    induction names with
    | nil => rfl
    | cons name names ih =>
      have hname : name = .known → hasStore = true := by
        rintro rfl
        exact h List.mem_cons_self
      rw [List.mapM_cons, Source.of_name_ok hname, ih fun hmem => h (List.mem_cons_of_mem _ hmem)]
      rfl
  rw [Service.ofConfig, hsources]
  rfl

theorem open_storage_stored {config : Config} {hasStore : Bool} {s t : Session}
    (h : (openStorage config).perform s = (.ok hasStore, t)) :
    hasStore = config.storageEnabled := by
  cases henabled : config.storageEnabled with
  | true => exact (open_storage_ok henabled h).1
  | false =>
    rw [openStorage, henabled] at h
    cases h
    rfl

end Search

namespace Output

def Writer.format : Writer → String
  | .console => "console"
  | .json _ => "json"

def Writer.among (formats : List String) (base : String) : List Writer :=
  (if formats.contains "console" then [.console] else []) ++
    (if formats.contains "json" then [.json (.below base)] else [])

theorem among_formats (formats : List String) (base format : String) :
    format ∈ (Writer.among formats base).map Writer.format ↔
      format ∈ formats ∧ format ∈ Config.knownFormats := by
  simp only [Writer.among, List.contains_iff_mem, List.map_append, List.mem_append,
    Config.knownFormats, List.mem_cons, List.not_mem_nil, or_false]
  have hone (name : String) (writer : Writer) (hname : writer.format = name) :
      format ∈ (if name ∈ formats then [writer] else []).map Writer.format ↔
        format ∈ formats ∧ format = name := by
    by_cases hmem : name ∈ formats
    · simp only [if_pos hmem, List.map_cons, List.map_nil, List.mem_singleton, hname]
      exact ⟨fun heq => ⟨heq ▸ hmem, heq⟩, And.right⟩
    · simp only [if_neg hmem, List.map_nil, List.not_mem_nil, false_iff]
      rintro ⟨hformat, rfl⟩
      exact hmem hformat
  rw [hone "console" .console rfl, hone "json" (.json (.below base)) rfl, and_or_left]

theorem among_once (formats : List String) (base : String) :
    ((Writer.among formats base).map Writer.format).Nodup := by
  rw [Writer.among]
  split <;> split <;> simp [Writer.format]

theorem among_some {formats : List String} (base : String) (hsome : formats ≠ [])
    (hknown : ∀ format ∈ formats, format ∈ Config.knownFormats) :
    Writer.among formats base ≠ [] := by
  obtain ⟨format, hformat⟩ := List.exists_mem_of_ne_nil formats hsome
  have hmem := (among_formats formats base format).2 ⟨hformat, hknown format hformat⟩
  obtain ⟨writer, hwriter, -⟩ := List.mem_map.1 hmem
  exact List.ne_nil_of_mem hwriter

theorem of_formats_ok {formats : List String} {base : String}
    (h : Writer.among formats base ≠ []) :
    Writer.ofFormats formats base = .ok (Writer.among formats base) := by
  change (if (Writer.among formats base).isEmpty then _ else _) = _
  exact if_neg (by simpa using h)

end Output

namespace Log

def standardLevels : List Level := [debug, info, warning, error, critical]

theorem level_named_standard {name : String} (h : name ∈ Config.levels) :
    levelNamed name ∈ standardLevels ∧ levelName (levelNamed name) = name := by
  have hall : ∀ name ∈ Config.levels,
      levelNamed name ∈ standardLevels ∧ levelName (levelNamed name) = name := by decide
  exact hall name h

end Log

namespace Config

open Search Output

structure Wired (root : Entries) (c : Config) (service : Service) (writers : List Writer) :
    Prop where
  /-- One source for each name that is listed, where it is listed first. -/
  sources : ∃ names, SourcesListed root names ∧ c.sources.map SourceName.text = names.eraseDups ∧
    service.sources.map Source.name? = names.eraseDups.map some
  distinct : (service.sources.map Source.name?).Nodup
  someSource : service.sources ≠ []
  dumps : ∀ d, .dump d ∈ service.sources →
    d.path = .ofString c.dumpPath ∧ isBlankText c.dumpPath = false
  workers : service.workers = c.workers ∧ 0 < c.workers
  database : c.storageEnabled = true → isBlankText c.databasePath = false
  formats : ∀ format, format ∈ writers.map Writer.format ↔ format ∈ c.formats
  oneEach : (writers.map Writer.format).Nodup
  someWriter : writers ≠ []
  level : Log.levelName (Log.levelNamed c.logLevel) = c.logLevel
  console : ∀ action now files setup later,
    Log.configure c.logLevel action c.logToFile c.logFolder now files = .ok (setup, later) →
      setup.console = Log.levelNamed c.logLevel ∧ setup.console ∈ Log.standardLevels

/-- Whatever settings are read, if the history opens where it is to be stored, then a search
has all its sources and writers. -/
theorem of_entries_wired {root : Entries} {c : Config} {hasStore : Bool} {s t : Session}
    (h : ofEntries root = .ok c) (hopen : (openStorage c).perform s = (.ok hasStore, t)) :
    hasStore = c.storageEnabled ∧ ∃ service writers,
      Service.ofConfig c hasStore = .ok service ∧
      Writer.ofFormats c.formats c.outputFolder = .ok writers ∧
      Wired root c service writers := by
  obtain ⟨hread, hsound⟩ := of_entries_ok h
  have hstored : hasStore = c.storageEnabled := open_storage_stored hopen
  have hservice := of_config_ok fun hknown => hstored.trans (hsound.history hknown)
  have hwriters := among_some c.outputFolder hsound.formats hsound.knownFormats
  have hformats (format : String) :
      format ∈ (Writer.among c.formats c.outputFolder).map Writer.format ↔ format ∈ c.formats := by
    rw [among_formats]
    exact and_iff_left_of_imp (hsound.knownFormats format)
  obtain ⟨names, hnames, hsources⟩ := hread.sources
  have hnamed : (c.sources.map (Source.named c.dumpPath)).map Source.name? =
      names.eraseDups.map some := by
    rw [← hsources, List.map_map, List.map_map]
    exact List.map_congr_left fun name _ => Source.named_name c.dumpPath name
  obtain ⟨hstandard, hlevel⟩ := Log.level_named_standard hsound.level
  refine ⟨hstored, _, _, hservice, of_formats_ok hwriters, ?_⟩
  exact
    { sources := ⟨names, hnames, hsources, hnamed⟩
      distinct := by
        rw [hnamed]
        exact (History.nodup_erase_dups names).map (Option.some_injective _)
      someSource := fun hnone => hsound.sources (List.map_eq_nil_iff.1 hnone)
      dumps := by
        intro d hmem
        obtain ⟨name, hname, hdump⟩ := List.mem_map.1 hmem
        cases name with
        | known => cases hdump
        | dump =>
          cases hdump
          exact ⟨rfl, hsound.dump hname⟩
      workers := ⟨rfl, hsound.workers⟩
      database := hsound.database
      formats := hformats
      oneEach := among_once c.formats c.outputFolder
      someWriter := hwriters
      level := hlevel
      console := by
        intro action now files setup later hlog
        have hconsole := (Log.configure_ok hlog).1
        exact ⟨hconsole, hconsole ▸ hstandard⟩ }

def untidy : Entries :=
  [("log", .mapping [("level", .text "warning")]),
   ("search", .mapping
      [("sources", .list [.text " Dump ", .text "", .text "KNOWN", .text "dump"])]),
   ("dump", .mapping [("path", .text "h")]),
   ("storage", .mapping [("enabled", .bool true)]),
   ("output", .mapping [("formats", .list [.text "JSON", .text "json "])])]

def untidyConfig : Config where
  logLevel := "WARNING"
  logToFile := false
  logFolder := "log"
  sources := [.dump, .known]
  workers := 4
  sanitizes := true
  extension := none
  dumpPath := "h"
  storageEnabled := true
  databasePath := "database/known.db"
  outputFolder := "output"
  formats := ["json", "json"]

theorem untidy_wired :
    ofEntries untidy = .ok untidyConfig ∧
      ((openStorage untidyConfig).perform {}).1 = .ok true ∧ ∃ service writers,
        Service.ofConfig untidyConfig true = .ok service ∧
        Writer.ofFormats untidyConfig.formats untidyConfig.outputFolder = .ok writers ∧
        Wired untidy untidyConfig service writers := by
  have hread : ofEntries untidy = .ok untidyConfig := by decide +kernel
  have hstored : ((openStorage untidyConfig).perform {}).1 = .ok true := by decide +kernel
  have hopen : (openStorage untidyConfig).perform {} =
      (.ok true, ((openStorage untidyConfig).perform {}).2) := Prod.ext hstored rfl
  exact ⟨hread, hstored, (of_entries_wired hread hopen).2⟩

end Config

end FileSearch
