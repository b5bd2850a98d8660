import FileSearch.Command.Run
import FileSearch.Proofs.Search.Failing
import FileSearch.Proofs.Search.Isolating
import FileSearch.Proofs.Search.Storage

/-!
# Runs whose search fails

A run that fails in its search ends with a report and a number for the caller, and leaves
nothing behind but its log and, if there was none, an empty history. The failure passes
through the closing of the sources and of the connection, which drops what is not committed.
-/

set_option autoImplicit false

namespace FileSearch

open Search

theorem Action.perform_state {α : Type} (x : StateM Session α) (s : Session) :
    Action.perform (liftM x : Action α) s = (.ok (x.run s).1, (x.run s).2) := rfl

theorem Action.perform_result {α : Type} (x : Except Failure α) (s : Session) :
    Action.perform (liftM x : Action α) s = (x, s) := by
  cases x <;> rfl

namespace Search

theorem map_m_mem {α β ε : Type} {f : α → Except ε β} {xs : List α} {ys : List β}
    (h : xs.mapM f = .ok ys) {y : β} (hy : y ∈ ys) : ∃ x, f x = .ok y := by
  induction xs generalizing ys with
  | nil =>
    cases h
    cases hy
  | cons x xs ih =>
    rw [List.mapM_cons] at h
    cases hx : f x with
    | error e =>
      rw [hx] at h
      cases h
    | ok first =>
      cases hxs : xs.mapM f with
      | error e =>
        rw [hx, hxs] at h
        cases h
      | ok rest =>
        rw [hx, hxs] at h
        cases h
        rcases List.mem_cons.1 hy with rfl | hy
        · exact ⟨x, hx⟩
        · exact ih hxs hy

/-- The sources that a configuration names have names themselves. -/
theorem of_config_named {config : Config} {hasStore : Bool} {service : Service}
    (h : Service.ofConfig config hasStore = .ok service) :
    ∀ source ∈ service.sources, source.name?.isSome := by
  rw [Service.ofConfig] at h
  cases hsources : config.sources.mapM
      (fun name => Source.ofName name.text config.dumpPath hasStore) with
  | error e =>
    rw [hsources] at h
    cases h
  | ok sources =>
    rw [hsources] at h
    cases h
    intro source hmem
    obtain ⟨name, hname⟩ := map_m_mem hsources hmem
    rw [Source.ofName] at hname
    split at hname
    · cases hname
    · split at hname
      · cases hname
        rfl
      · cases hname
    · cases hname
      rfl

end Search

namespace Command

open Session

structure Attempt where
  invocation : Invocation
  query : String
  extension : Option String
  config : Config
  setup : Log.Setup
  /-- The files once the log file is made. -/
  files : Files
  hasStore : Bool
  /-- The session once the history is open. -/
  opened : Session
  service : Service
  writers : List Output.Writer

namespace Attempt

structure Made (a : Attempt) (arguments : List String) (s : Session) (around : Surroundings) :
    Prop where
  read : around.invocation s.files arguments = .ok a.invocation
  searches : a.invocation.command = .search a.query a.extension
  valid : Config.load s.files a.invocation.config (baseConfig s.files a.invocation.config)
    around.settings = .ok a.config
  enabled : a.config.storageEnabled = true
  logs : Log.configure a.config.logLevel searchName a.config.logToFile a.config.logFolder s.time
    s.files = .ok (a.setup, a.files)
  opens : (openStorage a.config).perform { s.restart with files := a.files } =
    (.ok a.hasStore, a.opened)
  builds : Service.ofConfig a.config a.hasStore = .ok a.service
  writes : Output.Writer.ofFormats a.config.formats a.config.outputFolder = .ok a.writers

def asking (a : Attempt) : Session :=
  a.opened.withNotes (a.opened.notes ++ [⟨Log.debug,
    announcement a.config a.query (extensionFor a.config a.extension)⟩])

end Attempt

section
variable {a : Attempt} {arguments : List String} {s t : Session} {around : Surroundings}
  {failure : Failure} {after : Service}

theorem search_with_failed (h : a.Made arguments s around)
    (hfail : (a.service.search a.query (extensionFor a.config a.extension) around.finishing).run
      a.asking = ((.error failure, after), t)) :
    ∃ notes, (searchWith a.config a.query a.extension around.finishing).perform
      { s.restart with files := a.files } = (.error failure, t.withNotes notes) := by
  have hperform : (perform a.config a.query (extensionFor a.config a.extension) a.writers
      a.service around.finishing).run a.opened = ((.error failure, after), t) := by
    rw [perform, StateT.run_bind]
    change StateT.run (a.service.search a.query (extensionFor a.config a.extension)
      around.finishing >>= _) a.asking = _
    rw [StateT.run_bind, hfail]
    rfl
  refine ⟨t.notes ++ after.closeNotes, ?_⟩
  rw [searchWith, Action.perform_bind, h.opens]
  simp only [h.builds, h.writes, Action.perform_bind, Action.perform_state, Action.perform_result,
    hperform, Service.close_run]

/-- The log is written after all else. -/
theorem search_logged_failed (h : a.Made arguments s around)
    (hfail : (a.service.search a.query (extensionFor a.config a.extension) around.finishing).run
      a.asking = ((.error failure, after), t)) :
    ∃ outcome time notes u, (searchLogged a.config a.query a.extension a.setup around).run
        { s.restart with files := a.files } = (outcome, u) ∧
      outcome.ending = .failure ∧ u.files = a.setup.save time notes t.files := by
  obtain ⟨notes, hsearch⟩ := search_with_failed h hfail
  have hstart : (searchWith a.config a.query a.extension around.finishing).run.run
      { s.restart with files := a.files } = (.error failure, t.withNotes notes) := hsearch
  rw [searchLogged, StateT.run_bind, hstart]
  exact ⟨_, _, _, _, rfl, rfl, rfl⟩

theorem run_read {invocation : Invocation}
    (hread : around.invocation s.files arguments = .ok invocation) (input : String) :
    (Command.run arguments input around).run s =
      (execute invocation input around).run s.restart := by
  have hfiles : around.invocation s.restart.files arguments = .ok invocation := hread
  simp only [Command.run, StateT.run_bind, StateT.run_get, StateT.run_modify, pure_bind, hfiles]

theorem run_search_valid {path : Path} {query : String} {extension : Option String}
    {config : Config} {setup : Log.Setup} {files : Files}
    (hvalid : Config.load s.files path (baseConfig s.files path) around.settings = .ok config)
    (hlogs : Log.configure config.logLevel searchName config.logToFile config.logFolder s.time
      s.files = .ok (setup, files)) :
    (runSearch path query extension around).run s =
      (searchLogged config query extension setup around).run { s with files } := by
  simp only [runSearch, StateT.run_bind, StateT.run_get, pure_bind, hvalid, hlogs]
  rfl

theorem run_failed (h : a.Made arguments s around)
    (hfail : (a.service.search a.query (extensionFor a.config a.extension) around.finishing).run
      a.asking = ((.error failure, after), t)) (input : String) :
    ∃ outcome time notes u, (Command.run arguments input around).run s = (outcome, u) ∧
      outcome.ending = .failure ∧ u.files = a.setup.save time notes t.files := by
  rw [run_read h.read, execute, h.searches]
  simp only [@run_search_valid s.restart _ _ _ _ _ _ _ h.valid h.logs]
  exact search_logged_failed h hfail

/-- A run whose search fails says so, writes no result file, and leaves to later runs the
history that it would have had before: the same rows, whatever these runs log and wherever
in the batch the search may have failed. -/
theorem failed_search_leaves (h : a.Made arguments s around)
    (hfail : (a.service.search a.query (extensionFor a.config a.extension) around.finishing).run
      a.asking = ((.error failure, after), t)) (input : String) :
    let result := (Command.run arguments input around).run s
    (result.1.ending = .failure ∧ result.1.ending.code = 1) ∧
    (∀ above name content,
      result.2.files.entry? (above ++ [name ++ ".json"]) = some (.text content) →
        s.files.entry? (above ++ [name ++ ".json"]) = some (.text content)) ∧
    ∀ before rows, remembered a.config before s.files = .ok rows →
      ∀ (other : Config) later setup files, other.storageEnabled = true →
        other.databasePath = a.config.databasePath →
        Log.configure other.logLevel searchName other.logToFile other.logFolder later
          result.2.files = .ok (setup, files) →
        ∀ now, remembered other now files = .ok rows := by
  obtain ⟨outcome, time, notes, u, hrun, hending, hfiles⟩ := run_failed h hfail input
  obtain ⟨rows, hbegins⟩ := open_storage_begins rfl h.enabled h.opens
  have hasked : t.files = a.asking.files := search_failed_files (of_config_named h.builds) hfail
  have hsearch : t.files = a.opened.files := hasked
  have hlogged : Log.Logged a.opened.files u.files := by
    rw [hfiles, hsearch]
    exact Log.save_logged h.logs time notes a.opened.files
  rw [hrun]
  refine ⟨⟨hending, by rw [hending]; rfl⟩, ?_, ?_⟩
  · intro above name content htext
    have hname : ∀ other last, above ++ [name ++ ".json"] ≠ other ++ [last ++ Log.ending] := by
      intro other last heq
      have hlast : name ++ ".json" = last ++ Log.ending := by
        have hback := congrArg List.getLast? heq
        rw [List.getLast?_concat, List.getLast?_concat] at hback
        exact Option.some.inj hback
      have hback := Log.ending_back last
      rw [← hlast, String.toList_append, List.getLast?_append] at hback
      exact absurd (Option.some.inj hback) (by decide)
    have hopened := hlogged.texts _ content hname htext
    exact (Log.configure_logged h.logs).texts _ content hname (hbegins.texts _ content hopened)
  · intro before found hbefore other later setup files henabled hpath hlog now
    have hrows : rows = .ok found :=
      finds_configured h.logs (remembered_finds h.enabled hbefore) hbegins.finds
    have hholds := holds_logged (Log.configure_logged hlog) (holds_logged hlogged hbegins.holds)
    rw [hrows, ← hpath] at hholds
    exact holds_remembered henabled hholds now

end

def oversizedArguments : List String := ["--config", "c.yml", "search", "a"]

def oversizedConfig : Config where
  logLevel := "INFO"
  logToFile := true
  logFolder := "log"
  sources := [.dump]
  workers := 4
  sanitizes := true
  extension := none
  dumpPath := "h"
  storageEnabled := true
  databasePath := "database/known.db"
  outputFolder := "output"
  formats := ["json"]

def oversized : Session :=
  let settings :=
    "log: \x7blevel: INFO, to_file: on\x7d\nsearch: \x7bsources: [dump]\x7d\n" ++
    "dump: \x7bpath: h\x7d\nstorage: \x7benabled: on\x7d\noutput: \x7bformats: [json]\x7d\n"
  let hits :=
    "[\x7b\"hash\":\"h\",\"size\":7,\"name\":\"a\"\x7d," ++
    "\x7b\"hash\":\"h\",\"size\":9223372036854775808,\"name\":\"a\"\x7d]"
  let rows : List History.Row := [⟨⟨"h", 7, "a"⟩, 2, 1, 1⟩]
  { files := ⟨[(["c.yml"], .text settings), (["h"], .text hits), (["database"], .folder),
      (["database", "known.db"],
        .database ⟨1, [(History.knownName, .known rows)], [History.recencyIndex]⟩)]⟩ }

def oversizedLog : Log.Setup × Files :=
  match Log.configure "INFO" searchName true "log" oversized.time oversized.files with
  | .ok made => made
  | .error _ => (⟨Log.info, none⟩, {})

def oversizedAttempt : Attempt where
  invocation := ⟨"c.yml", .search "a" none⟩
  query := "a"
  extension := none
  config := oversizedConfig
  setup := oversizedLog.1
  files := oversizedLog.2
  hasStore := true
  opened := ((openStorage oversizedConfig).perform
    { oversized.restart with files := oversizedLog.2 }).2
  service := { sources := [.dump { path := .ofString "h" }], recorder := .history }
  writers := [.json (.below "output")]

theorem oversized_valid :
    Config.load oversized.files (.ofString "c.yml")
      (baseConfig oversized.files (.ofString "c.yml")) = .ok oversizedConfig := by
  decide +kernel

theorem oversized_made : oversizedAttempt.Made oversizedArguments oversized .program := by
  constructor
  case read => decide +kernel
  case searches => rfl
  case valid => exact oversized_valid
  case enabled => rfl
  case logs =>
    have hok : (Log.configure "INFO" searchName true "log" oversized.time
        oversized.files).isOk = true := by decide +kernel
    change Log.configure "INFO" searchName true "log" oversized.time oversized.files =
      .ok oversizedLog
    rw [oversizedLog]
    cases hlog : Log.configure "INFO" searchName true "log" oversized.time oversized.files with
    | ok made => rfl
    | error refusal =>
      rw [hlog] at hok
      cases hok
  case opens => exact Prod.ext (by decide +kernel) rfl
  case builds => rfl
  case writes => rfl

theorem oversized_search_leaves :
    oversizedAttempt.Made oversizedArguments oversized .program ∧ ∃ failure after t,
      (oversizedAttempt.service.search "a" none).run oversizedAttempt.asking =
        ((.error failure, after), t) ∧
      ((Command.run oversizedArguments "").run oversized).1.ending = .failure ∧
      ∀ later setup files, Log.configure "INFO" searchName true "log" later
          ((Command.run oversizedArguments "").run oversized).2.files = .ok (setup, files) →
        remembered oversizedConfig 0 files = .ok [⟨⟨"h", 7, "a"⟩, 2, 1, 1⟩] := by
  refine ⟨oversized_made, ?_⟩
  have hfails : ((oversizedAttempt.service.search "a" none).run oversizedAttempt.asking).1.1.isOk =
      false := by decide +kernel
  have hbefore : remembered oversizedConfig 0 oversized.files = .ok [⟨⟨"h", 7, "a"⟩, 2, 1, 1⟩] := by
    decide +kernel
  rcases hsearch : (oversizedAttempt.service.search "a" none).run oversizedAttempt.asking with
    ⟨⟨failure | hits, after⟩, t⟩
  · obtain ⟨⟨hending, -⟩, -, hrows⟩ := failed_search_leaves oversized_made hsearch ""
    exact ⟨failure, after, t, rfl, hending, fun later setup files hlog =>
      hrows 0 _ hbefore oversizedConfig later setup files rfl rfl hlog 0⟩
  · rw [hsearch] at hfails
    cases hfails

end Command

end FileSearch
