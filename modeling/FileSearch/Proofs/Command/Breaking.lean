import FileSearch.Proofs.Command.Failing

/-!
# Runs that break off

A run reports what goes wrong while it searches, but not all that goes wrong before. It breaks
off without a word where its surroundings find that the name of its configuration cannot be
looked up, that the environment cannot be loaded, or that settings are no YAML or hold a value
whose fault is not explained, and where the file of its log cannot be made. Every other run ends
by itself.
-/

set_option autoImplicit false

namespace FileSearch

namespace Config

section
variable {read : Reader} {files : Files} {path defaults : Path} {fault : Yaml.Fault}

def NoYaml (read : Reader) (files : Files) (path : Path) (fault : Yaml.Fault) : Prop :=
  ∃ text, files.readText path = .ok text ∧
    read (String.ofList (Text.unifyNewlines text.toList)) = .error fault

inductive FaultFound (read : Reader) (files : Files) (path defaults : Path) (fault : Yaml.Fault) :
    Prop
  | base (hfault : NoYaml read files defaults fault)
  | override {entries : Yaml.Entries} (hother : path ≠ defaults)
    (hbase : readSettings files defaults read = .ok entries)
    (hfault : NoYaml read files path fault)

theorem parse_no_yaml (entries : Yaml.Entries) (fault : Yaml.Fault) :
    parse entries ≠ .error (.yaml fault) := by
  rw [parse]
  cases ofEntries entries with
  | ok config => exact nofun
  | error refusal => exact nofun

theorem settings_yaml {text : String} :
    settings text read = .error (.yaml fault) ↔ read text = .error fault := by
  rw [settings]
  cases read text with
  | error other => simp
  | ok value =>
    cases value with
    | mapping entries => simp
    | _ =>
      dsimp only
      split <;> simp

theorem read_settings_yaml :
    readSettings files path read = .error (.yaml fault) ↔ NoYaml read files path fault := by
  rw [readSettings, NoYaml]
  cases files.readText path with
  | error refusal => simp
  | ok text => simp [settings_yaml]

theorem load_yaml :
    load files path defaults read = .error (.yaml fault) ↔
      FaultFound read files path defaults fault := by
  rw [load]
  constructor
  · intro h
    cases hbase : readSettings files defaults read with
    | error failure =>
      rw [hbase] at h
      cases h
      exact .base (read_settings_yaml.1 hbase)
    | ok entries =>
      simp only [hbase, bind, Except.bind] at h
      by_cases hsame : path = defaults
      · rw [if_pos hsame] at h
        exact absurd h (parse_no_yaml entries fault)
      · rw [if_neg hsame] at h
        cases hoverride : readSettings files path read with
        | error failure =>
          rw [hoverride] at h
          cases h
          exact .override hsame hbase (read_settings_yaml.1 hoverride)
        | ok others =>
          rw [hoverride] at h
          exact absurd h (parse_no_yaml _ fault)
  · rintro (hfault | ⟨hother, hbase, hfault⟩)
    · rw [read_settings_yaml.2 hfault]
      rfl
    · simp only [hbase, bind, Except.bind, if_neg hother, read_settings_yaml.2 hfault]

end

end Config

namespace Log

inductive Unmade (files : Files) (folder file : Path) (refusal : Files.Refusal) : Prop
  | folder (hfolder : files.ensureFolders folder = .error refusal)
  | file {made : Files} (hfolder : files.ensureFolders folder = .ok made)
    (hfile : made.appendText file "" = .error refusal)

theorem configure_refused {level action folder : String} {toFile : Bool} {time : Calendar}
    {files : Files} {refusal : Files.Refusal} (haction : action.isEmpty = false) :
    configure level action toFile folder time files = .error refusal ↔
      toFile = true ∧
        Unmade files (actionFolder action folder) (filePath action folder time) refusal := by
  rw [configure, haction]
  cases toFile with
  | false => simp
  | true =>
    simp only [Bool.not_false, Bool.and_self, if_true, true_and]
    constructor
    · intro h
      cases hfolder : files.ensureFolders (actionFolder action folder) with
      | error other =>
        rw [hfolder] at h
        cases h
        exact .folder hfolder
      | ok made =>
        cases hfile : made.appendText (filePath action folder time) "" with
        | error other =>
          simp only [hfolder, hfile, bind, Except.bind] at h
          cases h
          exact .file hfolder hfile
        | ok filed =>
          simp only [hfolder, hfile, bind, Except.bind] at h
          cases h
    · rintro (hfolder | ⟨hfolder, hfile⟩)
      · rw [hfolder]
        rfl
      · simp only [hfolder, hfile, bind, Except.bind]

end Log

namespace Command

def Unexplained : Yaml.Fault → Prop
  | .malformed _ => True
  | .badValue cause => cause.isExplained = false

structure Searches (around : Surroundings) (files : Files) (arguments : List String)
    (invocation : Invocation) : Prop where
  read : around.invocation files arguments = .ok invocation
  command : ∃ query extension, invocation.command = .search query extension

inductive Breaks (around : Surroundings) (s : Session) (arguments : List String) : Breakdown → Prop
  | options {cause : Breakdown}
    (hoptions : around.options s.files arguments = .error (.broken cause)) :
    Breaks around s arguments cause
  | environment {configName : String} {others operands : List String} {name : Name}
    {refusal : Files.Refusal}
    (hoptions : around.options s.files arguments = .ok (configName, others))
    (hnamed : around.named others = .ok (name, operands))
    (hrefused : around.environment s.files = .error refusal) :
    Breaks around s arguments (.file refusal)
  | settings {invocation : Invocation} {fault : Yaml.Fault}
    (hsearches : Searches around s.files arguments invocation)
    (hfault : Config.FaultFound around.settings s.files invocation.config
      (baseConfig s.files invocation.config) fault)
    (hsilent : Unexplained fault) : Breaks around s arguments (.settings fault)
  | log {invocation : Invocation} {config : Config} {refusal : Files.Refusal}
    (hsearches : Searches around s.files arguments invocation)
    (hvalid : Config.load s.files invocation.config (baseConfig s.files invocation.config)
      around.settings = .ok config)
    (hfile : config.logToFile = true)
    (hunmade : Log.Unmade s.files (Log.actionFolder searchName config.logFolder)
      (Log.filePath searchName config.logFolder s.time) refusal) :
    Breaks around s arguments (.file refusal)

theorem settings_message_error {failure : Config.LoadFailure} {cause : Breakdown} :
    settingsMessage failure = .error cause ↔
      ∃ fault, failure = .yaml fault ∧ Unexplained fault ∧ cause = .settings fault := by
  constructor
  · intro h
    match failure with
    | .file refusal => cases h
    | .config refusal => cases h
    | .yaml (.malformed malformation) =>
      cases h
      exact ⟨_, rfl, trivial, rfl⟩
    | .yaml (.badValue value) =>
      rw [settingsMessage] at h
      split at h
      · cases h
      · next hsilent =>
        cases h
        exact ⟨_, rfl, Bool.eq_false_iff.2 hsilent, rfl⟩
  · rintro ⟨fault, rfl, hsilent, rfl⟩
    cases fault with
    | malformed malformation => rfl
    | badValue value =>
      have hsilent : value.isExplained = false := hsilent
      rw [settingsMessage, if_neg (by simp [hsilent])]

section
variable {around : Surroundings} {path : Path} {query : String} {extension : Option String}
  {s : Session}

theorem run_search_invalid {failure : Config.LoadFailure}
    (hinvalid : Config.load s.files path (baseConfig s.files path) around.settings =
      .error failure) :
    ((runSearch path query extension around).run s).1.ending =
      match settingsMessage failure with
      | .ok _ => .failure
      | .error cause => .broken cause := by
  simp only [runSearch, StateT.run_bind, StateT.run_get, pure_bind, hinvalid]
  cases settingsMessage failure with
  | ok message => rfl
  | error cause => rfl

theorem run_search_unlogged {config : Config} {refusal : Files.Refusal}
    (hvalid : Config.load s.files path (baseConfig s.files path) around.settings = .ok config)
    (hlogs : Log.configure config.logLevel searchName config.logToFile config.logFolder s.time
      s.files = .error refusal) :
    ((runSearch path query extension around).run s).1.ending = .broken (.file refusal) := by
  simp only [runSearch, StateT.run_bind, StateT.run_get, pure_bind, hvalid, hlogs]
  rfl

/-- Once a search has its log, it ends by itself. -/
theorem search_logged_ends (config : Config) (query : String) (extension : Option String)
    (setup : Log.Setup) (around : Surroundings) (s : Session) :
    ((searchLogged config query extension setup around).run s).1.ending = .success ∨
      ((searchLogged config query extension setup around).run s).1.ending = .failure := by
  rw [searchLogged, StateT.run_bind]
  rcases (searchWith config query extension around.finishing).run.run s with ⟨failure | done, t⟩
  · exact .inr rfl
  · exact .inl rfl

theorem run_search_broken {cause : Breakdown} :
    ((runSearch path query extension around).run s).1.ending = .broken cause ↔
      (∃ fault, Config.load s.files path (baseConfig s.files path) around.settings =
          .error (.yaml fault) ∧ Unexplained fault ∧ cause = .settings fault) ∨
      ∃ config refusal, Config.load s.files path (baseConfig s.files path) around.settings =
          .ok config ∧
        Log.configure config.logLevel searchName config.logToFile config.logFolder s.time s.files =
          .error refusal ∧ cause = .file refusal := by
  cases hload : Config.load s.files path (baseConfig s.files path) around.settings with
  | error failure =>
    rw [run_search_invalid hload]
    have hmessage : settingsMessage failure = .error cause ↔ _ := settings_message_error
    cases hsaid : settingsMessage failure with
    | ok message => simpa [hsaid] using hmessage
    | error other => simpa [hsaid] using hmessage
  | ok config =>
    cases hlog : Log.configure config.logLevel searchName config.logToFile config.logFolder s.time
        s.files with
    | error refusal =>
      rw [run_search_unlogged hload hlog]
      simp [hlog, eq_comm]
    | ok logged =>
      obtain ⟨setup, files⟩ := logged
      rw [run_search_valid hload hlog]
      rcases search_logged_ends config query extension setup around { s with files } with
        hending | hending
      · simp [hending, hlog]
      · simp [hending, hlog]

end

section
variable {around : Surroundings} {arguments : List String} {s : Session}

theorem run_stopped {stop : Stop} (hread : around.invocation s.files arguments = .error stop)
    (input : String) : ((Command.run arguments input around).run s).1.ending = stop.ending := by
  have hfiles : around.invocation s.restart.files arguments = .error stop := hread
  simp only [Command.run, StateT.run_bind, StateT.run_get, StateT.run_modify, pure_bind, hfiles]
  rfl

/-- Before a command begins, its run breaks off in the options or with the environment. -/
theorem invocation_broken {files : Files} {cause : Breakdown} :
    around.invocation files arguments = .error (.broken cause) ↔
      around.options files arguments = .error (.broken cause) ∨
      ∃ configName others name operands refusal,
        around.options files arguments = .ok (configName, others) ∧
          around.named others = .ok (name, operands) ∧
          around.environment files = .error refusal ∧ cause = .file refusal := by
  rw [Surroundings.invocation]
  rcases around.options files arguments with stop | ⟨configName, others⟩
  · simp [bind, Except.bind]
  rcases hnamed : around.named others with error | ⟨name, operands⟩
  · simp [bind, Except.bind, Except.mapError, hnamed]
  cases around.environment files with
  | error refusal => simp [bind, Except.bind, Except.mapError, hnamed, eq_comm]
  | ok done =>
    cases hcommand : around.operands name operands with
    | error error => simp [bind, Except.bind, Except.mapError, hnamed, hcommand]
    | ok command =>
      simp [bind, Except.bind, Except.mapError, hnamed, hcommand, pure, Except.pure]

theorem stop_broken {stop : Stop} {cause : Breakdown} :
    stop.ending = .broken cause ↔ stop = .broken cause := by
  cases stop <;> simp [Stop.ending]

theorem stopped_breaks_iff {stop : Stop} {cause : Breakdown}
    (hread : around.invocation s.files arguments = .error stop) :
    stop.ending = .broken cause ↔ Breaks around s arguments cause := by
  rw [stop_broken]
  constructor
  · rintro rfl
    rcases invocation_broken.1 hread with
      hoptions | ⟨_, _, _, _, refusal, hoptions, hnamed, hrefused, rfl⟩
    · exact .options hoptions
    · exact .environment hoptions hnamed hrefused
  · intro h
    cases h with
    | options hoptions =>
      exact Except.error.inj (hread.symm.trans (invocation_broken.2 (.inl hoptions)))
    | environment hoptions hnamed hrefused =>
      exact Except.error.inj (hread.symm.trans
        (invocation_broken.2 (.inr ⟨_, _, _, _, _, hoptions, hnamed, hrefused, rfl⟩)))
    | settings hsearches => cases hread.symm.trans hsearches.read
    | log hsearches => cases hread.symm.trans hsearches.read

variable {invocation : Invocation}

theorem breaks_searches {cause : Breakdown}
    (hread : around.invocation s.files arguments = .ok invocation)
    (h : Breaks around s arguments cause) :
    Searches around s.files arguments invocation ∧
      ((∃ fault, Config.load s.files invocation.config (baseConfig s.files invocation.config)
          around.settings = .error (.yaml fault) ∧ Unexplained fault ∧ cause = .settings fault) ∨
        ∃ config refusal, Config.load s.files invocation.config
            (baseConfig s.files invocation.config) around.settings = .ok config ∧
          Log.configure config.logLevel searchName config.logToFile config.logFolder s.time
            s.files = .error refusal ∧ cause = .file refusal) := by
  cases h with
  | options hoptions => cases hread.symm.trans (invocation_broken.2 (.inl hoptions))
  | environment hoptions hnamed hrefused =>
    cases hread.symm.trans
      (invocation_broken.2 (.inr ⟨_, _, _, _, _, hoptions, hnamed, hrefused, rfl⟩))
  | settings hsearches hfault hsilent =>
    cases hread.symm.trans hsearches.read
    exact ⟨hsearches, .inl ⟨_, Config.load_yaml.2 hfault, hsilent, rfl⟩⟩
  | log hsearches hvalid hfile hunmade =>
    cases hread.symm.trans hsearches.read
    exact ⟨hsearches,
      .inr ⟨_, _, hvalid, (Log.configure_refused rfl).2 ⟨hfile, hunmade⟩, rfl⟩⟩

theorem search_breaks_iff {query : String} {extension : Option String} {cause : Breakdown}
    (hread : around.invocation s.files arguments = .ok invocation)
    (hcommand : invocation.command = .search query extension) :
    ((runSearch invocation.config query extension around).run s.restart).1.ending =
      .broken cause ↔ Breaks around s arguments cause := by
  rw [run_search_broken]
  have hsearches : Searches around s.files arguments invocation :=
    ⟨hread, query, extension, hcommand⟩
  constructor
  · rintro (⟨fault, hload, hsilent, rfl⟩ | ⟨config, refusal, hvalid, hlogs, rfl⟩)
    · exact .settings hsearches (Config.load_yaml.1 hload) hsilent
    · obtain ⟨hfile, hunmade⟩ := (Log.configure_refused rfl).1 hlogs
      exact .log hsearches hvalid hfile hunmade
  · exact fun h => (breaks_searches hread h).2

theorem run_breaks_iff (input : String) (cause : Breakdown) :
    ((Command.run arguments input around).run s).1.ending = .broken cause ↔
      Breaks around s arguments cause := by
  cases hread : around.invocation s.files arguments with
  | error stop =>
    rw [run_stopped hread]
    exact stopped_breaks_iff hread
  | ok invocation =>
    rw [run_read hread, execute]
    cases hcommand : invocation.command with
    | search query extension => exact search_breaks_iff hread hcommand
    | pick query names showsTree =>
      constructor
      · intro h
        cases h
      · intro h
        obtain ⟨⟨-, _, _, hsearch⟩, -⟩ := breaks_searches hread h
        rw [hcommand] at hsearch
        cases hsearch

theorem config_problem_broken {files : Files} {configName : String} {cause : Breakdown} :
    configProblem? files configName = some (.broken cause) ↔
      configName.isEmpty = false ∧ files.find (.ofString configName) = .error .nullCharacter ∧
        cause = .file ⟨.nullCharacter, .ofString configName⟩ := by
  rw [configProblem?]
  cases hname : configName.isEmpty with
  | true => simp
  | false =>
    simp only [Bool.false_eq_true, if_false, true_and]
    split
    · next hfind => simp [hfind]
    · next hfind => simp [hfind, eq_comm]
    · next hfolder hnull => simpa using fun hname => absurd hname hnull

/-- The options of the program break a run off where the name of its configuration has a null
character. -/
theorem program_options_broken {files : Files} {cause : Breakdown} :
    options files arguments = .error (.broken cause) ↔
      ∃ configName others, readOptions arguments = .ok (configName, others) ∧
        configName.isEmpty = false ∧
        files.find (.ofString configName) = .error .nullCharacter ∧
        cause = .file ⟨.nullCharacter, .ofString configName⟩ := by
  simp only [← config_problem_broken]
  rw [options]
  rcases readOptions arguments with error | ⟨configName, others⟩
  · simp [bind, Except.bind, Except.mapError]
  · simp only [bind, Except.bind, Except.mapError]
    cases hproblem : configProblem? files configName with
    | none => simp [hproblem, pure, Except.pure]
    | some stop => simp [hproblem]

end

/-- A run ends with a success, a failure that is reported, or a word on its usage, unless one of
a few causes breaks it off. -/
theorem run_breaks (arguments : List String) (input : String) (s : Session)
    (around : Surroundings) :
    let ending := ((Command.run arguments input around).run s).1.ending
    (∀ cause, ending = .broken cause ↔ Breaks around s arguments cause) ∧
    ((∀ cause, ¬ Breaks around s arguments cause) →
      ending = .success ∨ ending = .failure ∨ ∃ error, ending = .usage error) := by
  intro ending
  have hcauses (cause : Breakdown) : ending = .broken cause ↔ Breaks around s arguments cause :=
    run_breaks_iff input cause
  refine ⟨hcauses, fun hnone => ?_⟩
  cases hending : ending with
  | success => exact .inl rfl
  | failure => exact .inr (.inl rfl)
  | usage error => exact .inr (.inr ⟨error, rfl⟩)
  | broken cause => exact absurd ((hcauses cause).1 hending) (hnone cause)

def malformedSettings : Session := { files := ⟨[(["c.yml"], .text "a: b: c")]⟩ }

/-- Nothing is reported of settings that are no YAML. -/
theorem malformed_settings_break :
    ¬ ∀ (config query input : String) (s : Session) (cause : Breakdown),
      ((Command.run ["--config", config, "search", query] input).run s).1.ending ≠
        .broken cause := by
  intro hall
  have hbroken : ((Command.run ["--config", "c.yml", "search", "x"] "").run
      malformedSettings).1.ending = .broken (.settings (.malformed .strayValue)) := by
    decide +kernel
  exact hall _ _ _ _ _ hbroken

/-- Nor is it reported that a file is where the folder of logs should be. -/
example :
    ((Command.run oversizedArguments "").run
      { oversized with files := oversized.files.set ["log"] (.text "") }).1.ending =
        .broken (.file ⟨.notFolder, .ofString "log/search"⟩) := by decide +kernel

end Command

end FileSearch
