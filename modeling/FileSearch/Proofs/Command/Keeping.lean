import FileSearch.Proofs.Command.Failing
import FileSearch.Proofs.Output.Naming
import FileSearch.Proofs.Output.Saving
import FileSearch.Proofs.Search.Sparing

/-!
# What a run does to texts

However a run ends, the only texts that it has touched are logs and the result file of its own
time. All other texts are as they were, and there are no further ones.
-/

set_option autoImplicit false

namespace FileSearch

open Session

namespace Output.Writer

section
variable {own : Files.Place → Prop}

theorem write_keeps (own : Files.Place → Prop) (query : String) (hits : List Hit) (writer : Writer)
    (s : Session) : s.Keeps own ((writer.write query hits).perform s).2 := by
  cases writer with
  | json file => exact keeps_refl _ _
  | console =>
    cases hrender : renderText hits with
    | error cause =>
      simp only [write, hrender]
      exact keeps_same rfl rfl
    | ok text =>
      simp only [write, hrender]
      exact keeps_same rfl rfl

theorem save_keeps {action : String} (haction : '/' ∉ action.toList) (file : ResultFile)
    (s : Session) :
    s.Keeps (ResultFile.IsResult action s.time) ((file.save action).perform s).2 := by
  rw [ResultFile.save_perform]
  have hmade : Files.Keeps (ResultFile.IsResult action s.time) s.files
      (s.files.makeFolders file.folder).1 :=
    Files.keeps_more_folders (Files.make_folders_making s.files file.folder).more
  rcases hmake : s.files.makeFolders file.folder with ⟨made, refusal | _⟩
  · rw [hmake] at hmade
    exact ⟨hmade, rfl⟩
  · rw [hmake] at hmade
    dsimp only
    cases hwrite : made.writeText (file.path action s.time) file.content with
    | error refusal => exact ⟨hmade, rfl⟩
    | ok later =>
      obtain ⟨place, hplace, hnoFolder, rfl⟩ := Files.write_text_ok hwrite
      have hwritten : Files.Keeps (ResultFile.IsResult action s.time) made _ :=
        Files.keeps_own (ResultFile.path_place haction hplace) hnoFolder
          fun _ hother => Files.entry_set_ne made (.text file.content) hother
      exact ⟨Files.keeps_trans hmade hwritten, rfl⟩

theorem finalize_keeps {action : String} (haction : '/' ∉ action.toList) (writer : Writer)
    (s : Session) :
    s.Keeps (ResultFile.IsResult action s.time) ((writer.finalize action).perform s).2 := by
  cases writer with
  | console => exact keeps_refl _ _
  | json file =>
    rw [finalize_perform]
    exact save_keeps haction file s

theorem each_run (step : Writer → Action Writer) (writer : Writer) (writers : List Writer)
    (s : Session) :
    (each step (writer :: writers)).run s =
      match (step writer).perform s with
      | (.error failure, t) => ((.error failure, writer :: writers), t)
      | (.ok written, t) =>
        let rest := (each step writers).run t
        ((rest.1.1, written :: rest.1.2), rest.2) := by
  rw [each, StateT.run_bind, Action.perform]
  rcases (step writer).run.run s with ⟨_ | _, _⟩ <;> rfl

theorem each_keeps (own : Calendar → Files.Place → Prop) {step : Writer → Action Writer}
    (hstep : ∀ writer s, Session.Keeps (own s.time) s ((step writer).perform s).2)
    (writers : List Writer) (s : Session) : s.Keeps (own s.time) ((each step writers).run s).2 := by
  induction writers generalizing s with
  | nil => exact keeps_refl _ _
  | cons writer writers ih =>
    have hfirst := hstep writer s
    rw [each_run]
    rcases hperform : (step writer).perform s with ⟨failure | written, t⟩
    · rw [hperform] at hfirst
      exact hfirst
    · rw [hperform] at hfirst
      have hrest := ih t
      rw [hfirst.time] at hrest
      exact keeps_trans hfirst hrest

end

end Output.Writer

namespace Command

open Output

/-- The places of the texts that a search at a time may write: logs, and its result file. -/
def Owned (time : Calendar) (place : Files.Place) : Prop :=
  Log.IsLog place ∨ ResultFile.IsResult searchName time place

theorem search_no_slash : '/' ∉ searchName.toList := by decide

section
variable {config : Config} {query : String} {extension : Option String} {s t : Session}
  {around : Surroundings}

def asking (config : Config) (query : String) (extension : Option String) (s : Session) : Session :=
  s.withNotes (s.notes ++ [⟨Log.debug, announcement config query extension⟩])

theorem perform_run (config : Config) (query : String) (extension : Option String)
    (writers : List Writer) (service : Search.Service) (finishing : Search.Finishing)
    (s : Session) :
    (perform config query extension writers service finishing).run s =
      match (service.search query extension finishing).run (asking config query extension s) with
      | ((.error failure, after), t) => ((.error failure, after), t)
      | ((.ok hits, after), t) =>
        match (Writer.each (·.write query hits) writers).run t with
        | ((.error failure, _), u) => ((.error failure, after), u)
        | ((.ok (), written), u) =>
          let finished := (Writer.each (·.finalize searchName) written).run u
          ((finished.1.1, after), finished.2) := by
  rw [perform, StateT.run_bind]
  change StateT.run (service.search query extension finishing >>= _)
    (asking config query extension s) = _
  rw [StateT.run_bind]
  rcases (service.search query extension finishing).run (asking config query extension s) with
    ⟨⟨failure | hits, after⟩, t⟩
  · rfl
  · dsimp only
    change StateT.run (Writer.each (·.write query hits) writers >>= _) t = _
    rw [StateT.run_bind]
    rcases (Writer.each (·.write query hits) writers).run t with ⟨⟨failure | done, written⟩, u⟩
    · rfl
    · rfl

theorem perform_keeps {service : Search.Service}
    (hnames : ∀ source ∈ service.sources, source.name?.isSome) (hidle : History.Idle s)
    (config : Config) (query : String) (extension : Option String) (writers : List Writer)
    (finishing : Search.Finishing) :
    s.Keeps (ResultFile.IsResult searchName s.time)
      ((perform config query extension writers service finishing).run s).2 := by
  let own := ResultFile.IsResult searchName
  have hasking : s.Keeps (own s.time) (asking config query extension s) := keeps_same rfl rfl
  have hsearch := keeps_trans hasking
    (@Search.search_keeps (asking config query extension s) service hnames hidle (own s.time) query
      extension finishing)
  rw [perform_run]
  generalize (service.search query extension finishing).run (asking config query extension s) =
    searched at hsearch ⊢
  obtain ⟨⟨failure | hits, after⟩, t⟩ := searched
  · exact hsearch
  · have hwrite := keeps_trans hsearch
      (Writer.each_keeps (fun _ => own s.time) (Writer.write_keeps (own s.time) query hits)
        writers t)
    dsimp only
    generalize (Writer.each (·.write query hits) writers).run t = wrote at hwrite ⊢
    obtain ⟨⟨failure | done, written⟩, u⟩ := wrote
    · exact hwrite
    · have hfinish := Writer.each_keeps own (Writer.finalize_keeps search_no_slash) written u
      rw [hwrite.time] at hfinish
      exact keeps_trans hwrite hfinish

theorem search_with_perform (config : Config) (query : String) (extension : Option String)
    (finishing : Search.Finishing) (s : Session) :
    (searchWith config query extension finishing).perform s =
      match (Search.openStorage config).perform s with
      | (.error failure, t) => (.error failure, t)
      | (.ok hasStore, t) =>
        match Search.Service.ofConfig config hasStore,
          Writer.ofFormats config.formats config.outputFolder with
        | .error failure, _ => (.error failure, t)
        | .ok _, .error failure => (.error failure, t)
        | .ok service, .ok writers =>
          let done := (perform config query (extensionFor config extension) writers service
            finishing).run t
          (done.1.1, done.2.withNotes (done.2.notes ++ done.1.2.closeNotes)) := by
  rw [searchWith, Action.perform_bind]
  rcases (Search.openStorage config).perform s with ⟨failure | hasStore, t⟩
  · rfl
  · dsimp only
    rw [Action.perform_bind, Action.perform_result]
    rcases Search.Service.ofConfig config hasStore with failure | service
    · rfl
    · dsimp only
      rw [Action.perform_bind, Action.perform_result]
      rcases Writer.ofFormats config.formats config.outputFolder with failure | writers
      · rfl
      · dsimp only
        rw [Action.perform_bind, Action.perform_state]
        dsimp only
        rw [Action.perform_bind, Action.perform_state, Search.Service.close_run]
        dsimp only
        rw [Action.perform_result]

theorem search_with_keeps (hshared : s.shared = none) (hattached : s.attached = false)
    (config : Config) (query : String) (extension : Option String) (finishing : Search.Finishing) :
    s.Keeps (ResultFile.IsResult searchName s.time)
      ((searchWith config query extension finishing).perform s).2 := by
  have hstorage := Search.open_storage_keeps hshared (ResultFile.IsResult searchName s.time) config
  rw [search_with_perform]
  rcases hopen : (Search.openStorage config).perform s with ⟨failure | hasStore, t⟩
  · rw [hopen] at hstorage
    exact hstorage
  · rw [hopen] at hstorage
    have hidle := Search.open_storage_idle hshared hattached hopen
    dsimp only
    cases hservice : Search.Service.ofConfig config hasStore with
    | error failure => exact hstorage
    | ok service =>
      cases Writer.ofFormats config.formats config.outputFolder with
      | error failure => exact hstorage
      | ok writers =>
        have hperform := perform_keeps (Search.of_config_named hservice) hidle config query
          (extensionFor config extension) writers finishing
        rw [hstorage.time] at hperform
        exact keeps_trans (keeps_trans hstorage hperform) (keeps_same rfl rfl)

theorem search_logged_run (config : Config) (query : String) (extension : Option String)
    (setup : Log.Setup) (around : Surroundings) (s : Session) :
    ∃ time notes, let result := (searchWith config query extension around.finishing).perform s
      let ended := (searchLogged config query extension setup around).run s
      (ended.1.ending = .success ↔ result.1 = .ok ()) ∧
        ended.2.files = setup.save time notes result.2.files ∧ ended.2.time = result.2.time := by
  dsimp only
  rw [searchLogged, StateT.run_bind, Action.perform]
  rcases (searchWith config query extension around.finishing).run.run s with ⟨failure | done, t⟩
  · refine ⟨_, _, ?_, rfl, rfl⟩
    constructor
    · intro hended
      change Ending.failure = .success at hended
      cases hended
    · intro hdone
      change Except.error failure = .ok () at hdone
      cases hdone
  · exact ⟨_, _, ⟨fun _ => rfl, fun _ => rfl⟩, rfl, rfl⟩

theorem search_logged_keeps {setup : Log.Setup} {before files : Files} {time : Calendar}
    (hlogs : Log.configure config.logLevel searchName config.logToFile config.logFolder time
      before = .ok (setup, files)) (hshared : s.shared = none) (hattached : s.attached = false)
    (query : String) (extension : Option String) :
    s.Keeps (Owned s.time) ((searchLogged config query extension setup around).run s).2 := by
  obtain ⟨shown, notes, -, hfiles, htime⟩ :=
    search_logged_run config query extension setup around s
  have hsearch := search_with_keeps hshared hattached config query extension around.finishing
  have hlog := Log.save_keeps hlogs shown notes
    ((searchWith config query extension around.finishing).perform s).2.files
  constructor
  · rw [hfiles]
    exact Files.keeps_trans (Files.keeps_mono (fun _ => .inr) hsearch.files)
      (Files.keeps_mono (fun _ => .inl) hlog)
  · rw [htime, hsearch.time]

theorem run_search_keeps (hshared : s.shared = none) (hattached : s.attached = false)
    (path : Path) (query : String) (extension : Option String) (around : Surroundings) :
    s.Keeps (Owned s.time) ((runSearch path query extension around).run s).2 := by
  cases hload : Config.load s.files path (baseConfig s.files path) around.settings with
  | error failure =>
    simp only [runSearch, StateT.run_bind, StateT.run_get, pure_bind, hload]
    cases settingsMessage failure with
    | ok message => exact keeps_refl _ _
    | error cause => exact keeps_refl _ _
  | ok config =>
    cases hlogs : Log.configure config.logLevel searchName config.logToFile config.logFolder s.time
        s.files with
    | error refusal =>
      simp only [runSearch, StateT.run_bind, StateT.run_get, pure_bind, hload, hlogs]
      exact ⟨Files.keeps_more_folders (Files.make_folders_making _ _).more, rfl⟩
    | ok logged =>
      obtain ⟨setup, files⟩ := logged
      have hconfigured : s.Keeps (Owned s.time) { s with files } :=
        ⟨Files.keeps_mono (fun _ => .inl) (Log.configure_keeps hlogs), rfl⟩
      have hsearch : Session.Keeps (Owned s.time) { s with files }
          ((searchLogged config query extension setup around).run { s with files }).2 :=
        @search_logged_keeps config { s with files } around setup s.files files s.time hlogs hshared
          hattached query extension
      rw [run_search_valid hload hlogs]
      exact keeps_trans hconfigured hsearch

/-- A run of the program keeps all texts that are not its own, whatever comes of it. -/
theorem run_keeps (arguments : List String) (input : String) (around : Surroundings)
    (s : Session) : s.Keeps (Owned s.time) ((Command.run arguments input around).run s).2 := by
  have hrestart : s.Keeps (Owned s.time) s.restart := keeps_same rfl rfl
  cases hread : around.invocation s.files arguments with
  | error stop =>
    have hfiles : around.invocation s.restart.files arguments = .error stop := hread
    simp only [Command.run, StateT.run_bind, StateT.run_modify, StateT.run_get, pure_bind, hfiles]
    exact hrestart
  | ok invocation =>
    rw [run_read hread, execute]
    cases invocation.command with
    | pick query names showsTree => exact hrestart
    | search query extension =>
      exact keeps_trans hrestart
        (@run_search_keeps s.restart rfl rfl invocation.config query extension around)

end

end Command

end FileSearch
