import FileSearch.Proofs.Command.Breaking
import FileSearch.Proofs.Command.Keeping
import FileSearch.Proofs.Search.Wiring

/-!
# Result files of many runs

A run that succeeds leaves its query and its hits in a result file that is named for the time
that clocks show at the run. Later runs of other stamps do not touch that file, so in a sequence of
runs whose stamps differ each successful one has a file of its own for good. Two runs of one stamp
share their file, and the later one takes it over.
-/

set_option autoImplicit false

namespace FileSearch

open Session

namespace Output

/-- A saved text is longer than what is taken for an empty database. -/
theorem ResultFile.content_long (file : ResultFile) :
    History.Link.signatureLength ≤ file.content.utf8ByteSize := by
  have hends : ∃ middle, Json.print 0 (.list file.blocks) = '[' :: middle ++ [']'] := by
    cases file.blocks with
    | nil => exact ⟨[], by rw [Json.print]; rfl⟩
    | cons block blocks =>
      refine ⟨Json.newLine 1 ++ Json.print 1 block ++ Json.printItems 1 blocks ++
        Json.newLine 0, ?_⟩
      rw [Json.print]
      simp
  obtain ⟨middle, hmiddle⟩ := hends
  rw [content, Json.pretty, hmiddle, List.cons_append, String.ofList_cons, String.ofList_append,
    String.utf8ByteSize_append, String.utf8ByteSize_append]
  change 2 ≤ 1 + (_ + 1)
  omega

namespace Writer

theorem each_last {step : Writer → Action Writer} {writers later : List Writer} {last : Writer}
    {s t : Session} (h : (each step (writers ++ [last])).run s = ((.ok (), later), t)) :
    ∃ front written m, (each step writers).run s = ((.ok (), front), m) ∧
      (step last).perform m = (.ok written, t) ∧ later = front ++ [written] := by
  induction writers generalizing s later with
  | nil =>
    rw [List.nil_append, each_run] at h
    rcases hlast : (step last).perform s with ⟨failure | written, m⟩
    · rw [hlast] at h
      cases h
    · rw [hlast] at h
      cases h
      exact ⟨[], written, s, rfl, hlast, rfl⟩
  | cons writer writers ih =>
    rw [List.cons_append, each_run] at h
    rcases hfirst : (step writer).perform s with ⟨failure | first, m⟩
    · rw [hfirst] at h
      cases h
    · rw [hfirst] at h
      dsimp only at h
      rcases hrest : (each step (writers ++ [last])).run m with ⟨⟨failure | done, rest⟩, u⟩
      · rw [hrest] at h
        cases h
      · rw [hrest] at h
        cases h
        obtain ⟨front, written, n, hfront, hwritten, rfl⟩ := ih hrest
        refine ⟨first :: front, written, n, ?_, hwritten, rfl⟩
        rw [each_run, hfirst]
        dsimp only
        rw [hfront]

theorem of_formats_json {formats : List String} {base : String} {writers : List Writer}
    (hjson : "json" ∈ formats) (h : ofFormats formats base = .ok writers) :
    ∃ front, writers = front ++ [.json (.below base)] := by
  have hcontains : formats.contains "json" = true := List.contains_iff_mem.2 hjson
  have hlast : ∃ front, among formats base = front ++ [.json (.below base)] := by
    rw [among, if_pos hcontains]
    exact ⟨_, rfl⟩
  obtain ⟨front, hfront⟩ := hlast
  have hsome : among formats base ≠ [] := by simp [hfront]
  rw [of_formats_ok hsome, hfront] at h
  exact ⟨front, (Except.ok.inj h).symm⟩

/-- What a result file has been given is in it once it is finished. -/
theorem finalize_saved {action : String} {file : ResultFile} {written : Writer} {s t : Session}
    (h : (finalize action (.json file)).perform s = (.ok written, t)) :
    t.files.readText (file.path action s.time) = .ok file.content := by
  rw [finalize_perform] at h
  rcases ResultFile.save_outcome action file s with ⟨u, hsave, hread⟩ | ⟨refusal, u, hsave, -⟩
  · rw [hsave] at h
    cases h
    exact hread
  · rw [hsave] at h
    cases h

end Writer

end Output

namespace Command

open Output

section
variable {config : Config} {query : String} {extension : Option String} {s t : Session}
  {finishing : Search.Finishing} {around : Surroundings}

def resultOf (config : Config) (query : String) (hits : List Hit) : ResultFile :=
  .holding config.outputFolder [(query, hits)]

def resultPath (config : Config) (time : Calendar) : Path :=
  (ResultFile.below config.outputFolder).path searchName time

theorem writers_save {writers written finished : List Writer} {hits : List Hit} {m u : Session}
    (hjson : "json" ∈ config.formats)
    (hwriters : Writer.ofFormats config.formats config.outputFolder = .ok writers)
    (hwrite : (Writer.each (·.write query hits) writers).run m = ((.ok (), written), u))
    (hfinish : (Writer.each (·.finalize searchName) written).run u = ((.ok (), finished), t)) :
    t.files.readText (resultPath config m.time) = .ok (resultOf config query hits).content := by
  obtain ⟨front, rfl⟩ := Writer.of_formats_json hjson hwriters
  obtain ⟨front', last, _, hfront, hlast, rfl⟩ := Writer.each_last hwrite
  cases hlast
  have htime : u.time = m.time := by
    have hkeeps := Writer.each_keeps (fun _ => Log.IsLog)
      (Writer.write_keeps Log.IsLog query hits) front m
    rw [hfront] at hkeeps
    exact hkeeps.time
  obtain ⟨_, _, n, hothers, hsaved, -⟩ := Writer.each_last hfinish
  have htime' : n.time = u.time := by
    have hkeeps := Writer.each_keeps (ResultFile.IsResult searchName)
      (Writer.finalize_keeps search_no_slash) front' u
    rw [hothers] at hkeeps
    exact hkeeps.time
  have hread := Writer.finalize_saved hsaved
  rwa [htime', htime] at hread

theorem perform_ok {service after : Search.Service} {writers : List Writer}
    (h : (perform config query extension writers service finishing).run s = ((.ok (), after), t)) :
    ∃ hits written finished m u,
      (service.search query extension finishing).run (asking config query extension s) =
        ((.ok hits, after), m) ∧
      (Writer.each (·.write query hits) writers).run m = ((.ok (), written), u) ∧
      (Writer.each (·.finalize searchName) written).run u = ((.ok (), finished), t) := by
  rw [perform_run] at h
  rcases hsearch : (service.search query extension finishing).run
    (asking config query extension s) with ⟨⟨failure | hits, after'⟩, m⟩
  · rw [hsearch] at h
    cases h
  · rw [hsearch] at h
    dsimp only at h
    rcases hwrite : (Writer.each (·.write query hits) writers).run m with
      ⟨⟨failure | done, written⟩, u⟩
    · rw [hwrite] at h
      cases h
    · rw [hwrite] at h
      dsimp only at h
      rcases hfinish : (Writer.each (·.finalize searchName) written).run u with
        ⟨⟨failure | done', finished⟩, v⟩
      · rw [hfinish] at h
        cases h
      · rw [hfinish] at h
        cases h
        exact ⟨hits, written, finished, m, u, rfl, hwrite, hfinish⟩

theorem perform_saves {service after : Search.Service} {writers : List Writer}
    (hnames : ∀ source ∈ service.sources, source.name?.isSome) (hidle : History.Idle s)
    (hjson : "json" ∈ config.formats)
    (hwriters : Writer.ofFormats config.formats config.outputFolder = .ok writers)
    (h : (perform config query extension writers service finishing).run s = ((.ok (), after), t)) :
    ∃ hits, ((service.search query extension finishing).run
        (asking config query extension s)).1.1 = .ok hits ∧
      t.files.readText (resultPath config s.time) = .ok (resultOf config query hits).content := by
  obtain ⟨hits, written, finished, m, u, hsearch, hwrite, hfinish⟩ := perform_ok h
  have hkeeps := @Search.search_keeps (asking config query extension s) service hnames hidle
    Log.IsLog query extension finishing
  rw [hsearch] at hkeeps
  have hread := writers_save hjson hwriters hwrite hfinish
  rw [hkeeps.time] at hread
  refine ⟨hits, ?_, hread⟩
  rw [hsearch]

def Finds (config : Config) (query : String) (extension : Option String)
    (finishing : Search.Finishing) (s : Session) (hits : List Hit) : Prop :=
  ∃ hasStore opened service,
    (Search.openStorage config).perform s = (.ok hasStore, opened) ∧
    Search.Service.ofConfig config hasStore = .ok service ∧
    ((service.search query (extensionFor config extension) finishing).run
      (asking config query (extensionFor config extension) opened)).1.1 = .ok hits

theorem search_with_ok (h : (searchWith config query extension finishing).perform s = (.ok (), t)) :
    ∃ hasStore service writers after opened u,
      (Search.openStorage config).perform s = (.ok hasStore, opened) ∧
      Search.Service.ofConfig config hasStore = .ok service ∧
      Writer.ofFormats config.formats config.outputFolder = .ok writers ∧
      (perform config query (extensionFor config extension) writers service finishing).run opened =
        ((.ok (), after), u) ∧ t.files = u.files := by
  rw [search_with_perform] at h
  rcases hopen : (Search.openStorage config).perform s with ⟨failure | hasStore, opened⟩
  · rw [hopen] at h
    cases h
  · rw [hopen] at h
    dsimp only at h
    cases hservice : Search.Service.ofConfig config hasStore with
    | error failure =>
      rw [hservice] at h
      cases h
    | ok service =>
      cases hwriters : Writer.ofFormats config.formats config.outputFolder with
      | error failure =>
        rw [hservice, hwriters] at h
        cases h
      | ok writers =>
        rw [hservice, hwriters] at h
        dsimp only at h
        rcases hperform : (perform config query (extensionFor config extension) writers
          service finishing).run opened with ⟨⟨failure | done, after⟩, u⟩
        · rw [hperform] at h
          cases h
        · rw [hperform] at h
          cases h
          exact ⟨hasStore, service, writers, after, opened, u, rfl, hservice, rfl, hperform, rfl⟩

theorem search_with_saves (hshared : s.shared = none) (hattached : s.attached = false)
    (hjson : "json" ∈ config.formats)
    (h : (searchWith config query extension finishing).perform s = (.ok (), t)) :
    ∃ hits, Finds config query extension finishing s hits ∧
      t.files.readText (resultPath config s.time) = .ok (resultOf config query hits).content := by
  obtain ⟨hasStore, service, writers, after, opened, u, hopen, hservice, hwriters, hperform,
    hfiles⟩ := search_with_ok h
  have hstorage := Search.open_storage_keeps hshared Log.IsLog config
  rw [hopen] at hstorage
  obtain ⟨hits, hhits, hread⟩ := perform_saves (Search.of_config_named hservice)
    (Search.open_storage_idle hshared hattached hopen) hjson hwriters hperform
  rw [hstorage.time] at hread
  rw [hfiles]
  exact ⟨hits, ⟨hasStore, opened, service, hopen, hservice, hhits⟩, hread⟩

theorem search_logged_saves {setup : Log.Setup} {before files : Files} {time : Calendar}
    (hlogs : Log.configure config.logLevel searchName config.logToFile config.logFolder time
      before = .ok (setup, files)) (hshared : s.shared = none) (hattached : s.attached = false)
    (hjson : "json" ∈ config.formats)
    (hsuccess : ((searchLogged config query extension setup around).run s).1.ending = .success) :
    ∃ hits, Finds config query extension around.finishing s hits ∧
      ((searchLogged config query extension setup around).run s).2.files.readText
        (resultPath config s.time) = .ok (resultOf config query hits).content := by
  obtain ⟨shown, notes, hending, hfiles, -⟩ :=
    search_logged_run config query extension setup around s
  obtain ⟨hits, hfinds, hread⟩ := search_with_saves hshared hattached hjson
    (Prod.ext (hending.1 hsuccess) rfl)
  refine ⟨hits, hfinds, ?_⟩
  rw [hfiles]
  -- what is logged at the end does not go to the result file
  apply Files.keeps_read (Log.save_keeps hlogs shown notes _) _ (ResultFile.content_long _) hread
  intro place hplace
  exact ResultFile.result_no_log (ResultFile.path_place search_no_slash hplace)

end

structure Launch where
  now : Int
  arguments : List String
  input : String := ""
  /-- What the clocks show at a second, by the time zone of the run. -/
  calendar : Int → Calendar := Calendar.ofSeconds
  around : Surroundings := .program

namespace Launch

variable {l : Launch} {s : Session} {config : Config} {query : String} {extension : Option String}

def time (l : Launch) : Calendar := l.calendar l.now

def run (l : Launch) (s : Session) : Outcome × Session :=
  (Command.run l.arguments l.input l.around).run { s with now := l.now, calendar := l.calendar }

def Searches (l : Launch) (files : Files) (config : Config) (query : String)
    (extension : Option String) : Prop :=
  ∃ name, l.around.invocation files l.arguments = .ok ⟨name, .search query extension⟩ ∧
    Config.load files (.ofString name) (baseConfig files (.ofString name)) l.around.settings =
      .ok config

def Found (l : Launch) (files : Files) (config : Config) (query : String)
    (extension : Option String) (hits : List Hit) : Prop :=
  ∃ setup made,
    Log.configure config.logLevel searchName config.logToFile config.logFolder l.time files =
      .ok (setup, made) ∧
    Finds config query extension l.around.finishing
      { files := made, now := l.now, calendar := l.calendar } hits

theorem run_logged (hsearch : l.Searches s.files config query extension)
    (hsuccess : (l.run s).1.ending = .success) :
    ∃ setup made,
      Log.configure config.logLevel searchName config.logToFile config.logFolder l.time s.files =
        .ok (setup, made) ∧
      l.run s = (searchLogged config query extension setup l.around).run
        { files := made, now := l.now, calendar := l.calendar } := by
  obtain ⟨name, hread, hvalid⟩ := hsearch
  let begun : Session := { s with now := l.now, calendar := l.calendar }
  have hrun : l.run s = (runSearch (.ofString name) query extension l.around).run begun.restart :=
    @run_read _ begun _ _ hread l.input
  cases hlogs : Log.configure config.logLevel searchName config.logToFile config.logFolder l.time
      s.files with
  | error refusal =>
    have hbroken : ((runSearch (.ofString name) query extension l.around).run
        begun.restart).1.ending = .broken (.file refusal) :=
      @run_search_unlogged _ _ _ _ begun.restart _ _ hvalid hlogs
    rw [← hrun, hsuccess] at hbroken
    cases hbroken
  | ok logged =>
    obtain ⟨setup, made⟩ := logged
    exact ⟨setup, made, rfl,
      hrun.trans (@run_search_valid begun.restart _ _ _ _ _ _ _ hvalid hlogs)⟩

/-- A search that succeeds has saved what it has found, under its own stamp. -/
theorem run_saves (hsearch : l.Searches s.files config query extension)
    (hjson : "json" ∈ config.formats) (hsuccess : (l.run s).1.ending = .success) :
    ∃ hits, l.Found s.files config query extension hits ∧
      (l.run s).2.files.readText (resultPath config l.time) =
        .ok (resultOf config query hits).content := by
  obtain ⟨setup, made, hlogs, hrun⟩ := run_logged hsearch hsuccess
  rw [hrun] at hsuccess ⊢
  obtain ⟨hits, hfinds, hsaved⟩ := search_logged_saves hlogs rfl rfl hjson hsuccess
  exact ⟨hits, ⟨setup, made, hlogs, hfinds⟩, hsaved⟩

theorem run_keeps_files (l : Launch) (s : Session) :
    Files.Keeps (Owned l.time) s.files (l.run s).2.files :=
  (Command.run_keeps l.arguments l.input l.around
    { s with now := l.now, calendar := l.calendar }).files

end Launch

def runAll : List Launch → Session → Session
  | [], s => s
  | l :: launches, s => runAll launches (l.run s).2

theorem run_all_nil (s : Session) : runAll [] s = s := rfl

theorem run_all_append (before after : List Launch) (s : Session) :
    runAll (before ++ after) s = runAll after (runAll before s) := by
  induction before generalizing s with
  | nil => rfl
  | cons l before ih => exact ih _

def OwnedBy (launches : List Launch) (place : Files.Place) : Prop :=
  ∃ l ∈ launches, Owned l.time place

theorem run_all_keeps (launches : List Launch) (s : Session) :
    Files.Keeps (OwnedBy launches) s.files (runAll launches s).files := by
  induction launches generalizing s with
  | nil => exact Files.keeps_refl _ _
  | cons l launches ih =>
    have hfirst : Files.Keeps (OwnedBy (l :: launches)) s.files (l.run s).2.files :=
      Files.keeps_mono (fun _ hown => ⟨l, List.mem_cons_self, hown⟩) (l.run_keeps_files s)
    have hrest : Files.Keeps (OwnedBy (l :: launches)) (l.run s).2.files _ :=
      Files.keeps_mono (fun _ ⟨other, hmem, hown⟩ => ⟨other, List.mem_cons_of_mem _ hmem, hown⟩)
        (ih (l.run s).2)
    exact Files.keeps_trans hfirst hrest

section
variable {launches before after : List Launch} {l : Launch} {s : Session} {config : Config}
  {query : String} {extension : Option String} {hits : List Hit} {files later : Files}
  {time : Calendar}

/-- The result file of a stamp belongs to the runs of that stamp alone. -/
theorem result_not_owned {place : Files.Place}
    (hstamp : ∀ other ∈ launches, other.time.resultStamp ≠ time.resultStamp)
    (h : ResultFile.IsResult searchName time place) : ¬ OwnedBy launches place := by
  rintro ⟨other, hmem, hlog | hresult⟩
  · exact ResultFile.result_no_log h hlog
  · exact hstamp other hmem (ResultFile.result_stamp hresult h)

theorem result_kept (hstamp : ∀ other ∈ launches, other.time.resultStamp ≠ time.resultStamp)
    (hkeeps : Files.Keeps (OwnedBy launches) files later)
    (h : files.readText (resultPath config time) = .ok (resultOf config query hits).content) :
    later.readText (resultPath config time) = .ok (resultOf config query hits).content := by
  apply Files.keeps_read hkeeps _ (ResultFile.content_long _) h
  intro place hplace
  exact result_not_owned hstamp (ResultFile.path_place search_no_slash hplace)

/-- In a sequence of runs with different stamps, each search that succeeds with a result file has
it for itself. No earlier run has left a text at its path, it leaves the result files of the
earlier ones as they are, and after all runs its query and its hits are read from it. -/
theorem results_last (hstamps : (launches.map (·.time.resultStamp)).Nodup)
    (hsplit : launches = before ++ l :: after)
    (hsearch : l.Searches (runAll before s).files config query extension)
    (hjson : "json" ∈ config.formats)
    (hsuccess : (l.run (runAll before s)).1.ending = .success) :
    (∀ place content, (runAll before s).files.locate (resultPath config l.time) = .ok place →
      (runAll before s).files.entry? place = some (.text content) →
        s.files.entry? place = some (.text content)) ∧
    (∀ earlier ∈ before, ∀ (config' : Config) query' hits',
      (runAll before s).files.readText (resultPath config' earlier.time) =
          .ok (resultOf config' query' hits').content →
        (l.run (runAll before s)).2.files.readText (resultPath config' earlier.time) =
          .ok (resultOf config' query' hits').content) ∧
    ∃ hits, l.Found (runAll before s).files config query extension hits ∧
      (runAll launches s).files.readText (resultPath config l.time) =
        .ok (resultOf config query hits).content ∧
      ((∀ hit ∈ hits, hit.Storable) →
        Json.read (resultOf config query hits).content =
          .ok (.list [ResultFile.block query hits])) := by
  subst hsplit
  rw [List.map_append, List.map_cons, List.nodup_append] at hstamps
  obtain ⟨-, hstamps, hbefore⟩ := hstamps
  have hearlier : ∀ other ∈ before, other.time.resultStamp ≠ l.time.resultStamp :=
    fun other hmem => hbefore _ (List.mem_map_of_mem hmem) _ List.mem_cons_self
  have hlater : ∀ other ∈ after, other.time.resultStamp ≠ l.time.resultStamp :=
    fun other hmem heq => (List.nodup_cons.1 hstamps).1 (List.mem_map.2 ⟨other, hmem, heq⟩)
  refine ⟨?_, ?_, ?_⟩
  · intro place content hplace htext
    have hresult := ResultFile.path_place search_no_slash hplace
    exact (run_all_keeps before s).noMore place content (result_not_owned hearlier hresult) htext
  · intro earlier hmem config' query' hits' hread
    have hone : ∀ other ∈ [l], other.time.resultStamp ≠ earlier.time.resultStamp := by
      simpa using (hearlier earlier hmem).symm
    exact result_kept hone (run_all_keeps [l] (runAll before s)) hread
  · obtain ⟨hits, hfound, hread⟩ := Launch.run_saves hsearch hjson hsuccess
    refine ⟨hits, hfound, ?_, ?_⟩
    · rw [run_all_append]
      exact result_kept hlater (run_all_keeps after _) hread
    · intro hstorable
      exact Json.read_pretty (ResultFile.blocks_exact (by simpa using hstorable))

/-- Where all runs have universal time, or clocks that are ahead of it by the same, the stamps of
different seconds are different. -/
theorem fixed_stamps {ahead : Int}
    (hfixed : ∀ l ∈ launches, ∀ second, l.calendar second = .ofSeconds (second + ahead))
    (hseconds : (launches.map (·.now)).Nodup) :
    (launches.map (·.time.resultStamp)).Nodup := by
  have hstamps : launches.map (·.time.resultStamp) =
      (launches.map (·.now)).map fun second =>
        (Calendar.ofSeconds (second + ahead)).resultStamp := by
    rw [List.map_map]
    exact List.map_congr_left fun l hmem => congrArg Calendar.resultStamp (hfixed l hmem l.now)
  rw [hstamps]
  refine hseconds.map fun a b hsame => ?_
  have hsame := Calendar.result_stamp_injective hsame
  omega

end

def filed : Session :=
  let settings :=
    "log: \x7blevel: INFO\x7d\nsearch: \x7bsources: [dump]\x7d\ndump: \x7bpath: h\x7d\n" ++
    "storage: \x7benabled: off\x7d\noutput: \x7bbase_dir: out, formats: [json]\x7d\n"
  { files := ⟨[(["c.yml"], .text settings),
      (["h"], .text "[\x7b\"hash\":\"h\",\"size\":7,\"name\":\"film.mkv\"\x7d]")]⟩ }

def filedConfig : Config where
  logLevel := "INFO"
  logToFile := false
  logFolder := "log"
  sources := [.dump]
  workers := 4
  sanitizes := true
  extension := none
  dumpPath := "h"
  storageEnabled := false
  databasePath := "database/known.db"
  outputFolder := "out"
  formats := ["json"]

def launchOf (now : Int) (query : String) : Launch where
  now
  arguments := ["--config", "c.yml", "search", query]

def film : Launch := launchOf 0 "film"

def song : Launch := launchOf 1 "song"

theorem filed_runs :
    Config.load filed.files (.ofString "c.yml") (baseConfig filed.files (.ofString "c.yml")) =
        .ok filedConfig ∧
      (film.run filed).1.ending = .success ∧
      (runAll [film, launchOf film.now "song"] filed).files.readText
        (resultPath filedConfig film.time) = .ok (resultOf filedConfig "song" []).content := by
  decide +kernel

theorem film_searches : film.Searches filed.files filedConfig "film" none :=
  ⟨"c.yml", by decide +kernel, filed_runs.1⟩

theorem film_result_lasts :
    ([film, song].map (·.time.resultStamp)).Nodup ∧
      film.Searches filed.files filedConfig "film" none ∧
      (film.run filed).1.ending = .success ∧
      ∃ hits, film.Found filed.files filedConfig "film" none hits ∧
        (runAll [film, song] filed).files.readText (resultPath filedConfig film.time) =
          .ok (resultOf filedConfig "film" hits).content := by
  have hstamps : ([film, song].map (·.time.resultStamp)).Nodup := by
    apply @fixed_stamps _ 0
    · simp [film, song, launchOf]
    · decide
  have hsplit : [film, song] = [] ++ film :: [song] := rfl
  have hsuccess : (film.run (runAll [] filed)).1.ending = .success := by
    rw [run_all_nil]
    exact filed_runs.2.1
  obtain ⟨-, -, hits, hfound, hread, -⟩ :=
    @results_last _ _ _ _ filed _ _ _ hstamps hsplit film_searches List.mem_cons_self hsuccess
  exact ⟨hstamps, film_searches, filed_runs.2.1, hits, hfound, hread⟩

/-- Of two runs in one second the later one takes the file over. -/
theorem shared_second_overwritten :
    ¬ ∀ (launches before after : List Launch) (l : Launch) (s : Session) (config : Config)
      (query : String) (extension : Option String),
      launches = before ++ l :: after →
      l.Searches (runAll before s).files config query extension → "json" ∈ config.formats →
      (l.run (runAll before s)).1.ending = .success →
      ∃ hits, l.Found (runAll before s).files config query extension hits ∧
        (runAll launches s).files.readText (resultPath config l.time) =
          .ok (resultOf config query hits).content := by
  intro h
  have hfilm := h [film, launchOf film.now "song"] [] [launchOf film.now "song"] film filed
    filedConfig "film" none rfl
  rw [run_all_nil] at hfilm
  obtain ⟨hits, -, hread⟩ := hfilm film_searches List.mem_cons_self filed_runs.2.1
  rw [filed_runs.2.2] at hread
  have hcontent := congrArg String.toList (Except.ok.inj hread)
  simp only [resultOf, ResultFile.holding, ResultFile.content, Json.pretty, ResultFile.blocksOf,
    ResultFile.block, Json.print, Json.printField, String.toList_ofList, List.map_cons,
    List.map_nil] at hcontent
  rw [show Json.printText "song" = '"' :: 's' :: ['o', 'n', 'g', '"'] by decide,
    show Json.printText "film" = '"' :: 'f' :: ['i', 'l', 'm', '"'] by decide] at hcontent
  simp at hcontent

end Command

end FileSearch
