import FileSearch.Proofs.Query.SafeNames
import FileSearch.Proofs.Search.Repeating

/-!
# What was found is recalled

Every hit that a search over a result file returns is in the history afterwards, under the name
it was returned with. The history is searched by these names. The result file is searched by
the names it has, so where names are made safe, the history may not give a hit back that has
lost what the query asks for.
-/

set_option autoImplicit false

namespace FileSearch

theorem Hit.aggregate_key {hits : List Hit} {h : Hit} (hmem : h ∈ Hit.aggregate hits) :
    (History.Sighting.ofHit h).key ∈ History.keysOf hits := by
  rw [Hit.aggregate_eq] at hmem
  obtain ⟨shown, hshown, rfl⟩ := List.mem_map.1 hmem
  obtain ⟨content, -, hfirst⟩ := List.mem_flatMap.1 hshown
  have hin : shown ∈ hits := (List.mem_filter.1 (Hit.first_named_mem hfirst)).1
  exact List.mem_map.2 ⟨shown, hin, rfl⟩

namespace History

theorem select_keys (query : String) (extension : Option String) (rows : List Row) (key : Key) :
    key ∈ keysOf (select query extension rows) ↔
      key ∈ rows.map (·.key) ∧ key.passes query extension = true := by
  obtain ⟨found, hfound, hperm, -⟩ := select_spec query extension rows
  rw [hfound, keysOf, List.map_map]
  constructor
  · intro hkey
    obtain ⟨row, hrow, rfl⟩ := List.mem_map.1 hkey
    obtain ⟨hmem, hpasses⟩ := List.mem_filter.1 (hperm.mem_iff.1 hrow)
    exact ⟨List.mem_map_of_mem hmem, hpasses⟩
  · rintro ⟨hkey, hpasses⟩
    obtain ⟨row, hrow, rfl⟩ := List.mem_map.1 hkey
    exact List.mem_map.2 ⟨row, hperm.mem_iff.2 (List.mem_filter.2 ⟨hrow, hpasses⟩), rfl⟩

/-- Complete or not, a batch leaves a store that can still be used. -/
theorem track_goes_on {s : Session} {rows : List Row} (h : Steady s rows) (hits : List Hit) :
    ∃ later, Steady ((track hits).perform s).2 later := by
  rcases hall : recordAll s.now (hits.map Sighting.ofHit) rows with ⟨later, complete⟩
  obtain ⟨t, htrack, hsteady, -⟩ := track_steady h hall
  rw [htrack]
  exact ⟨later, hsteady⟩

end History

namespace Search

open History

namespace Service

theorem record_steady {s : Session} {rows : List Row} (h : Steady s rows) (recorder : Recorder)
    (hits : List Hit) : ∃ later, Steady ((recorder.record hits).perform s).2 later := by
  cases recorder with
  | nothing => exact ⟨rows, h⟩
  | list kept => exact ⟨rows, h⟩
  | history =>
    rw [record_history]
    exact track_goes_on h hits

/-- Whatever sources a search asks, and wherever it fails, the store can still be used. -/
theorem search_steady {s : Session} {rows : List Row} (h : Steady s rows) (service : Service)
    (hnames : ∀ source ∈ service.sources, source.name?.isSome) (query : String)
    (extension : Option String) (finishing : Finishing) :
    ∃ later, Steady ((service.search query extension finishing).run s).2 later := by
  rcases search_calls query extension s service finishing hnames with
    hquiet | ⟨t, hits, hquiet, hrecord⟩
  · exact ⟨rows, quiet_steady hquiet h⟩
  obtain ⟨later, hlater⟩ := record_steady (quiet_steady hquiet h) service.recorder hits
  refine ⟨later, ?_⟩
  rcases hperform : (service.recorder.record hits).perform t with ⟨failure | recorder, u⟩
  · rw [hperform] at hrecord hlater
    rw [hrecord.2]
    exact hlater
  · rw [hperform] at hrecord hlater
    obtain ⟨-, notes, hlast⟩ := hrecord
    rw [hlast]
    exact quiet_steady (.noted notes) hlater

end Service

/-- The sessions of a store that was opened on a database with its table. Since then hits may
have been tracked and searches run over any sources, complete or not, the clock may have been
set, and files other than databases may have changed. -/
inductive InUse : Session → Prop
  | opened {s t : Session} {path : Path} {rows : List Row} (hshared : s.shared = none)
    (hopen : (openAt path).perform s = (.ok (), t)) (hrows : visible t = .ok rows) : InUse t
  | tracked {s : Session} (h : InUse s) (hits : List Hit) : InUse ((track hits).perform s).2
  | searched {s : Session} (h : InUse s) (service : Service)
    (hnames : ∀ source ∈ service.sources, source.name?.isSome) (query : String)
    (extension : Option String) (finishing : Finishing) :
    InUse ((service.search query extension finishing).run s).2
  | elapsed {s t : Session} (h : InUse s) (hshared : t.shared = s.shared)
    (hattached : t.attached = s.attached)
    (hfiles : ∀ place db, s.files.entry? place = some (.database db) →
      t.files.entry? place = some (.database db)) : InUse t

theorem in_use_steady {s : Session} (h : InUse s) : ∃ rows, Steady s rows := by
  induction h with
  | opened hshared hopen hrows => exact ⟨_, ready_steady (open_ready hshared hopen hrows)⟩
  | @tracked s _ hits ih =>
    obtain ⟨rows, hsteady⟩ := ih
    exact track_goes_on hsteady hits
  | searched _ service hnames query extension finishing ih =>
    obtain ⟨rows, hsteady⟩ := ih
    exact Service.search_steady hsteady service hnames query extension finishing
  | elapsed _ hshared hattached hfiles ih =>
    obtain ⟨rows, hsteady⟩ := ih
    exact ⟨rows, steady_elsewhere hshared hattached hfiles hsteady⟩

def recording (d : Dump) (sanitizes : Bool) (workers : Int) : Service where
  sources := [.dump d]
  recorder := .history
  sanitizes := sanitizes
  workers := workers

namespace Service

section
variable {query : String} {extension : Option String} {s t : Session} {rows : List Row}
  {service after : Service} {d : Dump} {finishing : Finishing} {found : List Hit}

theorem dump_gathered (hsources : service.sources = [.dump d]) :
    service.gatheredRemote query extension s = service.gathered query extension s := by
  rw [gatheredRemote, gathered, answering_eq, hsources]
  cases hdump : responds query extension s (.dump d) <;> simp [hdump, Source.isRemote]

/-- What is gathered are hits of the file that pass, under the names that are passed on. -/
theorem gathered_offered (hsources : service.sources = [.dump d]) {h : Hit}
    (hmem : h ∈ service.gathered query extension s) :
    ∃ offered o, d.load s.files = .ok offered ∧ o ∈ offered ∧
      Query.hasExtension o.name extension = true ∧ Query.keeps query o.name = true ∧
      h.name = Hit.passedName service.sanitizes o.name := by
  obtain ⟨source, hsource, hmem⟩ := List.mem_flatMap.1 hmem
  rw [answering_eq, hsources] at hsource
  obtain rfl := List.mem_singleton.1 (List.mem_filter.1 hsource).1
  rw [contribution, Source.answer, Dump.given] at hmem
  cases hload : d.load s.files with
  | error failure =>
    rw [hload] at hmem
    cases hmem
  | ok offered =>
    simp only [hload, Hit.named_map] at hmem
    obtain ⟨o, ho, rfl⟩ := List.mem_map.1 hmem
    obtain ⟨hoffered, hpasses⟩ := List.mem_filter.1 ho
    obtain ⟨hextension, hkeeps⟩ := Bool.and_eq_true_iff.1 hpasses
    exact ⟨offered, o, rfl, hoffered, hextension, hkeeps, rfl⟩

/-- Where a search over a result file returns hits, the store has the keys of all of them. -/
theorem found_kept (h : Steady s rows) (hsources : service.sources = [.dump d])
    (hrecorder : service.recorder = .history)
    (hsearch : (service.search query extension finishing).run s = ((.ok found, after), t)) :
    ∃ later, Steady t later ∧
      ∀ hit ∈ found, (Sighting.ofHit hit).key ∈ keysOf (service.gathered query extension s) ∧
        (Sighting.ofHit hit).key ∈ later.map (·.key) := by
  by_cases hquery : query.isEmpty = true
  · rw [search, if_pos hquery] at hsearch
    cases hsearch
    exact ⟨rows, h, by simp⟩
  have hnames : ∀ source ∈ service.sources, source.name?.isSome := by
    rw [hsources]
    simp [Source.name?]
  obtain ⟨m, hquiet, hrun⟩ := search_stages query extension s service finishing hnames
    (by simpa using hquery) (by simp [hsources])
  rw [hsearch] at hrun
  by_cases hsome : service.available s = []
  · rw [if_pos hsome] at hrun
    cases hrun
    exact ⟨rows, quiet_steady hquiet h, by simp⟩
  rw [if_neg hsome] at hrun
  by_cases hanswering : service.answering query extension s = []
  · rw [if_pos hanswering] at hrun
    cases hrun
  rw [if_neg hanswering] at hrun
  have houtcome := outcome_concluded query extension s service finishing hquiet hsome hanswering
  rw [← hrun] at houtcome
  have hending := outcome_ending h houtcome hanswering hrecorder
  refine ⟨_, hending.leaves, fun hit hhit => ?_⟩
  have hshown := hending.shown
  split at hshown
  · next hfits =>
    obtain rfl := Except.ok.inj hshown
    have hkey := Hit.aggregate_key hhit
    refine ⟨hkey, (record_keys hfits s.now rows _).2 (.inr ?_)⟩
    rwa [remembered_eq, counted_keys, dump_gathered hsources]
  · cases hshown

end

/-- A search over a result file that returns leaves every hit in the history. Searching the
history then gives those back whose names, as they were returned, pass the extension and the
query; and these are all of them where names are left alone, and where the query and the
extension ask for letters and digits of ASCII and no name stands for others. Negated words
never matter. -/
theorem found_recalled {s t : Session} (hused : InUse s) (d : Dump) (sanitizes : Bool)
    (workers : Int) (query : String) (extension : Option String) {finishing : Finishing}
    {found : List Hit} {after : Service}
    (hsearch : ((recording d sanitizes workers).search query extension finishing).run s =
      ((.ok found, after), t)) :
    ∃ rows recalled u, visible t = .ok rows ∧
      (History.search query extension).perform t = (.ok recalled, u) ∧
      (∀ h ∈ found, (Sighting.ofHit h).key ∈ rows.map (·.key) ∧
        ((Sighting.ofHit h).key ∈ keysOf recalled ↔
          Query.hasExtension h.name extension = true ∧ Query.keeps query h.name = true)) ∧
      ((sanitizes = true → Query.SafeWords (Query.parse query) ∧ Query.SafeExtension extension ∧
          ∀ offered, d.load s.files = .ok offered → ∀ o ∈ offered, Hit.ClearName o.name) →
        ∀ h ∈ found, (Sighting.ofHit h).key ∈ keysOf recalled) := by
  obtain ⟨before, hsteady⟩ := in_use_steady hused
  obtain ⟨rows, hlater, hkept⟩ := found_kept hsteady rfl rfl hsearch
  have hvisible := steady_visible hlater
  obtain ⟨hrecalled, -⟩ := search_perform query extension t
  rw [hvisible] at hrecalled
  have hback : ∀ h ∈ found, (Sighting.ofHit h).key ∈ keysOf (select query extension rows) ↔
      Query.hasExtension h.name extension = true ∧ Query.keeps query h.name = true := by
    intro h hh
    rw [select_keys, Key.passes, Bool.and_eq_true]
    exact and_iff_right (hkept h hh).2
  refine ⟨rows, select query extension rows, _, hvisible, Prod.ext hrecalled rfl,
    fun h hh => ⟨(hkept h hh).2, hback h hh⟩, ?_⟩
  intro hclear h hh
  obtain ⟨g, hg, hkey⟩ := List.mem_map.1 (hkept h hh).1
  obtain ⟨offered, o, hload, ho, hextension, hkeeps, hname⟩ := gathered_offered rfl hg
  have hsame : h.name = g.name := (congrArg Key.name hkey).symm
  rw [hback h hh, hsame, hname]
  cases sanitizes with
  | false => exact ⟨hextension, hkeeps⟩
  | true =>
    obtain ⟨hwords, hpoints, hnames⟩ := hclear rfl
    have hname := hnames offered hload o ho
    exact ⟨Query.has_extension_safe hname hpoints hextension,
      Query.keeps_safe hname hwords hkeeps⟩

def catalogued : Session :=
  let saved := "[\x7b\"hash\":\"h\",\"size\":7,\"name\":\"c++\"\x7d," ++
    "\x7b\"hash\":\"g\",\"size\":9,\"name\":\"a film.avi\"\x7d]"
  { files := ⟨[(["hits"], .text saved)]⟩ }

def shelf : Session := ((openAt ⟨"", ["db"]⟩).perform catalogued).2

theorem shelf_in_use : InUse shelf := by
  have hopen : (openAt ⟨"", ["db"]⟩).perform catalogued = (.ok (), shelf) :=
    Prod.ext (by decide +kernel) rfl
  have hrows : visible shelf = .ok [] := by decide +kernel
  exact .opened rfl hopen hrows

def catalogue : Dump := { path := ⟨"", ["hits"]⟩ }

theorem catalogue_clear (offered : List Hit) (h : catalogue.load shelf.files = .ok offered) :
    ∀ o ∈ offered, Hit.ClearName o.name := by
  have hnames : (catalogue.load shelf.files).map (·.map Hit.name) =
      .ok ["c++", "a film.avi"] := by decide +kernel
  rw [h] at hnames
  intro o ho
  have hname : o.name ∈ ["c++", "a film.avi"] :=
    Except.ok.inj hnames ▸ List.mem_map_of_mem ho
  rcases List.mem_pair.1 hname with heq | heq
  · rw [heq]
    decide +kernel
  · rw [heq]
    decide +kernel

def keysShown (result : Answer × Session) : Option (List Key) := (result.1.1.map keysOf).toOption

theorem film_recalled :
    InUse shelf ∧ ∃ found after t,
      ((recording catalogue true 4).search "film NOT ++" (some "avi")).run shelf =
        ((.ok found, after), t) ∧
      keysOf found = [⟨"g", 9, "a.film.avi"⟩] ∧
      ∃ recalled u, (History.search "film NOT ++" (some "avi")).perform t = (.ok recalled, u) ∧
        ∀ h ∈ found, (Sighting.ofHit h).key ∈ keysOf recalled := by
  refine ⟨shelf_in_use, ?_⟩
  have hshown : keysShown
      (((recording catalogue true 4).search "film NOT ++" (some "avi")).run shelf) =
        some [⟨"g", 9, "a.film.avi"⟩] := by decide +kernel
  rcases hrun : ((recording catalogue true 4).search "film NOT ++" (some "avi")).run shelf with
    ⟨⟨failure | found, after⟩, t⟩
  · rw [hrun] at hshown
    cases hshown
  rw [hrun] at hshown
  obtain ⟨-, recalled, u, -, hperform, -, hall⟩ :=
    found_recalled shelf_in_use catalogue true 4 "film NOT ++" (some "avi") hrun
  refine ⟨found, after, t, rfl, Option.some.inj hshown, recalled, u, hperform, hall fun _ => ?_⟩
  refine ⟨by decide +kernel, ?_, catalogue_clear⟩
  rintro text ⟨⟩
  exact .inr (by decide +kernel)

/-- What was found is not always recalled: made safe, a name may lose what the query asks for. -/
theorem plus_not_recalled :
    InUse shelf ∧ ∃ found after t,
      ((recording catalogue true 4).search "c++" none).run shelf = ((.ok found, after), t) ∧
      keysOf found = [⟨"h", 7, "c.."⟩] ∧
      ∃ u, (History.search "c++" none).perform t = (.ok [], u) := by
  refine ⟨shelf_in_use, ?_⟩
  have hshown : keysShown (((recording catalogue true 4).search "c++" none).run shelf) =
      some [⟨"h", 7, "c.."⟩] := by decide +kernel
  have hlost : (((History.search "c++" none).perform
      (((recording catalogue true 4).search "c++" none).run shelf).2).1.map keysOf).toOption =
        some [] := by decide +kernel
  rcases hrun : ((recording catalogue true 4).search "c++" none).run shelf with
    ⟨⟨failure | found, after⟩, t⟩
  · rw [hrun] at hshown
    cases hshown
  rw [hrun] at hshown hlost
  refine ⟨found, after, t, rfl, Option.some.inj hshown, ?_⟩
  rcases hperform : (History.search "c++" none).perform t with ⟨failure | recalled, u⟩
  · rw [hperform] at hlost
    cases hlost
  rw [hperform] at hlost
  obtain rfl := List.map_eq_nil_iff.1 (Option.some.inj hlost)
  exact ⟨u, rfl⟩

end Service

end Search

end FileSearch
