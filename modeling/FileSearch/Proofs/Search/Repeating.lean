import FileSearch.Json.Printer
import FileSearch.Proofs.History.Recalling
import FileSearch.Proofs.History.Steady
import FileSearch.Proofs.Search.Pipeline

/-!
# The same search once more

A search over a result file and the history remembers what the file has, with the sums over
all sources. So the history gives these sums to the next search, which counts them again
beside the file: the hits it shows are the same, and the counts grow.
-/

set_option autoImplicit false

namespace FileSearch.Search

open History

namespace Service

theorem conclude_sanitizes (service : Service) (query : String) (turns : List Turn) (t : Session) :
    ((conclude query turns service).run t).1.2.sanitizes = service.sanitizes := by
  by_cases h : service.recorder.isPresent = false ∨ Turn.remote service.sanitizes turns = []
  · rw [conclude_silent service rfl rfl h]
  · simp only [not_or, Bool.not_eq_false] at h
    rw [conclude_recorded service rfl rfl h.1 h.2]
    split <;> rfl

theorem search_concludes (query : String) (extension : Option String) (s : Session)
    (service : Service) (finishing : Finishing)
    (hnames : ∀ source ∈ service.sources, source.name?.isSome)
    (hquery : query.isEmpty = false) (hsources : service.sources ≠ [])
    (hany : service.answering query extension s ≠ []) :
    ∃ t, s.Quiet t ∧ (service.search query extension finishing).run s =
      (conclude query (service.turns query extension s)
        (service.served query extension s)).run t := by
  obtain ⟨t, hquiet, hrun⟩ :=
    search_stages query extension s service finishing hnames hquery hsources
  have hsome : service.available s ≠ [] :=
    fun hnone => hany (answering_unavailable query extension s service hnone)
  refine ⟨t, hquiet, ?_⟩
  rw [hrun, if_neg hsome, if_neg hany]

section
variable {query : String} {extension : Option String} {s : Session} {rows : List Row}
  {service : Service} {d : Dump} {finishing : Finishing}

theorem gathered_remote_eq (hsources : service.sources = [.dump d, .known]) :
    service.gatheredRemote query extension s =
      if responds query extension s (.dump d) then service.contribution query extension s (.dump d)
      else [] := by
  rw [gatheredRemote, answering_eq, hsources]
  cases hdump : responds query extension s (.dump d) <;>
    cases hknown : responds query extension s .known <;>
      simp [hdump, hknown, Source.isRemote]

theorem known_responds (h : Steady s rows) : responds query extension s .known = true := by
  rw [responds, Source.answer, steady_visible h]
  rfl

theorem known_contribution (h : Steady s rows) :
    service.contribution query extension s .known =
      recalled query extension service.sanitizes rows := by
  rw [contribution, Source.answer, steady_visible h]
  exact Hit.named_map service.sanitizes _

theorem gathered_eq (h : Steady s rows) (hsources : service.sources = [.dump d, .known]) :
    service.gathered query extension s =
      service.gatheredRemote query extension s ++
        recalled query extension service.sanitizes rows := by
  rw [gathered_remote_eq hsources, gathered, answering_eq, hsources]
  cases hdump : responds query extension s (.dump d) with
  | false => simp [hdump, known_responds h, known_contribution h]
  | true => simp [hdump, known_responds h, known_contribution h]

theorem remembered_eq :
    service.remembered query extension s =
      counted (fun content => Hit.totalSources
        (Hit.sharing content (service.gathered query extension s)))
        (service.gatheredRemote query extension s) := rfl

theorem record_history (hits : List Hit) (t : Session) :
    (Recorder.history.record hits).perform t =
      (((track hits).perform t).1.map fun _ => .history, ((track hits).perform t).2) := by
  rw [Recorder.record, Action.perform_bind]
  rcases (track hits).perform t with ⟨_ | _, u⟩ <;> rfl

structure Ending (query : String) (extension : Option String) (s : Session) (rows : List Row)
    (service : Service) (result : Answer × Session) : Prop where
  shown : result.1.1 =
    if ((service.remembered query extension s).map Sighting.ofHit).all Sighting.fits then
      .ok (Hit.aggregate (service.gathered query extension s))
    else .error (.history .tooLarge)
  leaves : Steady result.2
    (recordAll s.now ((service.remembered query extension s).map Sighting.ofHit) rows).1
  alike : s.files.Alike result.2.files
  recorder : result.1.2.recorder = .history

structure Step (query : String) (extension : Option String) (s : Session) (rows : List Row)
    (service : Service) (result : Answer × Session) : Prop
    extends Ending query extension s rows service result where
  sources : result.1.2.sources = service.sources.map fun source =>
    if source.isUp s.files then (source.answer query extension s).2 else source
  sanitizes : result.1.2.sanitizes = service.sanitizes

theorem ending_silent {result : Answer × Session} (h : Steady s rows)
    (houtcome : service.Outcome query extension s finishing result)
    (hanswering : service.answering query extension s ≠ [])
    (hrecorder : service.recorder = .history)
    (hremote : service.gatheredRemote query extension s = []) :
    service.Ending query extension s rows result := by
  obtain ⟨hshown, hkept, hquiet⟩ := houtcome.merged hanswering (.inr hremote)
  have hnone : service.remembered query extension s = [] := by
    rw [remembered, hremote, List.map_nil]
  constructor
  case shown => simpa [hnone] using hshown
  case leaves => simpa [hnone, recordAll] using quiet_steady hquiet h
  case alike =>
    rw [Session.quiet_files hquiet]
    exact Files.alike_refl _
  case recorder => rw [hkept, hrecorder]

theorem ending_recorded {result : Answer × Session} (h : Steady s rows)
    (houtcome : service.Outcome query extension s finishing result)
    (hanswering : service.answering query extension s ≠ [])
    (hrecorder : service.recorder = .history)
    (hremote : service.gatheredRemote query extension s ≠ []) :
    service.Ending query extension s rows result := by
  obtain ⟨t, hquiet, hrecorded⟩ := houtcome.recorded hanswering (by rw [hrecorder]; rfl) hremote
  rcases hall : recordAll t.now ((service.remembered query extension s).map Sighting.ofHit) rows
    with ⟨later, complete⟩
  have hcomplete : complete =
      ((service.remembered query extension s).map Sighting.ofHit).all Sighting.fits := by
    rw [← record_complete t.now _ rows, hall]
  obtain ⟨u, htrack, hsteady, halike⟩ := track_steady (quiet_steady hquiet h) hall
  rw [hrecorder, record_history, htrack] at hrecorded
  have hend : result.1.1 =
      (if complete then .ok (Hit.aggregate (service.gathered query extension s))
        else .error (.history .tooLarge)) ∧
      result.1.2.recorder = .history ∧ ∃ notes, result.2 = u.withNotes notes := by
    cases complete with
    | true => exact hrecorded
    | false =>
      obtain ⟨hshown, hkept, hlast⟩ := hrecorded
      exact ⟨hshown, hkept, u.notes, hlast⟩
  obtain ⟨hshown, hkept, notes, hlast⟩ := hend
  rw [quiet_now hquiet] at hall
  rw [Session.quiet_files hquiet] at halike
  constructor
  case shown => rw [← hcomplete, hshown]
  case leaves =>
    rw [hall, hlast]
    exact quiet_steady (.noted notes) hsteady
  case alike =>
    rw [hlast]
    exact halike
  case recorder => exact hkept

theorem outcome_ending {result : Answer × Session} (h : Steady s rows)
    (houtcome : service.Outcome query extension s finishing result)
    (hanswering : service.answering query extension s ≠ [])
    (hrecorder : service.recorder = .history) : service.Ending query extension s rows result := by
  by_cases hremote : service.gatheredRemote query extension s = []
  · exact ending_silent h houtcome hanswering hrecorder hremote
  · exact ending_recorded h houtcome hanswering hrecorder hremote

variable (query extension service finishing) in
theorem search_step (h : Steady s rows) (hsources : service.sources = [.dump d, .known])
    (hrecorder : service.recorder = .history) (hquery : query.isEmpty = false) :
    service.Step query extension s rows ((service.search query extension finishing).run s) := by
  have hnames : ∀ source ∈ service.sources, source.name?.isSome := by
    rw [hsources]
    simp [Source.name?]
  have hanswering : service.answering query extension s ≠ [] := by
    rw [answering_eq, hsources]
    exact List.ne_nil_of_mem (List.mem_filter.2 ⟨by simp, known_responds h⟩)
  have hsome : service.available s ≠ [] :=
    fun hnone => hanswering (answering_unavailable query extension s service hnone)
  obtain ⟨t, hquiet, hrun⟩ := search_concludes query extension s service finishing hnames hquery
    (by simp [hsources]) hanswering
  have houtcome := outcome_concluded query extension s service finishing hquiet hsome hanswering
  rw [hrun]
  exact ⟨outcome_ending h houtcome hanswering hrecorder, houtcome.asked,
    conclude_sanitizes _ query _ t⟩

end

section
variable (query : String) (extension : Option String)

/-- A result file, read before or not, gives the same as long as no file but databases changes. -/
theorem load_alike {files later : Files} (h : files.Alike later) (d : Dump) :
    d.load later = d.load files := by
  rw [Dump.load, Dump.load, Dump.readFile, Dump.readFile, Files.alike_read h]

theorem up_alike {files later : Files} (h : files.Alike later) (d : Dump) :
    (Source.dump d).isUp later = (Source.dump d).isUp files := by
  rw [Source.isUp, Source.isUp, Source.probe, Source.probe, Dump.isAvailable, Dump.isAvailable,
    Files.alike_is_file h]

theorem given_again {files later : Files} (h : files.Alike later) (d : Dump) :
    ((d.given query extension files).2.given query extension later).1 =
      (d.given query extension files).1 := by
  cases hload : d.load files with
  | error failure => simp only [Dump.given, hload, load_alike h]
  | ok hits =>
    have hkept : Dump.load { d with loaded := some hits } later = .ok hits := rfl
    simp only [Dump.given, hload, hkept]

theorem given_path (files : Files) (d : Dump) :
    (d.given query extension files).2.path = d.path := by
  rw [Dump.given]
  cases d.load files <;> rfl

theorem dump_again {s t : Session} (h : s.files.Alike t.files) (d : Dump) :
    ∃ again : Dump, (if (Source.dump d).isUp s.files then
        ((Source.dump d).answer query extension s).2 else .dump d) = .dump again ∧
      (Source.dump again).isUp t.files = (Source.dump d).isUp s.files ∧
      ((Source.dump again).answer query extension t).1 =
        ((Source.dump d).answer query extension s).1 := by
  by_cases hup : (Source.dump d).isUp s.files = true
  · have hgiven := given_again query extension h d
    refine ⟨(d.given query extension s.files).2, if_pos hup, ?_, hgiven⟩
    rw [up_alike h, Source.isUp, Source.isUp, Source.probe, Source.probe, Dump.isAvailable,
      Dump.isAvailable, given_path]
  · refine ⟨d, if_neg hup, up_alike h d, ?_⟩
    rw [Source.answer, Source.answer, Dump.given, Dump.given, load_alike h]

/-- The service that a search leaves is offered the same once more. -/
theorem remote_again {s t : Session} {service after : Service} {d : Dump}
    (h : s.files.Alike t.files) (hsources : service.sources = [.dump d, .known])
    (hafter : after.sources = service.sources.map fun source =>
      if source.isUp s.files then (source.answer query extension s).2 else source)
    (hsanitizes : after.sanitizes = service.sanitizes) :
    ∃ again : Dump, after.sources = [.dump again, .known] ∧
      after.gatheredRemote query extension t = service.gatheredRemote query extension s := by
  obtain ⟨again, hagain, hup, hanswer⟩ := dump_again query extension h d
  have hsources' : after.sources = [.dump again, .known] := by
    rw [hafter, hsources, List.map_cons, hagain]
    rfl
  refine ⟨again, hsources', ?_⟩
  rw [gathered_remote_eq hsources', gathered_remote_eq hsources, responds, responds, hup, hanswer,
    contribution, contribution, hanswer, hsanitizes]

end

def remembering (d : Dump) (sanitizes : Bool) (workers : Int) : Service where
  sources := [.dump d, .known]
  recorder := .history
  sanitizes := sanitizes
  workers := workers

/-- The sessions that searches lead to, complete or not, from the opening of a store on. No
key comes up twice in the table that is opened. Between searches the clock may be set, and
files other than databases may change. -/
inductive Reached : Session → Prop
  | opened {s t : Session} {path : Path} {rows : List Row} (hshared : s.shared = none)
    (hopen : (openAt path).perform s = (.ok (), t)) (hrows : visible t = .ok rows)
    (hnodup : (rows.map (·.key)).Nodup) : Reached t
  | searched {s : Session} (h : Reached s) (d : Dump) (sanitizes : Bool) (workers : Int)
    (query : String) (extension : Option String) (finishing : Finishing) :
    Reached (((remembering d sanitizes workers).search query extension finishing).run s).2
  | elapsed {s t : Session} (h : Reached s) (hshared : t.shared = s.shared)
    (hattached : t.attached = s.attached)
    (hfiles : ∀ place db, s.files.entry? place = some (.database db) →
      t.files.entry? place = some (.database db)) : Reached t

theorem reached_steady {s : Session} (h : Reached s) :
    ∃ rows, Steady s rows ∧ (rows.map (·.key)).Nodup := by
  induction h with
  | opened hshared hopen hrows hnodup =>
    exact ⟨_, ready_steady (open_ready hshared hopen hrows), hnodup⟩
  | @searched s _ d sanitizes workers query extension finishing ih =>
    obtain ⟨rows, hsteady, hnodup⟩ := ih
    cases hquery : query.isEmpty with
    | true =>
      have hrun : ((remembering d sanitizes workers).search query extension finishing).run s =
          ((.ok [], remembering d sanitizes workers), s) := by
        rw [search, hquery]
        rfl
      rw [hrun]
      exact ⟨rows, hsteady, hnodup⟩
    | false =>
      have hstep := search_step query extension (remembering d sanitizes workers) finishing hsteady
        rfl rfl hquery
      exact ⟨_, hstep.leaves, record_nodup hnodup _ _⟩
  | elapsed _ hshared hattached hfiles ih =>
    obtain ⟨rows, hsteady, hnodup⟩ := ih
    exact ⟨rows, steady_elsewhere hshared hattached hfiles hsteady, hnodup⟩

def Later (s t : Session) : Prop :=
  t.files = s.files ∧ t.shared = s.shared ∧ t.attached = s.attached

/-- The count that the next search shows for a content: what the file has of it, what the
history has of it under other keys, and the count of this search once for each key that the
history gives back. -/
def recount (query : String) (extension : Option String) (s : Session) (service : Service)
    (rows : List Row) (content : String) : Int :=
  let remote := service.gatheredRemote query extension s
  Hit.totalSources (Hit.sharing content remote) +
    Hit.totalSources (Hit.sharing content (remaining query extension remote rows)) +
    ((returning query extension remote).filter (·.content = content)).length *
      Hit.totalSources (Hit.sharing content (service.gathered query extension s))

section
variable (query : String) (extension : Option String) {s : Session} {rows : List Row}
  {service : Service} {d : Dump}

theorem remote_names (hsources : service.sources = [.dump d, .known]) :
    ∀ h ∈ service.gatheredRemote query extension s,
      Hit.passedName service.sanitizes h.name = h.name := by
  intro h hh
  rw [gathered_remote_eq hsources] at hh
  split at hh
  · rw [contribution] at hh
    split at hh
    · rw [Hit.named_map] at hh
      obtain ⟨offered, -, rfl⟩ := List.mem_map.1 hh
      exact Hit.passed_name_passed service.sanitizes offered.name
    · cases hh
  · cases hh

/-- A content that the file does not have keeps its count. -/
theorem recount_elsewhere (h : Steady s rows) (hsources : service.sources = [.dump d, .known])
    {content : String}
    (hnone : ∀ o ∈ service.gatheredRemote query extension s, o.contentKey ≠ content) :
    service.recount query extension s rows content =
      Hit.totalSources (Hit.sharing content (service.gathered query extension s)) := by
  have hkeys : ∀ key ∈ keysOf (service.gatheredRemote query extension s),
      key.content ≠ content := by
    intro key hkey
    obtain ⟨offered, hoffered, rfl⟩ := List.mem_map.1 hkey
    exact hnone offered hoffered
  have hoffered : Hit.sharing content (service.gatheredRemote query extension s) = [] := by
    rw [Hit.sharing, List.filter_eq_nil_iff]
    intro offered hmem
    simpa using hnone offered hmem
  have hreturning : (returning query extension (service.gatheredRemote query extension s)).filter
      (·.content = content) = [] := by
    rw [List.filter_eq_nil_iff]
    intro key hkey
    have hmem := List.mem_eraseDups.1 (List.mem_filter.1 hkey).1
    simpa using hkeys key hmem
  have hremaining : Hit.totalSources (Hit.sharing content
      (remaining query extension (service.gatheredRemote query extension s) rows)) =
        Hit.totalSources (Hit.sharing content
          (recalled query extension service.sanitizes rows)) := by
    rw [remaining_total, recalled_total]
    congr 2
    apply List.filter_congr
    intro row _
    by_cases hcontent : row.key.content = content
    · have hapart : row.key ∉ keysOf (service.gatheredRemote query extension s) :=
        fun hmem => hkeys row.key hmem hcontent
      simp [hapart]
    · simp [hcontent]
  rw [recount, gathered_eq h hsources, Hit.sharing_append, hoffered, hreturning, hremaining,
    List.nil_append, List.length_nil]
  simp [Hit.totalSources]

/-- After a search that the history has taken in, the next one gathers the same hits to show,
and more to count. -/
theorem gathered_again {t : Session} {after : Service} {again : Dump} (h : Steady s rows)
    (hnodup : (rows.map (·.key)).Nodup)
    (hfits : ((service.remembered query extension s).map Sighting.ofHit).all Sighting.fits = true)
    (ht : Steady t
      (recordAll s.now ((service.remembered query extension s).map Sighting.ofHit) rows).1)
    (hsources : service.sources = [.dump d, .known])
    (hafter : after.sources = [.dump again, .known])
    (hsanitizes : after.sanitizes = service.sanitizes)
    (hsame : after.gatheredRemote query extension t = service.gatheredRemote query extension s) :
    Hit.distinct (after.gathered query extension t) =
        Hit.distinct (service.gathered query extension s) ∧
      ∀ content, Hit.totalSources (Hit.sharing content (after.gathered query extension t)) =
        service.recount query extension s rows content := by
  rw [gathered_eq ht hafter, hsame, hsanitizes, remembered_eq]
  rw [remembered_eq] at hfits
  constructor
  · rw [gathered_eq h hsources]
    exact recalled_distinct query extension service.sanitizes
      (remote_names query extension hsources) _ s.now rows
  · intro content
    rw [Hit.sharing_append, Hit.total_append,
      recalled_recount query extension service.sanitizes hnodup s.now content hfits, recount,
      Int.add_assoc]

theorem next_shown {t : Session} {result : Answer × Session} (h : Steady s rows)
    (hnodup : (rows.map (·.key)).Nodup) (hsources : service.sources = [.dump d, .known])
    (hfits : ((service.remembered query extension s).map Sighting.ofHit).all Sighting.fits = true)
    (hquery : query.isEmpty = false) (hstep : service.Step query extension s rows result)
    (hlater : Later result.2 t) (finishing : Finishing) :
    ((result.1.2.search query extension finishing).run t).1.1 =
      if ((counted (service.recount query extension s rows)
          (service.gatheredRemote query extension s)).map Sighting.ofHit).all Sighting.fits then
        .ok ((Hit.aggregate (service.gathered query extension s)).map fun h =>
          { h with sources := service.recount query extension s rows h.contentKey })
      else .error (.history .tooLarge) := by
  obtain ⟨hfiles, hshared, hattached⟩ := hlater
  have ht := steady_elsewhere hshared hattached (fun place db hentry => hfiles ▸ hentry)
    hstep.leaves
  obtain ⟨again, hagain, hsame⟩ := remote_again query extension (hfiles ▸ hstep.alike)
    hsources hstep.sources hstep.sanitizes
  obtain ⟨hdistinct, htotal⟩ := gathered_again query extension h hnodup hfits ht hsources hagain
    hstep.sanitizes hsame
  have hnext := search_step query extension result.1.2 finishing ht hagain hstep.recorder hquery
  have hremembered : result.1.2.remembered query extension t =
      counted (service.recount query extension s rows)
        (service.gatheredRemote query extension s) := by
    rw [remembered_eq, hsame, funext htotal]
  rw [hnext.shown, hremembered, Hit.aggregate_again hdistinct]
  simp only [htotal]

end

/-- A search over a result file and the history, and the same one later. The first fails only
where a count does not fit its column, and so does the second. The second shows the hits that
the first has shown, and of a content that the file has it counts what the first has shown
once more for each key of it that the history gives back. -/
theorem search_again {s : Session} (hreached : Reached s) (d : Dump) (sanitizes : Bool)
    (workers : Int) (query : String) (extension : Option String) (finishing finishing' : Finishing)
    (hquery : query.isEmpty = false) :
    ∃ rows, visible s = .ok rows ∧
      let service := remembering d sanitizes workers
      let offered := service.gatheredRemote query extension s
      let first := (service.search query extension finishing).run s
      let count := service.recount query extension s rows
      (first.1.1 =
        if ((service.remembered query extension s).map Sighting.ofHit).all Sighting.fits then
          .ok (Hit.aggregate (service.gathered query extension s))
        else .error (.history .tooLarge)) ∧
      ∀ found t, first.1.1 = .ok found → Later first.2 t →
        ((first.1.2.search query extension finishing').run t).1.1 =
          (if ((counted count offered).map Sighting.ofHit).all Sighting.fits then
            .ok (found.map fun h => { h with sources := count h.contentKey })
          else .error (.history .tooLarge)) ∧
        ∀ h ∈ found, (∀ o ∈ offered, o.contentKey ≠ h.contentKey) →
          count h.contentKey = h.sources := by
  obtain ⟨rows, hsteady, hnodup⟩ := reached_steady hreached
  refine ⟨rows, steady_visible hsteady, ?_⟩
  intro service offered first count
  have hstep := search_step query extension service finishing hsteady rfl rfl hquery
  refine ⟨hstep.shown, ?_⟩
  intro found t hfound hlater
  have hshown := hstep.shown
  have hfits : ((service.remembered query extension s).map Sighting.ofHit).all Sighting.fits =
      true := by
    by_contra hno
    rw [if_neg hno] at hshown
    cases hshown.symm.trans hfound
  rw [if_pos hfits] at hshown
  obtain rfl : found = Hit.aggregate (service.gathered query extension s) :=
    Except.ok.inj (hfound.symm.trans hshown)
  refine ⟨next_shown query extension hsteady hnodup rfl hfits hquery hstep hlater finishing', ?_⟩
  intro h hh hnone
  rw [Hit.aggregate_sources hh]
  exact recount_elsewhere query extension hsteady rfl hnone

def stocked : Session :=
  let saved := (Json.list [Hit.toJson ⟨"h", 7, "a", 5, []⟩]).pretty
  { files := ⟨[(["hits"], .text saved)]⟩ }

def started : Session := ((openAt ⟨"", ["db"]⟩).perform stocked).2

theorem started_empty : visible started = .ok [] := by
  decide +kernel

theorem started_reached : Reached started := by
  have hopen : (openAt ⟨"", ["db"]⟩).perform stocked = (.ok (), started) :=
    Prod.ext (by decide +kernel) rfl
  have hshared : stocked.shared = none := rfl
  exact .opened hshared hopen started_empty List.nodup_nil

def reader : Service := remembering { path := ⟨"", ["hits"]⟩ } true 4

def firstTime : Answer × Session := (reader.search "a" none).run started

def secondTime : Answer × Session := (firstTime.1.2.search "a" none).run firstTime.2

theorem second_time_again :
    Reached started ∧ "a".isEmpty = false ∧ ∃ hits : List Hit, firstTime.1.1 = .ok hits ∧
      secondTime.1.1 = .ok (hits.map fun h =>
        { h with sources := reader.recount "a" none started [] h.contentKey }) := by
  refine ⟨started_reached, by decide, ?_⟩
  have hfirst : firstTime.1.1.isOk = true := by decide +kernel
  have hsecond : secondTime.1.1.isOk = true := by decide +kernel
  obtain ⟨rows, hrows, -, hagain⟩ :=
    search_again started_reached { path := ⟨"", ["hits"]⟩ } true 4 "a" none .inTurn .inTurn
      (by decide)
  rw [← reader, ← firstTime] at hagain
  rw [secondTime] at hsecond ⊢
  cases started_empty.symm.trans hrows
  generalize firstTime = first at hagain hfirst hsecond ⊢
  cases hshown : first.1.1 with
  | error failure =>
    rw [hshown] at hfirst
    cases hfirst
  | ok hits =>
    obtain ⟨hnext, -⟩ := hagain hits first.2 hshown ⟨rfl, rfl, rfl⟩
    split at hnext
    · exact ⟨hits, rfl, hnext⟩
    · rw [hnext] at hsecond
      cases hsecond

def facts (result : Answer × Session) : Option (List (String × Int × String × Int)) :=
  result.1.1.toOption.map (·.map fun h => (h.hash, h.size, h.name, h.sources))

/-- A search is not the same the second time: the history gives the count of the first one
back, and it is added to the file's. -/
theorem second_time_grown :
    Reached started ∧ Later firstTime.2 firstTime.2 ∧
      facts firstTime = some [("h", 7, "a", 5)] ∧ facts secondTime = some [("h", 7, "a", 10)] :=
  ⟨started_reached, ⟨rfl, rfl, rfl⟩, by decide +kernel, by decide +kernel⟩

end Service

end FileSearch.Search
