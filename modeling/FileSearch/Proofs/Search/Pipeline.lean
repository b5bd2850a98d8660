import FileSearch.Proofs.Search.Asking
import FileSearch.Proofs.Hit.Grouping
import Mathlib.Data.List.Basic
import Mathlib.Tactic.SplitIfs

/-!
# The whole search

The result of a search and what it leaves in the history, told from the session in
which it starts: which sources are up, what these answer, and which of them are remote.
The hits are in the order of the configuration, whichever source finishes first. Only where
all sources fail does the order show in which they do.
-/

set_option autoImplicit false

namespace FileSearch.Search

open Session

namespace Service

section
variable (query : String) (extension : Option String) (s : Session) (service : Service)

def available : List Source := service.sources.filter (·.isUp s.files)

def answering : List Source :=
  (service.available s).filter fun source => (source.answer query extension s).1.isOk

def contribution (source : Source) : List Hit :=
  match (source.answer query extension s).1 with
  | .ok hits => if service.sanitizes then hits.map Hit.sanitize else hits
  | .error _ => []

def gathered : List Hit :=
  (service.answering query extension s).flatMap (service.contribution query extension s)

def gatheredRemote : List Hit :=
  ((service.answering query extension s).filter (·.isRemote)).flatMap
    (service.contribution query extension s)

def remembered : List Hit :=
  (service.gatheredRemote query extension s).map fun hit =>
    { hit with
      sources :=
        Hit.totalSources (Hit.sharing hit.contentKey (service.gathered query extension s)) }

def finishers (finishing : Finishing) : List Source :=
  (finishing.order (seats s.files service.sources)).map (·.2)

theorem finishers_perm (finishing : Finishing) :
    (service.finishers s finishing).Perm (service.available s) := by
  rw [available, ← seats_sources]
  exact (finishing.perm _).map _

theorem finishers_in_turn : service.finishers s .inTurn = service.available s :=
  seats_sources s.files service.sources

def Untouched (result : Answer × Session) : Prop :=
  result.1.2.recorder = service.recorder ∧ s.Quiet result.2

structure Outcome (finishing : Finishing) (result : Answer × Session) : Prop where
  /-- The sources that are up are asked, once each, and no other ones. -/
  asked : result.1.2.sources = service.sources.map fun source =>
    if source.isUp s.files then (source.answer query extension s).2 else source
  calls : result.1.2.sources.map (·.calls?) = service.sources.map fun source =>
    source.calls?.map fun calls =>
      if source.isUp s.files then calls ++ [.search query extension] else calls
  unavailable : service.available s = [] →
    result.1.1 = .ok [] ∧ service.Untouched s result
  /-- Where all of them fail, all are named, in the order in which they did. -/
  failed : service.available s ≠ [] → service.answering query extension s = [] →
    result.1.1 = .error (.allFailed ((service.finishers s finishing).filterMap (·.name?))) ∧
      service.Untouched s result
  ranked : (service.finishers s finishing).Perm (service.available s)
  /-- This is their order in the configuration, unless one of them is faster. -/
  inTurn : finishing = .inTurn → service.finishers s finishing = service.available s
  /-- Without a remote hit, or a store, there is nothing to remember. -/
  merged : service.answering query extension s ≠ [] →
    (service.recorder.isPresent = false ∨ service.gatheredRemote query extension s = []) →
    result.1.1 = .ok (Hit.aggregate (service.gathered query extension s)) ∧
      service.Untouched s result
  /-- Otherwise the store is called once; where that fails the search does. -/
  recorded : service.answering query extension s ≠ [] → service.recorder.isPresent = true →
    service.gatheredRemote query extension s ≠ [] →
    ∃ t, s.Quiet t ∧
      match (service.recorder.record (service.remembered query extension s)).perform t with
      | (.ok recorder, u) =>
        result.1.1 = .ok (Hit.aggregate (service.gathered query extension s)) ∧
          result.1.2.recorder = recorder ∧ ∃ notes, result.2 = u.withNotes notes
      | (.error failure, u) =>
        result.1.1 = .error failure ∧ result.1.2.recorder = service.recorder ∧ result.2 = u

def turns : List Turn := service.sources.map (·.turn query extension s)

def served : Service :=
  { service with sources := (service.turns query extension s).map (·.source) }

end

def Turn.all (sanitizes : Bool) (turns : List Turn) : List Hit := turns.flatMap (·.hits sanitizes)

def Turn.remote (sanitizes : Bool) (turns : List Turn) : List Hit :=
  (turns.filter (·.source.isRemote)).flatMap (·.hits sanitizes)

def finished (query : String) (hits : List Hit) : Log.Record :=
  ⟨Log.info, s!"Search '{query}' finished with {hits.length} results"⟩

section
variable (service : Service) {turns : List Turn} {all remote : List Hit}

theorem conclude_silent (hall : Turn.all service.sanitizes turns = all)
    (hremote : Turn.remote service.sanitizes turns = remote)
    (h : service.recorder.isPresent = false ∨ remote = []) (query : String) (t : Session) :
    (conclude query turns service).run t =
      ((.ok (Hit.aggregate all), service),
        t.withNotes (t.notes ++ [finished query (Hit.aggregate all)])) := by
  subst hall hremote
  have hcall : (service.recorder.isPresent &&
      !(Turn.remote service.sanitizes turns).isEmpty) = false := by
    rcases h with h | h <;> simp [h]
  rw [Turn.remote] at hcall
  rw [conclude]
  simp only [hcall]
  rfl

theorem conclude_recorded (hall : Turn.all service.sanitizes turns = all)
    (hremote : Turn.remote service.sanitizes turns = remote)
    (h : service.recorder.isPresent = true) (hne : remote ≠ []) (query : String) (t : Session) :
    (conclude query turns service).run t =
      match (service.recorder.record (Hit.withGroupSources remote all)).perform t with
      | (.ok recorder, u) =>
        ((.ok (Hit.aggregate all), { service with recorder }),
          u.withNotes (u.notes ++ [finished query (Hit.aggregate all)]))
      | (.error failure, u) => ((.error failure, service), u) := by
  subst hall hremote
  have hcall : (service.recorder.isPresent &&
      !(Turn.remote service.sanitizes turns).isEmpty) = true := by
    simp [h, hne]
  simp only [Turn.remote, Turn.all] at hcall ⊢
  rw [conclude, Action.perform]
  simp only [hcall, if_true, StateT.run_bind]
  generalize (service.recorder.record _).run = called
  rcases called.run t with ⟨_ | recorder, u⟩
  · rfl
  · rfl

def Calls (s : Session) (recorder : Recorder) (result : Answer × Session) : Prop :=
  s.Quiet result.2 ∨ ∃ t hits, s.Quiet t ∧
    match (recorder.record hits).perform t with
    | (.ok _, u) => result.1.1.isOk = true ∧ ∃ notes, result.2 = u.withNotes notes
    | (.error failure, u) => result.1.1 = .error failure ∧ result.2 = u

theorem conclude_calls {s t : Session} (ht : s.Quiet t) (query : String) (turns : List Turn) :
    Calls s service.recorder ((conclude query turns service).run t) := by
  by_cases h : service.recorder.isPresent = false ∨ Turn.remote service.sanitizes turns = []
  · rw [conclude_silent service rfl rfl h]
    exact .inl (quiet_trans ht (Quiet.noted _))
  · simp only [not_or, Bool.not_eq_false] at h
    rw [conclude_recorded service rfl rfl h.1 h.2]
    refine .inr ⟨t, Hit.withGroupSources (Turn.remote service.sanitizes turns)
      (Turn.all service.sanitizes turns), ht, ?_⟩
    rcases (service.recorder.record _).perform t with ⟨failure | recorder, u⟩
    · exact ⟨rfl, rfl⟩
    · exact ⟨rfl, _, rfl⟩

theorem conclude_sources (query : String) (turns : List Turn) (t : Session) :
    ((conclude query turns service).run t).1.2.sources = service.sources := by
  by_cases h : service.recorder.isPresent = false ∨ Turn.remote service.sanitizes turns = []
  · rw [conclude_silent service rfl rfl h]
  · simp only [not_or, Bool.not_eq_false] at h
    rw [conclude_recorded service rfl rfl h.1 h.2]
    split <;> rfl

end

section
variable (query : String) (extension : Option String) (s : Session) (service : Service)

theorem available_eq_nil_iff :
    service.available s = [] ↔ (!(service.sources.map (·.isUp s.files)).contains true) = true := by
  simp [available]

def responds (source : Source) : Bool :=
  (source.answer query extension s).1.isOk && source.isUp s.files

theorem answering_eq :
    service.answering query extension s = service.sources.filter (responds query extension s) := by
  rw [answering, available, List.filter_filter]
  rfl

theorem turn_failed (source : Source) :
    (source.turn query extension s).hasFailed =
      (source.isUp s.files && !responds query extension s source) := by
  rw [Source.turn, responds]
  cases source.isUp s.files with
  | false => rfl
  | true => cases (source.answer query extension s).1 <;> rfl

theorem turn_hits (source : Source) :
    (source.turn query extension s).hits service.sanitizes =
      if responds query extension s source then service.contribution query extension s source
      else [] := by
  rw [Source.turn, responds, contribution]
  cases source.isUp s.files with
  | false => simp [Turn.hits]
  | true =>
    cases (source.answer query extension s).1 <;> simp [Turn.hits, Except.isOk, Except.toBool]

theorem turn_source (source : Source) :
    (source.turn query extension s).source =
      if source.isUp s.files then (source.answer query extension s).2 else source := by
  rw [Source.turn]
  cases source.isUp s.files <;> rfl

theorem turn_remote (source : Source) :
    (source.turn query extension s).source.isRemote = source.isRemote := by
  rw [turn_source]
  split
  · exact source.answer_remote query extension s
  · rfl

theorem turn_name (source : Source) :
    (source.turn query extension s).source.shownName = source.shownName := by
  rw [turn_source]
  split
  · rw [Source.shownName, source.answer_name query extension s, Source.shownName]
  · rfl

theorem flat_map_kept {α β : Type} (kept : α → Bool) (f : α → List β) (l : List α) :
    (l.flatMap fun a => if kept a then f a else []) = (l.filter kept).flatMap f := by
  induction l with
  | nil => rfl
  | cons a l ih => cases h : kept a <;> simp [h, ih]

theorem turns_all :
    Turn.all service.sanitizes (service.turns query extension s) =
      service.gathered query extension s := by
  rw [Turn.all, turns, List.flatMap_map, gathered, answering_eq, ← flat_map_kept]
  simp only [turn_hits]

theorem turns_remote :
    Turn.remote service.sanitizes (service.turns query extension s) =
      service.gatheredRemote query extension s := by
  have hremote : (fun source : Source => (source.turn query extension s).source.isRemote) =
      fun source => source.isRemote := funext fun source => turn_remote query extension s source
  rw [Turn.remote, turns, List.filter_map, List.flatMap_map, gatheredRemote, answering_eq,
    List.filter_comm, ← flat_map_kept (responds query extension s)]
  simp only [turn_hits, Function.comp_def, hremote]

theorem turns_recorded :
    Hit.withGroupSources (service.gatheredRemote query extension s)
        (service.gathered query extension s) = service.remembered query extension s := by
  rw [remembered]
  apply Hit.with_group_sources_eq
  intro hit hhit
  obtain ⟨source, hsource, hhit⟩ := List.mem_flatMap.1 hhit
  exact List.mem_flatMap.2 ⟨source, (List.mem_filter.1 hsource).1, hhit⟩

section
variable (finishing : Finishing)

def asked : List Turn := (service.finishers s finishing).map (·.turn query extension s)

theorem asked_failed :
    (service.asked query extension s finishing).all (·.hasFailed) = true ↔
      service.answering query extension s = [] := by
  rw [asked, List.all_map, List.all_eq_true, answering, List.filter_eq_nil_iff]
  simp only [(service.finishers_perm s finishing).mem_iff]
  refine forall₂_congr fun source hmem => ?_
  have hup := (List.mem_filter.1 hmem).2
  simp only [Function.comp_apply, turn_failed, responds, hup]
  simp

/-- Where no source answers, each of those that were asked is told of by the name it is shown
under. -/
theorem asked_shown (hnone : service.answering query extension s = []) :
    failedNames (service.asked query extension s finishing) =
      (service.finishers s finishing).map (·.shownName) := by
  have hall := (asked_failed query extension s service finishing).2 hnone
  rw [failedNames, List.filter_eq_self.2 (List.all_eq_true.1 hall), asked, List.map_map]
  exact List.map_congr_left fun source _ => turn_name query extension s source

/-- A search ends where a source breaks it off, where no source is up, where all of them fail, or
with a conclusion. -/
theorem search_ends (hquery : query.isEmpty = false) (hsources : service.sources ≠ []) :
    ∃ t, s.Quiet t ∧ (service.search query extension finishing).run s =
      match service.sources.find? (·.breaksOff s.files) with
      | some source => ((.error source.unnamed, service), t)
      | none =>
        if service.available s = [] then ((.ok [], service), t)
        else if service.answering query extension s = [] then
          ((.error (.allFailed (failedNames (service.asked query extension s finishing))),
            service.served query extension s), t)
        else (conclude query (service.turns query extension s)
          (service.served query extension s)).run t := by
  obtain ⟨t, hquiet, hup⟩ := probe_all_perform service.sources s
  change (probeAll service.sources).run.run s = _ at hup
  have hempty : service.sources.isEmpty = false := by simpa using hsources
  rw [search]
  simp only [hquery, hempty, Bool.false_eq_true, if_false, StateT.run_bind, hup]
  cases service.sources.find? (·.breaksOff s.files) with
  | some source => exact ⟨t, hquiet, rfl⟩
  | none =>
    dsimp only
    by_cases hnone : service.available s = []
    -- the search ends with a warning
    · refine ⟨_, quiet_trans hquiet (Quiet.noted (t.notes ++
        [⟨Log.warning, s!"No search source is available for query '{query}'"⟩])), ?_⟩
      rw [if_pos hnone]
      change StateT.run (if _ then _ else _) t = _
      rw [if_pos ((available_eq_nil_iff s service).1 hnone)]
      rfl
    -- probing is quiet, so the turns are those of the first session
    · have hperm := finishing.perm (seats s.files service.sources)
      obtain ⟨u, hquiet', hturns⟩ := ask_all_run query extension hquiet
        fun entry hentry => (seat_mem.1 (hperm.mem_iff.1 hentry)).2
      have hseated := seated_turns query extension s hperm
      have hasked : ((finishing.order (seats s.files service.sources)).map fun entry =>
          (entry.1, entry.2.turn query extension s)).map (·.2) =
            service.asked query extension s finishing := by
        rw [List.map_map, asked, finishers, List.map_map]
        rfl
      generalize (finishing.order (seats s.files service.sources)).map _ = finished
        at hturns hseated hasked
      refine ⟨_, quiet_trans hquiet' (Quiet.noted (u.notes ++
        (service.asked query extension s finishing).flatMap (·.notes))), ?_⟩
      rw [if_neg hnone]
      change StateT.run (if _ then _ else _) t = _
      rw [if_neg fun h => hnone ((available_eq_nil_iff s service).2 h), StateT.run_bind, ← seats,
        hturns]
      change StateT.run (if (finished.map (·.2)).all (·.hasFailed) then _ else _)
        (u.withNotes (u.notes ++ (finished.map (·.2)).flatMap (·.notes))) = _
      rw [hasked, hseated]
      by_cases hall : service.answering query extension s = []
      · rw [if_pos hall, if_pos ((asked_failed query extension s service finishing).2 hall)]
        rfl
      · rw [if_neg hall,
          if_neg fun h => hall ((asked_failed query extension s service finishing).1 h)]
        rfl

theorem search_stages (hnames : ∀ source ∈ service.sources, source.name?.isSome)
    (hquery : query.isEmpty = false) (hsources : service.sources ≠ []) :
    ∃ t, s.Quiet t ∧ (service.search query extension finishing).run s =
      if service.available s = [] then ((.ok [], service), t)
      else if service.answering query extension s = [] then
        ((.error (.allFailed (failedNames (service.asked query extension s finishing))),
          service.served query extension s), t)
      else (conclude query (service.turns query extension s)
        (service.served query extension s)).run t := by
  obtain ⟨t, hquiet, hrun⟩ := search_ends query extension s service finishing hquery hsources
  have hnone : service.sources.find? (·.breaksOff s.files) = none := by
    rw [List.find?_eq_none]
    intro source hmem hbreaks
    have hname := hnames source hmem
    rw [((source.breaks_off_iff s.files).1 hbreaks).2] at hname
    cases hname
  rw [hnone] at hrun
  exact ⟨t, hquiet, hrun⟩

/-- A search without a call of the recorder is quiet in all of its stages. -/
theorem search_calls (hnames : ∀ source ∈ service.sources, source.name?.isSome) :
    Calls s service.recorder ((service.search query extension finishing).run s) := by
  by_cases hquery : query.isEmpty = true
  · rw [search, if_pos hquery]
    exact .inl s.quiet_refl
  by_cases hsources : service.sources = []
  · rw [search, if_neg hquery, if_pos (List.isEmpty_iff.2 hsources)]
    exact .inl s.quiet_refl
  obtain ⟨t, hquiet, hrun⟩ := search_stages query extension s service finishing hnames
    (by simpa using hquery) hsources
  rw [hrun]
  split
  · exact .inl hquiet
  split
  · exact .inl hquiet
  · exact conclude_calls (service.served query extension s) hquiet query _

end

theorem answering_unavailable (h : service.available s = []) :
    service.answering query extension s = [] := by
  rw [answering, h, List.filter_nil]

theorem served_sources :
    (service.served query extension s).sources = service.sources.map fun source =>
      if source.isUp s.files then (source.answer query extension s).2 else source := by
  rw [served, turns, List.map_map]
  exact List.map_congr_left fun source _ => turn_source query extension s source

theorem asked_calls {sources : List Source}
    (h : sources = service.sources.map fun source =>
      if source.isUp s.files then (source.answer query extension s).2 else source) :
    sources.map (·.calls?) = service.sources.map fun source =>
      source.calls?.map fun calls =>
        if source.isUp s.files then calls ++ [.search query extension] else calls := by
  rw [h, List.map_map]
  apply List.map_congr_left
  intro source _
  rw [Function.comp_apply]
  cases source.isUp s.files with
  | false => simp
  | true => simp [Source.answer_calls]

section
variable (finishing : Finishing)

theorem outcome_concluded {t : Session} (ht : s.Quiet t) (hsome : service.available s ≠ [])
    (hany : service.answering query extension s ≠ []) :
    service.Outcome query extension s finishing
      ((conclude query (service.turns query extension s)
        (service.served query extension s)).run t) := by
  have hasked := (conclude_sources (service.served query extension s) query
    (service.turns query extension s) t).trans (served_sources query extension s service)
  constructor
  case asked => exact hasked
  case calls => exact asked_calls query extension s service hasked
  case unavailable => exact fun h => absurd h hsome
  case failed => exact fun _ h => absurd h hany
  case ranked => exact service.finishers_perm s finishing
  case inTurn => exact fun h => h ▸ service.finishers_in_turn s
  case merged =>
    intro _ hsilent
    rw [conclude_silent (service.served query extension s) (turns_all query extension s service)
      (turns_remote query extension s service) hsilent query t]
    exact ⟨rfl, rfl, quiet_trans ht (Quiet.noted _)⟩
  case recorded =>
    intro _ hpresent hremote
    refine ⟨t, ht, ?_⟩
    rw [conclude_recorded (service.served query extension s)
      (turns_all query extension s service) (turns_remote query extension s service) hpresent
      hremote query t, turns_recorded query extension s service]
    change match (service.recorder.record _).perform t with
      | (.ok recorder, u) => _
      | (.error failure, u) => _
    rcases hrecord : (service.recorder.record (service.remembered query extension s)).perform t with
      ⟨failure | recorder, u⟩
    · simp only [served]
      rw [hrecord]
      exact ⟨rfl, rfl, rfl⟩
    · simp only [served]
      rw [hrecord]
      exact ⟨rfl, rfl, _, rfl⟩

end

end

def mixed : Service where
  sources := [
    .scripted { name := some "kad", probe := .gives false },
    .scripted { name := some "server", isRemote := true, hits := .error "timed out" },
    .scripted { name := some "peer", isRemote := true, hits := .ok [⟨"h", 7, "a", 2, []⟩] },
    .scripted { name := some "local", hits := .ok [⟨"h", 7, "a", 3, []⟩] }]
  recorder := .list []

end Service

end FileSearch.Search
