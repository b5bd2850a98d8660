import FileSearch.Proofs.Search.Pipeline

/-!
# Sources that fail

A source that fails while it is searched or closed takes no other one with it: it is left out and
told of, under a name that is made up where it has none. The probe knows no such name. A source
that is not up and has no name breaks the whole search off, whatever the other sources would have
found.
-/

set_option autoImplicit false

namespace FileSearch.Search

open Session

namespace Source

def canClose : Source → Bool
  | .scripted s => s.closing != .missing
  | _ => true

def closeNote? (source : Source) : Option Log.Record :=
  match source.close.1 with
  | .fails message =>
    some ⟨Log.warning, s!"Search source close failed: source={source.shownName} error={message}"⟩
  | _ => none

def failsToClose (source : Source) : Bool := source.closeNote?.isSome

theorem close_calls (source : Source) :
    source.close.2.calls? = source.calls?.map fun calls =>
      if source.canClose then calls ++ [.close] else calls := by
  cases source with
  | dump d => rfl
  | known => rfl
  | scripted s =>
    rw [close, canClose]
    cases s.closing <;> rfl

end Source

namespace Service

def failedClosings (sources : List Source) : List String :=
  (sources.filter (·.failsToClose)).map (·.shownName)

/-- Whatever comes of closing one source, the others are closed after it. -/
theorem close_all_cons (source : Source) (sources : List Source) (s : Session) :
    (closeAll (source :: sources)).run s =
      let rest := (closeAll sources).run (s.withNotes (s.notes ++ source.closeNote?.toList))
      ((source.close.2 :: rest.1.1,
        if source.failsToClose then source.shownName :: rest.1.2 else rest.1.2), rest.2) := by
  have hquiet : s.withNotes (s.notes ++ []) = s :=
    congrArg s.withNotes (List.append_nil s.notes)
  rw [closeAll, Source.failsToClose, Source.closeNote?]
  rcases source.close with ⟨_ | _ | message, closed⟩
  · dsimp only [Option.toList]
    rw [hquiet]
    rfl
  · dsimp only [Option.toList]
    rw [hquiet]
    rfl
  · rfl

theorem close_all_run (sources : List Source) (s : Session) :
    (closeAll sources).run s =
      ((sources.map (·.close.2), failedClosings sources),
        s.withNotes (s.notes ++ sources.filterMap (·.closeNote?))) := by
  induction sources generalizing s with
  | nil => exact congrArg (fun notes => (_, s.withNotes notes)) (List.append_nil _).symm
  | cons source sources ih =>
    have hnotes : source.closeNote?.toList ++ sources.filterMap (·.closeNote?) =
        (source :: sources).filterMap (·.closeNote?) := by
      rw [List.filterMap_cons]
      cases source.closeNote? <;> rfl
    rw [close_all_cons, ih, ← hnotes, ← List.append_assoc, failedClosings, failedClosings,
      List.filter_cons]
    cases source.failsToClose <;> rfl

def closeNotes (service : Service) : List Log.Record :=
  service.sources.filterMap (·.closeNote?) ++
    if (failedClosings service.sources).isEmpty then []
    else [⟨Log.warning, "Search service close completed with failures: " ++
      ", ".intercalate (failedClosings service.sources)⟩]

theorem close_run (service : Service) (s : Session) :
    service.close.run s =
      ({ service with sources := service.sources.map (·.close.2) },
        s.withNotes (s.notes ++ service.closeNotes)) := by
  rw [close, StateT.run_bind, close_all_run, closeNotes, ← List.append_assoc]
  cases failedClosings service.sources with
  | nil => exact congrArg (fun notes => (_, s.withNotes notes)) (List.append_nil _).symm
  | cons name failed => rfl

theorem close_all_append (earlier later : List Source) (s : Session) :
    (closeAll (earlier ++ later)).run s =
      let first := (closeAll earlier).run s
      let second := (closeAll later).run first.2
      ((first.1.1 ++ second.1.1, first.1.2 ++ second.1.2), second.2) := by
  simp only [close_all_run, failedClosings, List.map_append, List.filter_append,
    List.filterMap_append, ← List.append_assoc]
  rfl

structure Closes (service : Service) (s : Session) (result : Service × Session) : Prop where
  closed : result.1 = { service with sources := service.sources.map (·.close.2) }
  calls : result.1.sources.map (·.calls?) = service.sources.map fun source =>
    source.calls?.map fun calls => if source.canClose then calls ++ [.close] else calls
  told : result.2 = s.withNotes (s.notes ++ service.closeNotes)
  /-- A source is closed, and its failure told of, before those that follow it. -/
  ordered : ∀ earlier later, service.sources = earlier ++ later →
    (closeAll service.sources).run s =
      let first := (closeAll earlier).run s
      let second := (closeAll later).run first.2
      ((first.1.1 ++ second.1.1, first.1.2 ++ second.1.2), second.2)

theorem close_closes (service : Service) (s : Session) :
    service.Closes s (service.close.run s) := by
  rw [close_run]
  constructor
  case closed => rfl
  case calls =>
    rw [List.map_map]
    exact List.map_congr_left fun source _ => source.close_calls
  case told => rfl
  case ordered =>
    intro earlier later hsplit
    rw [hsplit]
    exact close_all_append earlier later s

section
variable (query : String) (extension : Option String) (s : Session) (service : Service)
  (finishing : Finishing)

def verdict : Except Failure (List Hit) :=
  if service.sources = [] then .error .noSources
  else
    match service.sources.find? (·.breaksOff s.files) with
    | some source => .error source.unnamed
    | none =>
      if service.available s = [] then .ok []
      else if service.answering query extension s = [] then
        .error (.allFailed ((service.finishers s finishing).map (·.shownName)))
      else .ok (Hit.aggregate (service.gathered query extension s))

theorem search_verdict (hquery : query.isEmpty = false) (hrecorder : service.recorder = .nothing) :
    ((service.search query extension finishing).run s).1.1 =
      service.verdict query extension s finishing := by
  rw [verdict]
  by_cases hsources : service.sources = []
  · rw [search, hquery, hsources]
    rfl
  obtain ⟨t, -, hrun⟩ := search_ends query extension s service finishing hquery hsources
  rw [hrun, if_neg hsources]
  cases service.sources.find? (·.breaksOff s.files) with
  | some source => rfl
  | none =>
    dsimp only
    by_cases hnone : service.available s = []
    · rw [if_pos hnone, if_pos hnone]
    rw [if_neg hnone, if_neg hnone]
    by_cases hall : service.answering query extension s = []
    · rw [if_pos hall, if_pos hall, asked_shown query extension s service finishing hall]
    rw [if_neg hall, if_neg hall]
    have hsilent : (service.served query extension s).recorder.isPresent = false := by
      rw [served, hrecorder]
      rfl
    rw [conclude_silent (service.served query extension s) (turns_all query extension s service) rfl
      (.inl hsilent)]

/-- The sources of a service cannot spoil its searches, except by being down without a name, and
they cannot spoil its closing. -/
structure Withstands : Prop where
  verdict : ((service.search query extension finishing).run s).1.1 =
    service.verdict query extension s finishing
  failures : ∀ failure,
    ((service.search query extension finishing).run s).1.1 = .error failure →
      failure = .noSources ∨ (∃ names, failure = .allFailed names) ∨
        ∃ source ∈ service.sources, source.isUp s.files = false ∧ source.name? = none ∧
          failure = source.unnamed
  closes : ∀ t, service.Closes t (service.close.run t)

theorem verdict_failures {failure : Failure}
    (h : service.verdict query extension s finishing = .error failure) :
    failure = .noSources ∨ (∃ names, failure = .allFailed names) ∨
      ∃ source ∈ service.sources, source.isUp s.files = false ∧ source.name? = none ∧
        failure = source.unnamed := by
  rw [verdict] at h
  split at h
  · exact .inl (Except.error.inj h).symm
  split at h
  · next source hfind =>
    obtain ⟨hdown, hunnamed⟩ := (source.breaks_off_iff s.files).1 (List.find?_some hfind)
    exact .inr (.inr ⟨source, List.mem_of_find?_eq_some hfind, hdown, hunnamed,
      (Except.error.inj h).symm⟩)
  split at h
  · cases h
  split at h
  · exact .inr (.inl ⟨_, (Except.error.inj h).symm⟩)
  · cases h

theorem sources_withstood (hquery : query.isEmpty = false)
    (hrecorder : service.recorder = .nothing) :
    service.Withstands query extension s finishing where
  verdict := search_verdict query extension s service finishing hquery hrecorder
  failures _ hfailure :=
    verdict_failures query extension s service finishing
      ((search_verdict query extension s service finishing hquery hrecorder).symm.trans hfailure)
  closes t := close_closes service t

end

def flaky : Service where
  sources := [
    .scripted { name := some "kad", probe := .fails "no route", closing := .fails "not open" },
    .scripted { hits := .error "timed out", closing := .fails "reset" },
    .scripted { name := some "server", probe := .gives true, hits := .ok [⟨"h", 7, "a", 2, []⟩] },
    .scripted { closing := .missing }]

theorem flaky_withstood :
    "a".isEmpty = false ∧ flaky.recorder = .nothing ∧ flaky.Withstands "a" none {} .inTurn :=
  ⟨rfl, rfl, sources_withstood "a" none {} flaky .inTurn rfl rfl⟩

def unnamed : Service where
  sources := [
    .scripted { probe := .gives false },
    .scripted { name := some "ok", hits := .ok [⟨"h", 7, "a", 1, []⟩] }]

theorem unnamed_breaks_off :
    ¬ ∀ service : Service, service.recorder = .nothing →
      ∀ failure, ((service.search "a" none).run {}).1.1 = .error failure →
        failure = .noSources ∨ ∃ names, failure = .allFailed names := by
  intro h
  have hbroken : ((unnamed.search "a" none).run {}).1.1 =
      .error (Source.scripted { probe := .gives false }).unnamed := rfl
  rcases h unnamed rfl _ hbroken with hnone | ⟨names, hall⟩
  · cases hnone
  · cases hall

end Service

end FileSearch.Search
