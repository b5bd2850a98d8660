import FileSearch.Search.Source
import FileSearch.Hit.Aggregate
import FileSearch.Hit.Sanitize

/-!
# The search service

A search asks every available source and merges what they found, in configured order. The
sources are asked at the same time, and which of them finishes first is not up to the
service: the order of finishing is given to a search from outside, and it is the one in
which results are logged and failures named. What one source does, it does as a whole
before the next one. A source that fails is left out; only if all of them fail does the
search fail. What remote sources found is remembered in the history.
-/

set_option autoImplicit false

namespace FileSearch.Search

inductive Recorder where
  | nothing
  /-- Keeps them in a list. -/
  | list (hits : List Hit)
  /-- Keeps them in the history store. -/
  | history

namespace Recorder

def record (hits : List Hit) : Recorder → Action Recorder
  | .nothing => return .nothing
  | .list kept => return .list (kept ++ hits)
  | .history => do
    History.track hits
    return .history

def isPresent : Recorder → Bool
  | .nothing => false
  | _ => true

end Recorder

/-- The order in which sources finish that are asked together, each with its place. -/
structure Finishing where
  order : List (Nat × Source) → List (Nat × Source)
  perm : ∀ asked, (order asked).Perm asked

def Finishing.inTurn : Finishing := ⟨id, fun _ => .refl _⟩

structure Service where
  sources : List Source
  recorder : Recorder := .nothing
  sanitizes : Bool := true
  /-- The number of sources that may be asked at the same time. -/
  workers : Int := 4

namespace Service

open Session

/-- Whether a source is to be asked. A source that cannot tell is; one that fails to
tell is not. -/
def isAvailable (source : Source) : Action Bool := do
  match source.probe (← get).files with
  | .missing => return true
  | .gives true => return true
  | .gives false =>
    match source.name? with
    | some name =>
      note Log.debug s!"Search source unavailable, skipped: source={name}"
      return false
    | none => throw source.unnamed
  | .fails message =>
    match source.name? with
    | some name =>
      note Log.warning s!"Search source availability check failed: source={name} error={message}"
      return false
    | none => throw source.unnamed

def probeAll : List Source → Action (List Bool)
  | [] => return []
  | source :: sources => do
    let available ← isAvailable source
    let rest ← probeAll sources
    return available :: rest

structure Turn where
  source : Source
  found : Option (Except Failure (List Hit))

def placed (sources : List Source) (available : List Bool) : List (Nat × Source) :=
  ((sources.zip available).zipIdx.filter (·.1.2)).map fun entry => (entry.2, entry.1.1)

def askAll (query : String) (extension : Option String) :
    List (Nat × Source) → StateM Session (List (Nat × Turn))
  | [] => return []
  | (place, source) :: rest => do
    let (result, source) ← source.search query extension
    let turns ← askAll query extension rest
    return (place, ⟨source, some result⟩) :: turns

def seated (sources : List Source) (turns : List (Nat × Turn)) : List Turn :=
  sources.zipIdx.map fun entry => (turns.lookup entry.2).getD ⟨entry.1, none⟩

def Turn.hasFailed (t : Turn) : Bool :=
  match t.found with
  | some (.error _) => true
  | _ => false

def Turn.notes (t : Turn) : List Log.Record :=
  match t.found with
  | none => []
  | some (.ok hits) =>
    [⟨Log.info, s!"Search source completed: source={t.source.shownName} count={hits.length}"⟩]
  | some (.error failure) =>
    [⟨Log.warning, s!"Search source failed: source={t.source.shownName} error={failure.message}"⟩]

def Turn.hits (sanitizes : Bool) (t : Turn) : List Hit :=
  match t.found with
  | some (.ok hits) => if sanitizes then hits.map Hit.sanitize else hits
  | _ => []

def failedNames (turns : List Turn) : List String :=
  (turns.filter (·.hasFailed)).map (·.source.shownName)

abbrev Answer := Except Failure (List Hit) × Service

def conclude (query : String) (turns : List Turn) (service : Service) : StateM Session Answer := do
  let all := turns.flatMap (·.hits service.sanitizes)
  let remote := (turns.filter (·.source.isRemote)).flatMap (·.hits service.sanitizes)
  let merged := Hit.aggregate all
  let recorded ←
    if service.recorder.isPresent && !remote.isEmpty then
      (service.recorder.record (Hit.withGroupSources remote all)).run
    else pure (.ok service.recorder)
  match recorded with
  | .error failure => return (.error failure, service)
  | .ok recorder =>
    note Log.info s!"Search '{query}' finished with {merged.length} results"
    return (.ok merged, { service with recorder })

def search (query : String) (extension : Option String) (service : Service)
    (finishing : Finishing := .inTurn) : StateM Session Answer := do
  if query.isEmpty then return (.ok [], service)
  if service.sources.isEmpty then return (.error .noSources, service)
  match ← (probeAll service.sources).run with
  | .error failure => return (.error failure, service)
  | .ok available =>
    if !available.contains true then
      note Log.warning s!"No search source is available for query '{query}'"
      return (.ok [], service)
    let finished ← askAll query extension (finishing.order (placed service.sources available))
    let asked := finished.map (·.2)
    noteAll (asked.flatMap (·.notes))
    let turns := seated service.sources finished
    let service := { service with sources := turns.map (·.source) }
    if asked.all (·.hasFailed) then return (.error (.allFailed (failedNames asked)), service)
    conclude query turns service

def closeAll : List Source → StateM Session (List Source × List String)
  | [] => return ([], [])
  | source :: sources => do
    let (result, closed) := source.close
    match result with
    | .fails message =>
      note Log.warning s!"Search source close failed: source={source.shownName} error={message}"
      let (rest, failed) ← closeAll sources
      return (closed :: rest, source.shownName :: failed)
    | _ =>
      let (rest, failed) ← closeAll sources
      return (closed :: rest, failed)

def close (service : Service) : StateM Session Service := do
  let (sources, failed) ← closeAll service.sources
  if !failed.isEmpty then
    note Log.warning
      ("Search service close completed with failures: " ++ ", ".intercalate failed)
  return { service with sources }

end Service

end FileSearch.Search
