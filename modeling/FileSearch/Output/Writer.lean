import FileSearch.Output.Block
import FileSearch.Json.Printer
import FileSearch.Text.Lines
import FileSearch.Session
import FileSearch.Calendar

/-!
# Writers

A writer shows the hits of each search: one in the log at once, another in a result file
when all searches are done.
-/

set_option autoImplicit false

namespace FileSearch.Output

open Session

structure ResultFile where
  folder : Path
  /-- One block for each search. -/
  blocks : List Json := []
  lastPath : Option Path := none

namespace ResultFile

def below (base : String) : ResultFile := { folder := (Path.ofString base).child "json" }

def block (query : String) (hits : List Hit) : Json :=
  .object [("query", .text query), ("hits", .list (hits.map Hit.toJson))]

def add (query : String) (hits : List Hit) (f : ResultFile) : ResultFile :=
  { f with blocks := f.blocks ++ [block query hits] }

def content (f : ResultFile) : String := Json.pretty (.list f.blocks)

def path (action : String) (time : Calendar) (f : ResultFile) : Path :=
  f.folder.child s!"{action}_{time.resultStamp}.json"

def save (action : String) (f : ResultFile) : Action ResultFile := do
  makeFolders f.folder
  let path := f.path action (← get).time
  withFiles fun files => files.writeText path f.content
  note Log.info s!"JSON saved to {path.text}"
  return { f with lastPath := some path }

end ResultFile

inductive Writer where
  | console
  | json (file : ResultFile)

namespace Writer

def write (query : String) (hits : List Hit) : Writer → Action Writer
  | .console => do
    note Log.info s!"Results for '{query}':"
    match renderText hits with
    | .error error => throw (.size error)
    | .ok text =>
      noteAll ((Text.splitLines text.toList).map fun line => ⟨Log.info, String.ofList line⟩)
      return .console
  | .json file => return .json (file.add query hits)

def finalize (action : String) : Writer → Action Writer
  | .console => return .console
  | .json file => do return .json (← file.save action)

def each (step : Writer → Action Writer) :
    List Writer → StateM Session (Except Failure Unit × List Writer)
  | [] => return (.ok (), [])
  | writer :: writers => do
    match ← (step writer).run with
    | .error failure => return (.error failure, writer :: writers)
    | .ok writer =>
      let (result, writers) ← each step writers
      return (result, writer :: writers)

def ofFormats (formats : List String) (base : String) : Except Failure (List Writer) :=
  let writers :=
    (if formats.contains "console" then [.console] else []) ++
      (if formats.contains "json" then [.json (.below base)] else [])
  if writers.isEmpty then .error .noWriters else .ok writers

end Writer

end FileSearch.Output
