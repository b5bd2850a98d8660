import FileSearch.Command.Surroundings
import FileSearch.Log.Setup
import FileSearch.Output.Writer
import FileSearch.Search.Setup

/-!
# Runs

A run takes arguments and the text of standard input, works on the files of the session,
and ends in an outcome. A search reports what it logs; picking names shows those that
are kept. Failures are reported, but some break the run off before anything is reported.
-/

set_option autoImplicit false

namespace FileSearch

inductive Ending where
  | success
  | failure
  | usage (error : Command.UsageError)
  | broken (cause : Breakdown)
  deriving DecidableEq, Repr

def Stop.ending : Stop → Ending
  | .usage error => .usage error
  | .broken cause => .broken cause

def Ending.code : Ending → Nat
  | .success => 0
  | .failure => 1
  | .usage _ => 2
  | .broken _ => 1

structure Outcome where
  ending : Ending
  /-- The text on standard output. -/
  shown : String := ""
  /-- The text on standard error. -/
  reported : String := ""

namespace Command

open Session

def inputLines (input : String) : List String :=
  (Text.feedLines (Text.unifyNewlines input.toList)).map String.ofList

def treeLine (query : String) : String :=
  "# " ++ String.ofList (Query.parse query).display

def picked (query : String) (names : List String) (showsTree : Bool) (input : String) :
    List String :=
  let kept := Query.filterNames query (if names.isEmpty then inputLines input else names)
  if showsTree then treeLine query :: kept else kept

def extensionFor (config : Config) : Option String → Option String
  | some extension => if extension.isEmpty then config.extension else some extension
  | none => config.extension

def announcement (config : Config) (query : String) (extension : Option String) : String :=
  let sources := Text.quoteTuple (config.sources.map (·.text))
  let wanted := extension.getD "None"
  s!"Running search query={Text.quote query} extension={wanted} sources={sources}"

def perform (config : Config) (query : String) (extension : Option String)
    (writers : List Output.Writer) (service : Search.Service)
    (finishing : Search.Finishing := .inTurn) :
    StateM Session (Except Failure Unit × Search.Service) := do
  note Log.debug (announcement config query extension)
  let (found, service) ← service.search query extension finishing
  match found with
  | .error failure => return (.error failure, service)
  | .ok hits =>
    let (written, writers) ← Output.Writer.each (·.write query hits) writers
    match written with
    | .error failure => return (.error failure, service)
    | .ok () =>
      let (finished, _) ← Output.Writer.each (·.finalize searchName) writers
      return (finished, service)

def searchWith (config : Config) (query : String) (extension : Option String)
    (finishing : Search.Finishing := .inTurn) : Action Unit := do
  let hasStore ← Search.openStorage config
  let service ← Search.Service.ofConfig config hasStore
  let writers ← Output.Writer.ofFormats config.formats config.outputFolder
  let (result, service) ←
    (perform config query (extensionFor config extension) writers service finishing :
      StateM Session _)
  let _ ← (service.close : StateM Session _)
  result

def searchLogged (config : Config) (query : String) (extension : Option String)
    (setup : Log.Setup) (around : Surroundings := .program) : StateM Session Outcome := do
  let result ← (searchWith config query extension around.finishing).run
  if let .error failure := result then
    note Log.error s!"Search failed: {failure.message}"
  History.closeManager
  let time := (← get).time
  let notes ← takeNotes
  modify fun s => { s with files := setup.save time notes s.files }
  let reported := setup.shown time notes
  match result with
  | .ok () => return { ending := .success, reported := around.delivered reported }
  | .error _ =>
    return { ending := .failure, reported := around.delivered (reported ++ "Aborted!\n") }

def baseConfig (files : Files) (path : Path) : Path :=
  match files.isFile defaultConfig with
  | .ok true => defaultConfig
  | _ => path

def settingsMessage : Config.LoadFailure → Except Breakdown String
  | .file refusal => .ok refusal.message
  | .config refusal => .ok refusal.message
  | .yaml (.badValue cause) =>
    if cause.isExplained then .ok cause.message else .error (.settings (.badValue cause))
  | .yaml fault => .error (.settings fault)

def invalidConfig (path : Path) (message : String) (around : Surroundings) : Outcome where
  ending := .failure
  reported := around.lines [s!"Error: Invalid config {path.text}: {message}"]

def runSearch (path : Path) (query : String) (extension : Option String)
    (around : Surroundings) : StateM Session Outcome := do
  let s ← get
  match Config.load s.files path (baseConfig s.files path) around.settings with
  | .error failure =>
    match settingsMessage failure with
    | .ok message => return invalidConfig path message around
    | .error cause => return { ending := .broken cause }
  | .ok config =>
    match Log.configure config.logLevel searchName config.logToFile config.logFolder s.time
        s.files with
    | .error refusal =>
      -- the folders above one that cannot be made stay
      set { s with files := (s.files.makeFolders (Log.actionFolder searchName config.logFolder)).1 }
      return { ending := .broken (.file refusal) }
    | .ok (setup, files) =>
      set { s with files }
      searchLogged config query extension setup around

def searchPaths (config : Config) (time : Calendar) : List Path :=
  [Path.ofString config.dumpPath, Path.ofString config.databasePath,
    Log.filePath searchName config.logFolder time,
    (Output.ResultFile.below config.outputFolder).path searchName time]

def settingsPaths (invocation : Invocation) : List Path := [defaultConfig, invocation.config]

def workPaths (invocation : Invocation) (s : Session) : List Path :=
  match invocation.command with
  | .pick _ _ _ => []
  | .search _ _ =>
    match Config.load s.files invocation.config (baseConfig s.files invocation.config) with
    | .ok config => searchPaths config s.time
    | .error _ => []

def execute (invocation : Invocation) (input : String) (around : Surroundings) :
    StateM Session Outcome := do
  match invocation.command with
  | .search query extension => runSearch invocation.config query extension around
  | .pick query names showsTree =>
    return { ending := .success, shown := around.lines (picked query names showsTree input) }

def run (arguments : List String) (input : String) (around : Surroundings := .program) :
    StateM Session Outcome := do
  modify Session.restart
  match around.invocation (← get).files arguments with
  | .error stop => return { ending := stop.ending }
  | .ok invocation => execute invocation input around

end Command

end FileSearch
