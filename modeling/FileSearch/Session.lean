import FileSearch.Calendar
import FileSearch.Failure

/-!
# Sessions

The surroundings of a search: the files of the working folder, the clock, the log, and
the one database connection that all parts share. An action changes them and ends in a
result or a failure; what it changed and logged before a failure stays. An action happens
at one time, and nothing else changes the files meanwhile.
-/

set_option autoImplicit false

namespace FileSearch

/-- The shared connection and the path it was opened for. An opening that failed early
leaves the path without a connection. -/
structure Manager where
  path : Path
  link : Option History.Link
  deriving DecidableEq, Repr

structure Session where
  files : Files := {}
  /-- Seconds since the beginning of 1970. -/
  now : Int := 0
  notes : List Log.Record := []
  shared : Option Manager := none
  /-- The history store uses the shared connection; otherwise its own one is closed. -/
  attached : Bool := false
  /-- What the clocks of the place show at a second. -/
  calendar : Int → Calendar := Calendar.ofSeconds

abbrev Action (α : Type) := ExceptT Failure (StateM Session) α

namespace Session

def time (s : Session) : Calendar := s.calendar s.now

def note (level : Log.Level) (message : String) : StateM Session Unit :=
  modify fun s => { s with notes := s.notes ++ [⟨level, message⟩] }

def noteAll (records : List Log.Record) : StateM Session Unit :=
  modify fun s => { s with notes := s.notes ++ records }

def takeNotes : StateM Session (List Log.Record) := do
  let notes := (← get).notes
  modify fun s => { s with notes := [] }
  return notes

def withFiles (change : Files → Except Files.Refusal Files) : Action Unit := do
  match change (← get).files with
  | .ok files => modify fun s => { s with files }
  | .error refusal => throw (.file refusal)

def makeFolders (path : Path) : Action Unit := do
  let (files, result) := (← get).files.makeFolders path
  modify fun s => { s with files }
  match result with
  | .ok () => return
  | .error refusal => throw (.file refusal)

def restart (s : Session) : Session :=
  { files := s.files, now := s.now, calendar := s.calendar }

end Session

end FileSearch
