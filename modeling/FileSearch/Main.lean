import FileSearch.Command.Run
import FileSearch.History.Saved
import Std.Time

/-!
# The program

Brings the files of a run from the disk into a session, runs, and puts what has changed
back.
-/

set_option autoImplicit false

namespace FileSearch.Main

def diskName (place : Files.Place) : String := "/".intercalate place

def placesTo (path : Path) : List Files.Place :=
  let top : Files.Place := if path.root = "" then [] else Files.outside
  (List.range path.segments.length).map fun n => top ++ path.segments.take (n + 1)

def entryOf (content : String) : Files.Entry :=
  match History.Database.ofText? content with
  | some db => .database db
  | none => .text content

def look (place : Files.Place) : IO (Option Files.Entry) := do
  let name := (← IO.currentDir) / diskName place
  if ← name.isDir then return some .folder
  if ← name.pathExists then return some (entryOf (← IO.FS.readFile name))
  return none

def fetch (paths : List Path) (files : Files) : IO Files :=
  (paths.flatMap placesTo).foldlM (fun files place => do
    match ← look place with
    | some entry => return files.set place entry
    | none => return files) files

def put (place : Files.Place) : Files.Entry → IO Unit
  | .folder => IO.FS.createDirAll (diskName place)
  | .text content => IO.FS.writeFile (diskName place) content
  | .database db => IO.FS.writeFile (diskName place) db.toText

def putChanges (before after : Files) : IO Unit :=
  after.entries.forM fun (place, entry) => do
    if before.entry? place != some entry then put place entry

def localCalendar : IO (Int → Calendar) := do
  try
    let rules ← Std.Time.Database.defaultGetLocalZoneRules
    return fun seconds =>
      let zone := rules.timezoneAt (.ofSecondsSinceUnixEpoch (.ofInt seconds))
      Calendar.ofSeconds (seconds + zone.offset.second.val)
  catch _ => return Calendar.ofSeconds

def prepare (arguments : List String) : IO Session := do
  let now := (← Std.Time.Timestamp.now).toSecondsSinceUnixEpoch.val
  let calendar ← localCalendar
  match Surroundings.program.invocation {} arguments with
  | .error _ => return { now, calendar }
  | .ok invocation =>
    let settings ← fetch (Command.settingsPaths invocation) {}
    let files ← fetch (Command.workPaths invocation { files := settings, now, calendar }) settings
    return { files, now, calendar }

def readInput (arguments : List String) : IO String := do
  match Surroundings.program.invocation {} arguments with
  | .ok { command := .pick _ [] _, .. } =>
    let lines ← (← IO.getStdin).lines
    return String.join (lines.toList.map (· ++ "\n"))
  | _ => return ""

def remark : Ending → String
  | .usage error => s!"Error: {error.message}\n"
  | .broken (.settings (.badValue cause)) => s!"Error: {cause.message}\n"
  | .broken (.settings (.malformed _)) => "Error: the settings are not YAML\n"
  | .broken (.file refusal) => s!"Error: {refusal.message}\n"
  | _ => ""

end FileSearch.Main

def main (arguments : List String) : IO UInt32 := do
  let session ← FileSearch.Main.prepare arguments
  let input ← FileSearch.Main.readInput arguments
  let (outcome, finished) := (FileSearch.Command.run arguments input).run session
  FileSearch.Main.putChanges session.files finished.files
  IO.print outcome.shown
  IO.eprint (outcome.reported ++ FileSearch.Main.remark outcome.ending)
  return UInt32.ofNat outcome.ending.code
