import FileSearch.Log.Record
import FileSearch.Calendar
import FileSearch.Files
import FileSearch.Text.Case

/-!
# Where log records go

Records from the console level on are shown; a log file, if there is one, gets
everything from the debug level on. Both show a record as a line with the time and the
mark of its level.
-/

set_option autoImplicit false

namespace FileSearch.Log

def namedLevels : List (String × Level) :=
  [("DEBUG", debug), ("INFO", info), ("WARNING", warning), ("WARN", warning), ("ERROR", error),
   ("CRITICAL", critical), ("FATAL", critical), ("NOTSET", 0)]

def levelNamed (name : String) : Level :=
  (namedLevels.lookup (String.ofList (Text.upper name.toList))).getD info

structure Setup where
  console : Level
  file : Option Path := none

/-- Without a log file, a level of zero stands for warnings and what is above them. -/
def Setup.least (setup : Setup) : Level :=
  if setup.file.isSome then debug else if setup.console = 0 then warning else setup.console

def Setup.reachesFile (setup : Setup) (r : Record) : Bool :=
  setup.least ≤ r.level && debug ≤ r.level

def Setup.reachesConsole (setup : Setup) (r : Record) : Bool :=
  setup.least ≤ r.level && setup.console ≤ r.level

def line (time : Calendar) (r : Record) : String :=
  s!"{time.logStamp} [{levelMark r.level}] {r.message}\n"

def defaultFolder : String := "log"

def actionFolder (action folder : String) : Path :=
  (Path.ofString (if folder.isEmpty then defaultFolder else folder)).child action

def filePath (action folder : String) (time : Calendar) : Path :=
  (actionFolder action folder).child s!"{action}_{time.logFileStamp}.log"

def configure (level : String) (action : String) (toFile : Bool) (folder : String)
    (time : Calendar) (files : Files) : Except Files.Refusal (Setup × Files) := do
  let console := levelNamed level
  if toFile && !action.isEmpty then
    let files ← files.ensureFolders (actionFolder action folder)
    let path := filePath action folder time
    let files ← files.appendText path ""
    .ok (⟨console, some path⟩, files)
  else .ok (⟨console, none⟩, files)

def Setup.shown (setup : Setup) (time : Calendar) (records : List Record) : String :=
  String.join ((records.filter setup.reachesConsole).map (line time))

def Setup.save (setup : Setup) (time : Calendar) (records : List Record) (files : Files) : Files :=
  match setup.file with
  | none => files
  | some path =>
    let text := String.join ((records.filter setup.reachesFile).map (line time))
    match files.appendText path text with
    | .ok files => files
    | .error _ => files

end FileSearch.Log
