import FileSearch.Config
import FileSearch.Yaml.Value
import FileSearch.Text.Blank
import FileSearch.Text.Case

/-!
# Reading a configuration

Each section of a settings file is read for itself; then the values are checked, first
within a section and last across sections. The first fault in that order is reported.
-/

set_option autoImplicit false

namespace FileSearch.Config

open Yaml

structure Section where
  name : String
  entries : Entries

def Section.setting (s : Section) (field : String) : String := s!"{s.name}.{field}"

def requireSection (root : Entries) (name : String) : Except Refusal Section :=
  match root.get? name with
  | none => .error (.missing name)
  | some .null => .error (.missing name)
  | some (.mapping entries) => .ok ⟨name, entries⟩
  | some _ => .error (.wrongKind name .object)

def optionalSection (root : Entries) (name : String) : Except Refusal Section :=
  match root.get? name with
  | none => .ok ⟨name, []⟩
  | some .null => .ok ⟨name, []⟩
  | some (.mapping entries) => .ok ⟨name, entries⟩
  | some _ => .error (.wrongKind name .object)

def string (setting : String) : Value → Except Refusal String
  | .text s => .ok s
  | _ => .error (.wrongKind setting .string)

def boolean (setting : String) : Value → Except Refusal Bool
  | .bool b => .ok b
  | _ => .error (.wrongKind setting .boolean)

def integer (setting : String) : Value → Except Refusal Int
  | .int n => .ok n
  | _ => .error (.wrongKind setting .integer)

def tidyName (name : String) : String := String.ofList (Text.lower (Text.trim name.toList))

def namesFrom (setting : String) (i : Nat) : List Value → Except Refusal (List String)
  | [] => .ok []
  | .text name :: items => do
    let rest ← namesFrom setting (i + 1) items
    .ok (if Text.allBlank name.toList then rest else tidyName name :: rest)
  | _ :: _ => .error (.wrongKind s!"{setting}[{i}]" .string)

def names (setting : String) : Value → Except Refusal (List String)
  | .list items => namesFrom setting 0 items
  | _ => .error (.wrongKind setting .list)

def Section.require {α : Type} (s : Section) (field : String)
    (read : String → Value → Except Refusal α) : Except Refusal α :=
  match s.entries.get? field with
  | some value => read (s.setting field) value
  | none => .error (.missing (s.setting field))

def Section.get {α : Type} (s : Section) (field : String) (default : α)
    (read : String → Value → Except Refusal α) : Except Refusal α :=
  match s.entries.get? field with
  | some value => read (s.setting field) value
  | none => .ok default

def optionalString (setting : String) : Value → Except Refusal (Option String)
  | .null => .ok none
  | value => (string setting value).map some

def tidyExtension (extension : Option String) : Option String :=
  match extension with
  | none => none
  | some e =>
    match (Text.trim e.toList).dropWhile (· = '.') with
    | [] => none
    | bare => some (String.ofList bare)

def sourcesFrom (seen : List SourceName) : List String → Except Refusal (List SourceName)
  | [] => .ok []
  | name :: rest =>
    match SourceName.ofText? name with
    | none => .error (.unknownSource name)
    | some source =>
      if source ∈ seen then sourcesFrom seen rest
      else do
        let more ← sourcesFrom (source :: seen) rest
        .ok (source :: more)

def readSources (setting : String) (value : Value) : Except Refusal (List SourceName) := do
  let found ← sourcesFrom [] (← names setting value)
  if found.isEmpty then .error .noSources else .ok found

def readSections (root : Entries) : Except Refusal Config := do
  let log ← requireSection root "log"
  let level ← log.require "level" string
  let toFile ← log.get "to_file" false boolean
  let logFolder ← log.get "dir" "log" string
  let search ← requireSection root "search"
  let extension ← search.get "extension" none optionalString
  let sources ← search.get "sources" [.known] readSources
  let workers ← search.get "max_workers" 4 integer
  let sanitizes ← search.get "sanitize_names" true boolean
  let dump ← optionalSection root "dump"
  let dumpPath ← dump.get "path" "" string
  let storage ← requireSection root "storage"
  let enabled ← storage.require "enabled" boolean
  let databasePath ← storage.get "db_path" "database/known.db" string
  let output ← optionalSection root "output"
  let outputFolder ← output.get "base_dir" "output" string
  let formats ← output.get "formats" ["console"] names
  .ok
    { logLevel := String.ofList (Text.upper level.toList)
      logToFile := toFile
      logFolder
      sources
      workers
      sanitizes
      extension := tidyExtension extension
      dumpPath
      storageEnabled := enabled
      databasePath
      outputFolder
      formats }

def isBlankText (s : String) : Bool := Text.allBlank s.toList

def refuseIf (fault : Bool) (refusal : Refusal) : Except Refusal Unit :=
  if fault then .error refusal else .ok ()

def checkSearch (workers : Int) (hasSources : Bool) : Except Refusal Unit := do
  refuseIf (workers ≤ 0) .badWorkers
  refuseIf (!hasSources) .noSources

def insertName (name : String) : List String → List String
  | [] => [name]
  | other :: rest =>
    if name = other then other :: rest
    else if name < other then name :: other :: rest
    else other :: insertName name rest

def unknownFormats (formats : List String) : List String :=
  (formats.filter (!knownFormats.contains ·)).foldr insertName []

def check (c : Config) : Except Refusal Unit := do
  refuseIf (!levels.contains c.logLevel) .badLevel
  refuseIf (c.logToFile && isBlankText c.logFolder) .blankLogFolder
  checkSearch c.workers (!c.sources.isEmpty)
  refuseIf (c.storageEnabled && isBlankText c.databasePath) .blankDatabase
  refuseIf c.formats.isEmpty .noFormats
  refuseIf (!(unknownFormats c.formats).isEmpty) (.unknownFormats (unknownFormats c.formats))
  refuseIf (c.formats.contains "json" && isBlankText c.outputFolder) .blankOutputFolder
  refuseIf (c.sources.contains .known && !c.storageEnabled) .historyDisabled
  refuseIf (c.sources.contains .dump && isBlankText c.dumpPath) .blankDump

def ofEntries (root : Entries) : Except Refusal Config := do
  let config ← readSections root
  check config
  .ok config

end FileSearch.Config
