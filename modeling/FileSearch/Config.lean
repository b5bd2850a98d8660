import FileSearch.Text.Quoted

/-!
# Configuration

The settings of a search, and what can be wrong with them. Every message names the
setting that is at fault.
-/

set_option autoImplicit false

namespace FileSearch

inductive SourceName where
  | known
  | dump
  deriving DecidableEq, Repr

namespace SourceName

def text : SourceName → String
  | .known => "known"
  | .dump => "dump"

def all : List SourceName := [.known, .dump]

def ofText? (name : String) : Option SourceName := all.find? (·.text == name)

end SourceName

structure Config where
  /-- The least level that the console shows, in capitals. -/
  logLevel : String
  logToFile : Bool
  logFolder : String
  sources : List SourceName
  workers : Int
  sanitizes : Bool
  /-- The extension that names must have, without points in front. -/
  extension : Option String
  dumpPath : String
  storageEnabled : Bool
  databasePath : String
  outputFolder : String
  formats : List String
  deriving DecidableEq, Repr

namespace Config

inductive Kind where
  | string
  | boolean
  | integer
  | list
  | object
  deriving DecidableEq, Repr

def Kind.phrase : Kind → String
  | .string => "a string"
  | .boolean => "a boolean"
  | .integer => "an integer"
  | .list => "a list"
  | .object => "an object"

inductive Refusal where
  | wrongKind (setting : String) (kind : Kind)
  | missing (setting : String)
  | unknownSource (name : String)
  | noSources
  | badLevel
  | blankLogFolder
  | badWorkers
  | blankDatabase
  | noFormats
  | unknownFormats (names : List String)
  | blankOutputFolder
  | historyDisabled
  | blankDump
  | rootNotMapping
  deriving DecidableEq, Repr

def levels : List String := ["CRITICAL", "DEBUG", "ERROR", "INFO", "WARNING"]

def knownFormats : List String := ["console", "json"]

def Refusal.message : Refusal → String
  | .wrongKind setting kind => s!"{setting} must be {kind.phrase}"
  | .missing setting => s!"Missing required config: {setting}"
  | .unknownSource name => s!"search.sources has unknown source: {name}"
  | .noSources => "search.sources must include at least one source"
  | .badLevel => s!"log.level must be one of {Text.quoteList levels}"
  | .blankLogFolder => "log.dir must not be empty when log.to_file=true"
  | .badWorkers => "search.max_workers must be positive"
  | .blankDatabase => "storage.db_path must not be empty"
  | .noFormats => "output.formats must include at least one format"
  | .unknownFormats names => s!"output.formats has unknown formats: {Text.quoteList names}"
  | .blankOutputFolder => "output.base_dir must not be empty"
  | .historyDisabled => "search.sources includes 'known' which requires storage.enabled=true"
  | .blankDump => "search.sources includes 'dump' which requires dump.path"
  | .rootNotMapping => "Config root must be a mapping/object"

end Config

end FileSearch
