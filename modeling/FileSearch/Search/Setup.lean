import FileSearch.Config
import FileSearch.Search.Service

/-!
# Setting up a search

Builds the sources that a configuration names, and opens the history if it is enabled.
-/

set_option autoImplicit false

namespace FileSearch.Search

open Session

def Source.ofName (name : String) (dumpPath : String) (hasStore : Bool) :
    Except Failure Source :=
  match SourceName.ofText? name with
  | none => .error (.unknownSource name)
  | some .known => if hasStore then .ok .known else .error .sourceNeedsStorage
  | some .dump => .ok (.dump { path := Path.ofString dumpPath })

def openStorage (config : Config) : Action Bool := do
  if !config.storageEnabled then return false
  let path := Path.ofString config.databasePath
  let _ ← History.openManager path
  note Log.info s!"History storage enabled: {path.text}"
  History.openStore
  return true

def Service.ofConfig (config : Config) (hasStore : Bool) : Except Failure Service := do
  let sources ← config.sources.mapM fun name => Source.ofName name.text config.dumpPath hasStore
  .ok
    { sources
      recorder := if hasStore then .history else .nothing
      sanitizes := config.sanitizes
      workers := config.workers }

end FileSearch.Search
