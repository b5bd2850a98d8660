import FileSearch.History.Link
import FileSearch.Hit.Record
import FileSearch.Json.Reader
import FileSearch.Output.Size

/-!
# Failures of a search

Everything that can end a search or one of its sources, with the text that the log
shows for it.
-/

set_option autoImplicit false

namespace FileSearch

inductive Failure where
  | file (refusal : Files.Refusal)
  | json (error : Json.ReadError)
  | record (refusal : Hit.Refusal)
  | history (refusal : History.Refusal)
  | size (error : Output.SizeError)
  /-- No source is configured. -/
  | noSources
  /-- All sources that were asked have failed; their names, in the order in which they did. -/
  | allFailed (names : List String)
  /-- A source of this type has to be named in a message and has no name. -/
  | nameless {type : String}
  /-- What a scripted source was told to fail with. -/
  | scripted (message : String)
  | unknownSource (name : String)
  | sourceNeedsStorage
  | noWriters
  deriving DecidableEq, Repr

def Failure.message : Failure → String
  | .file refusal => refusal.message
  | .json error => error.message
  | .record refusal => refusal.message
  | .history refusal => refusal.message
  | .size error => error.message
  | .noSources => "No search sources are configured"
  | .allFailed names => "All search sources failed: " ++ ", ".intercalate names
  | @nameless type => s!"'{type}' object has no attribute 'name'"
  | .scripted message => message
  | .unknownSource name => s!"Unsupported source in config.search.sources: {name}"
  | .sourceNeedsStorage => "Source 'known' requires storage.enabled=true"
  | .noWriters => "No output writers configured"

end FileSearch
