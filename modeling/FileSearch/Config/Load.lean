import FileSearch.Config.Reader
import FileSearch.Yaml.Reader
import FileSearch.Files
import FileSearch.Text.Lines

/-!
# Loading a configuration

Settings come from a file of defaults and a file that is laid over it. How their texts are
read as YAML is up to a reader, which is `Yaml.read` unless another one is given.
-/

set_option autoImplicit false

namespace FileSearch.Config

abbrev Reader := String → Except Yaml.Fault Yaml.Value

inductive LoadFailure where
  | file (refusal : Files.Refusal)
  | yaml (fault : Yaml.Fault)
  | config (refusal : Refusal)
  deriving DecidableEq, Repr

def settings (text : String) (read : Reader := Yaml.read) : Except LoadFailure Yaml.Entries :=
  match read text with
  | .error fault => .error (.yaml fault)
  | .ok (.mapping entries) => .ok entries
  | .ok value => if value.isNothing then .ok [] else .error (.config .rootNotMapping)

def readSettings (files : Files) (path : Path) (read : Reader := Yaml.read) :
    Except LoadFailure Yaml.Entries :=
  match files.readText path with
  | .error refusal => .error (.file refusal)
  | .ok text => settings (String.ofList (Text.unifyNewlines text.toList)) read

def parse (entries : Yaml.Entries) : Except LoadFailure Config :=
  (ofEntries entries).mapError .config

/-- Loads the settings of a file, laid over those of the file of defaults unless it is
that file itself. -/
def load (files : Files) (path defaults : Path) (read : Reader := Yaml.read) :
    Except LoadFailure Config := do
  let base ← readSettings files defaults read
  if path = defaults then parse base
  else
    let override ← readSettings files path read
    parse (Yaml.Value.mergeEntries base override)

end FileSearch.Config
