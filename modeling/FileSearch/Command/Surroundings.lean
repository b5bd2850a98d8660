import FileSearch.Command.Invocation
import FileSearch.Config.Load
import FileSearch.Search.Service
import FileSearch.Text.Terminal

/-!
# Surroundings

What a run leaves to others: the reading of its arguments and of settings texts, the file
with which an environment is loaded, the way of a text to its reader, and the order in
which sources finish that are asked together. A run is given them, and `program` are those
of the program where no such file is there.
-/

set_option autoImplicit false

namespace FileSearch

inductive Breakdown where
  /-- The settings cannot be read as YAML. -/
  | settings (fault : Yaml.Fault)
  /-- A log file cannot be made, the environment not loaded, or a path not looked up. -/
  | file (refusal : Files.Refusal)
  deriving DecidableEq, Repr

inductive Stop where
  | usage (error : Command.UsageError)
  | broken (cause : Breakdown)
  deriving DecidableEq, Repr

structure Surroundings where
  /-- Reads the options in front of the command and looks the configuration up: its name, and
  the other arguments. -/
  options : Files → List String → Except Stop (String × List String)
  named : List String → Except Command.UsageError (Command.Name × List String)
  operands : Command.Name → List String → Except Command.UsageError Command
  /-- Loads the environment, when the command is known and has not read its operands. -/
  environment : Files → Except Files.Refusal Unit
  settings : Config.Reader
  /-- What is left of a text for a reader that is no terminal. -/
  plain : String → String
  delivered : String → String
  finishing : Search.Finishing

namespace Surroundings

def invocation (around : Surroundings) (files : Files) (arguments : List String) :
    Except Stop Invocation := do
  let (configName, arguments) ← around.options files arguments
  let (name, arguments) ← (around.named arguments).mapError .usage
  (around.environment files).mapError fun refusal => .broken (.file refusal)
  let command ← (around.operands name arguments).mapError .usage
  return { configName, command }

def lines (around : Surroundings) (texts : List String) : String :=
  around.delivered (String.join (texts.map fun text => around.plain text ++ "\n"))

end Surroundings

namespace Command

def configProblem? (files : Files) (configName : String) : Option Stop :=
  if configName.isEmpty then none
  else
    match files.find (.ofString configName) with
    | .ok .folder => some (.usage (.configFolder configName))
    | .error .nullCharacter => some (.broken (.file ⟨.nullCharacter, .ofString configName⟩))
    | _ => none

def options (files : Files) (arguments : List String) : Except Stop (String × List String) := do
  let (configName, arguments) ← (readOptions arguments).mapError .usage
  match configProblem? files configName with
  | some stop => .error stop
  | none => return (configName, arguments)

def singleEnds : List Char → List Char
  | [] => []
  | '\r' :: '\n' :: s => '\n' :: singleEnds s
  | c :: s => c :: singleEnds s

end Command

def Surroundings.program : Surroundings where
  options := Command.options
  named := Command.Name.ofArguments
  operands := Command.ofOperands
  environment _ := .ok ()
  settings := Yaml.read
  plain := Text.withoutSequences
  delivered text := String.ofList (Command.singleEnds text.toList)
  finishing := .inTurn

end FileSearch
