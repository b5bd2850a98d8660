import FileSearch.Command.Arguments
import FileSearch.Files.Path

/-!
# Invocations

The arguments of the program: an option for the configuration, and a command with
options and operands of its own.
-/

set_option autoImplicit false

namespace FileSearch

inductive Command where
  /-- Searches the configured sources. -/
  | search (query : String) (extension : Option String)
  /-- Shows which names a query keeps. -/
  | pick (query : String) (names : List String) (showsTree : Bool)
  deriving DecidableEq, Repr

namespace Command

inductive Name where
  | search
  | pick
  deriving DecidableEq, Repr

def searchName : String := "search"

def pickName : String := "match"

def extensionOption : String := "--ext"

def treeOption : String := "--show-tree"

def configOption : String := "--config"

def defaultName : String := "config/default.yml"

def defaultConfig : Path := .ofString defaultName

def ofSearch (arguments : List String) : Except UsageError Command := do
  let given ← Arguments.read [(extensionOption, .valued)] true arguments
  match given.operands with
  | [] => .error .missingQuery
  | [query] => .ok (.search query (given.value? extensionOption))
  | _ :: extra :: _ => .error (.extraOperand extra)

def ofPick (arguments : List String) : Except UsageError Command := do
  let given ← Arguments.read [(treeOption, .flag)] true arguments
  match given.operands with
  | [] => .error .missingQuery
  | query :: names => .ok (.pick query names (given.hasFlag treeOption))

def ofOperands : Name → List String → Except UsageError Command
  | .search => ofSearch
  | .pick => ofPick

def Name.ofArguments : List String → Except UsageError (Name × List String)
  | [] => .error .missingCommand
  | name :: arguments =>
    if name = searchName then .ok (.search, arguments)
    else if name = pickName then .ok (.pick, arguments)
    else .error (.unknownCommand name)

def readOptions (arguments : List String) : Except UsageError (String × List String) := do
  let given ← Arguments.read [(configOption, .valued)] false arguments
  .ok ((given.value? configOption).getD defaultName, given.operands)

end Command

structure Invocation where
  /-- The name of the configuration as it was given. -/
  configName : String
  command : Command
  deriving DecidableEq, Repr

def Invocation.config (i : Invocation) : Path := .ofString i.configName

end FileSearch
