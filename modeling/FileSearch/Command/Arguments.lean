/-!
# Arguments

Arguments are options, which begin with a hyphen, and operands. An option may take a
value, behind an equals sign or as the next argument, whatever that looks like. Two
hyphens end the options.
-/

set_option autoImplicit false

namespace FileSearch.Command

inductive OptionKind where
  | flag
  | valued
  deriving DecidableEq, Repr

inductive UsageError where
  | unknownOption (name : String)
  | missingValue (name : String)
  /-- A flag was given a value. -/
  | unwantedValue (name : String)
  | missingCommand
  | unknownCommand (name : String)
  | missingQuery
  | extraOperand (operand : String)
  /-- The configuration is a folder. -/
  | configFolder (path : String)
  deriving DecidableEq, Repr

def UsageError.message : UsageError → String
  | .unknownOption name => s!"No such option: {name}"
  | .missingValue name => s!"Option '{name}' requires an argument."
  | .unwantedValue name => s!"Option '{name}' does not take a value."
  | .missingCommand => "Missing command."
  | .unknownCommand name => s!"No such command '{name}'."
  | .missingQuery => "Missing argument 'QUERY'."
  | .extraOperand operand => s!"Got unexpected extra argument ({operand})"
  | .configFolder path => s!"Invalid value for '--config': File '{path}' is a directory."

structure Arguments where
  /-- The options in the order given, a flag with an empty value. -/
  options : List (String × String) := []
  operands : List String := []
  deriving DecidableEq, Repr

namespace Arguments

def withOption (name value : String) (a : Arguments) : Arguments :=
  { a with options := (name, value) :: a.options }

def withOperand (operand : String) (a : Arguments) : Arguments :=
  { a with operands := operand :: a.operands }

def value? (a : Arguments) (name : String) : Option String := a.options.reverse.lookup name

def hasFlag (a : Arguments) (name : String) : Bool := (a.value? name).isSome

def isOption (argument : String) : Bool :=
  match argument.toList with
  | '-' :: _ :: _ => true
  | _ => false

def parts (argument : String) : String × Option String :=
  let name := argument.toList.takeWhile (· != '=')
  match argument.toList.dropWhile (· != '=') with
  | _ :: value => (String.ofList name, some (String.ofList value))
  | [] => (String.ofList name, none)

def read (kinds : List (String × OptionKind)) (mixed : Bool) :
    List String → Except UsageError Arguments
  | [] => .ok {}
  | argument :: rest =>
    if argument = "--" then .ok { operands := rest }
    else if isOption argument then
      let (name, attached) := parts argument
      match kinds.lookup name, attached with
      | none, _ => .error (.unknownOption name)
      | some .flag, some _ => .error (.unwantedValue name)
      | some .flag, none => (read kinds mixed rest).map (withOption name "")
      | some .valued, some value => (read kinds mixed rest).map (withOption name value)
      | some .valued, none =>
        match rest with
        | [] => .error (.missingValue name)
        | value :: rest => (read kinds mixed rest).map (withOption name value)
    else if mixed then (read kinds mixed rest).map (withOperand argument)
    else .ok { operands := argument :: rest }

end Arguments

end FileSearch.Command
