import FileSearch.Text.Quoted

/-!
# Faults of settings texts

A text may break the rules of YAML, or follow them and hold a value that cannot be. Only
the second kind comes with a message.
-/

set_option autoImplicit false

namespace FileSearch.Yaml

inductive Malformation where
  | notPrintable
  | strayCharacter
  | strayEntry
  | strayKey
  | strayValue
  /-- A line that had to hold a key has no colon. -/
  | keyWithoutValue
  | directive
  | name
  | tag
  | blockHeader
  | openQuote
  | escape
  | unexpectedToken
  | repeatedDirective
  | unknownVersion
  | unknownHandle
  | unknownAnchor
  | repeatedAnchor
  | secondDocument
  | unknownTag
  | wrongNode
  | compoundKey
  | merge
  | binary
  deriving DecidableEq, Repr

inductive BadValue where
  | codeTooLarge
  /-- A code that does not even fit a machine word. -/
  | codeBeyondWord
  | integer (base : Nat) (digits : String)
  | real (text : String)
  | emptyNumber
  | boolean (text : String)
  | time
  | year (number : Nat)
  | month
  | day
  | hour
  | minute
  | second
  /-- An offset from universal time of a day or more. -/
  | offset (days : Int) (seconds : Nat)
  /-- Lists and mappings are inside of one another more often than a reader can follow. -/
  | tooDeep
  deriving DecidableEq, Repr

def spanText (days : Int) (seconds : Nat) : String :=
  let parts := (if days = 0 then [] else [s!"days={days}"]) ++
    (if seconds = 0 then [] else [s!"seconds={seconds}"])
  "datetime.timedelta(" ++ ", ".intercalate parts ++ ")"

def excerptLimit : Nat := 200

def excerpt (digits : String) : String :=
  String.ofList ((Text.quoted digits.toList).take excerptLimit)

def BadValue.message : BadValue → String
  | .codeTooLarge => "chr() arg not in range(0x110000)"
  | .codeBeyondWord => "Python int too large to convert to C int"
  | .integer base digits => s!"invalid literal for int() with base {base}: {excerpt digits}"
  | .real text => s!"could not convert string to float: {Text.quote text}"
  | .emptyNumber => "string index out of range"
  | .boolean text => Text.quote text
  | .time => "'NoneType' object has no attribute 'groupdict'"
  | .year n => s!"year {n} is out of range"
  | .month => "month must be in 1..12"
  | .day => "day is out of range for month"
  | .hour => "hour must be in 0..23"
  | .minute => "minute must be in 0..59"
  | .second => "second must be in 0..59"
  | .offset days seconds =>
    "offset must be a timedelta strictly between -timedelta(hours=24) and " ++
      "timedelta(hours=24), not " ++ spanText days seconds ++ "."
  | .tooDeep => "maximum recursion depth exceeded"

/-- Whether the message explains the fault to whoever wrote the settings. It does not for
a text that a tag calls a boolean, a number or a time and that does not look like one,
nor for a code that is out of all bounds or values that go too deep. -/
def BadValue.isExplained : BadValue → Bool
  | .codeBeyondWord => false
  | .boolean _ => false
  | .emptyNumber => false
  | .time => false
  | .tooDeep => false
  | _ => true

inductive Fault where
  | malformed (cause : Malformation)
  | badValue (cause : BadValue)
  deriving DecidableEq, Repr

end FileSearch.Yaml
