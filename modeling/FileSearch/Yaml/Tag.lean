import FileSearch.Yaml.Number
import FileSearch.Yaml.Time

/-!
# Kinds of values

The tag of a node says what kind of value it holds. A plain scalar without a tag is
taken for the first kind that its text fits, and for a text if it fits none.
-/

set_option autoImplicit false

namespace FileSearch.Yaml

inductive Tag where
  | null
  | boolean
  | integer
  | real
  | time
  | text
  | binary
  | list
  | mapping
  | set
  | orderedMapping
  | pairs
  /-- A key whose value is merged into its mapping. -/
  | merge
  /-- A key whose value stands for its mapping. -/
  | default
  | unknown
  deriving DecidableEq, Repr

namespace Tag

def standard : String := "tag:yaml.org,2002:"

def table : List (String × Tag) :=
  [("null", .null), ("bool", .boolean), ("int", .integer), ("float", .real),
   ("timestamp", .time), ("str", .text), ("binary", .binary), ("seq", .list), ("map", .mapping),
   ("set", .set), ("omap", .orderedMapping), ("pairs", .pairs), ("merge", .merge),
   ("value", .default)]

def ofText (text : String) : Tag :=
  ((table.map fun t => (standard ++ t.1, t.2)).lookup text).getD .unknown

def trueWords : List String :=
  ["yes", "Yes", "YES", "true", "True", "TRUE", "on", "On", "ON"]

def falseWords : List String :=
  ["no", "No", "NO", "false", "False", "FALSE", "off", "Off", "OFF"]

def markWords : List String := ["!", "&", "*"]

def nullWords : List String := ["", "~", "null", "Null", "NULL"]

def ofPlain (s : List Char) : Tag :=
  let word := String.ofList s
  if word ∈ trueWords || word ∈ falseWords then .boolean
  else if Number.isReal s then .real
  else if Number.isInteger s then .integer
  else if word = "<<" then .merge
  else if word ∈ nullWords then .null
  else if Time.isPlain s then .time
  else if word = "=" then .default
  else if word ∈ markWords then .unknown
  else .text

end Tag

end FileSearch.Yaml
