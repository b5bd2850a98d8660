import FileSearch.Json

/-!
# Values of settings

What a settings file holds. Settings are read from YAML, whose values go beyond those
of JSON; a time or a set, say, is only known as another value. Keys of mappings are
kept as text.
-/

set_option autoImplicit false

namespace FileSearch.Yaml

inductive Value where
  | null
  | bool (value : Bool)
  | int (value : Int)
  | real (value : Decimal.Binary64)
  | text (value : String)
  | list (items : List Value)
  | mapping (entries : List (String × Value))
  /-- A value that no setting can have. It may be without any contents. -/
  | other (isEmpty : Bool)

abbrev Entries := List (String × Value)

def Entries.get? (entries : Entries) (key : String) : Option Value := entries.lookup key

def Entries.set (key : String) (value : Value) : Entries → Entries
  | [] => [(key, value)]
  | (k, v) :: entries =>
    if k = key then (k, value) :: entries else (k, v) :: Entries.set key value entries

namespace Value

mutual

def ofJson : Json → Value
  | .null => .null
  | .bool b => .bool b
  | .int n => .int n
  | .real x => .real x
  | .text s => .text s
  | .list items => .list (ofItems items)
  | .object fields => .mapping (ofFields fields)

def ofItems : List Json → List Value
  | [] => []
  | item :: items => ofJson item :: ofItems items

def ofFields : List (String × Json) → Entries
  | [] => []
  | (name, value) :: fields => (name, ofJson value) :: ofFields fields

end

mutual

def toJson : Value → Json
  | .null => .null
  | .bool b => .bool b
  | .int n => .int n
  | .real x => .real x
  | .text s => .text s
  | .list items => .list (toItems items)
  | .mapping entries => .object (toFields entries)
  | .other _ => .null

def toItems : List Value → List Json
  | [] => []
  | item :: items => toJson item :: toItems items

def toFields : Entries → List (String × Json)
  | [] => []
  | (key, value) :: entries => (key, toJson value) :: toFields entries

end

def isNothing : Value → Bool
  | .null => true
  | .bool b => !b
  | .int n => n = 0
  | .real x => x.isZero
  | .text s => s.isEmpty
  | .list items => items.isEmpty
  | .mapping entries => entries.isEmpty
  | .other isEmpty => isEmpty

mutual

def merge (base override : Value) : Value :=
  match override with
  | .mapping entries =>
    match base with
    | .mapping below => .mapping (mergeEntries below entries)
    | _ => override
  | _ => override

def mergeEntries (base : Entries) : Entries → Entries
  | [] => base
  | (key, value) :: entries =>
    mergeEntries (Entries.set key (mergeAt (base.get? key) value) base) entries

def mergeAt (base : Option Value) (value : Value) : Value :=
  match base with
  | some below => merge below value
  | none => value

end

end Value

end FileSearch.Yaml
