import FileSearch.Decimal.Binary64

/-!
# JSON values

The values of result files and of the fields that sources pass through. An object
keeps its fields in the order in which their names first appear.
-/

set_option autoImplicit false

namespace FileSearch

inductive Json where
  | null
  | bool (value : Bool)
  | int (value : Int)
  | real (value : Decimal.Binary64)
  | text (value : String)
  | list (items : List Json)
  | object (fields : List (String × Json))

namespace Json

abbrev Fields := List (String × Json)

def Fields.set (name : String) (value : Json) : Fields → Fields
  | [] => [(name, value)]
  | (n, v) :: fields =>
    if n = name then (n, value) :: fields else (n, v) :: Fields.set name value fields

def Fields.ofAssignments (assignments : List (String × Json)) : Fields :=
  assignments.foldl (fun fields a => Fields.set a.1 a.2 fields) []

def Fields.get? (fields : Fields) (name : String) : Option Json := fields.lookup name

def Fields.has (fields : Fields) (name : String) : Bool := fields.any (·.1 == name)

end Json

end FileSearch
