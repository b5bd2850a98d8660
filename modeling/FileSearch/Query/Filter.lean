import FileSearch.Query.Frame

/-!
# Filtering names

Names are kept by a query, and by the extension they end in.
-/

set_option autoImplicit false

namespace FileSearch.Query

def bareExtension (extension : List Char) : List Char :=
  (Text.trim extension).dropWhile (· = '.')

def hasExtension (name : String) : Option String → Bool
  | none => true
  | some extension =>
    Text.allBlank extension.toList ||
      ('.' :: Text.fold (bareExtension extension.toList)).isSuffixOf (Text.fold name.toList)

def keeps (query name : String) : Bool := (parse query).accepts name.toList

def filterNames (query : String) (names : List String) : List String :=
  let tree := parse query
  names.filter fun name => tree.accepts name.toList

end FileSearch.Query
