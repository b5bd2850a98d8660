import FileSearch.Json

/-!
# Search hits

A hit is one file found on the network: what identifies its content, the name it was
offered under, the number of peers that have it, and the fields its source added.
-/

set_option autoImplicit false

namespace FileSearch

structure Hit where
  /-- The content hash, as text. -/
  hash : String
  /-- The size in bytes. -/
  size : Int
  name : String := ""
  /-- The number of peers that announced the content. -/
  sources : Int := 0
  /-- Further fields, passed through as they came. -/
  extra : Json.Fields := []

namespace Hit

def coreNames : List String := ["hash", "size", "name", "sources"]

def isCore (name : String) : Bool := coreNames.contains name

def toFields (h : Hit) : Json.Fields :=
  [("hash", .text h.hash), ("size", .int h.size), ("name", .text h.name),
   ("sources", .int h.sources)] ++ h.extra.filter (!isCore ·.1)

def toJson (h : Hit) : Json := .object h.toFields

end Hit

end FileSearch
