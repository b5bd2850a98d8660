import FileSearch.Hit

/-!
# Aggregating hits

Several sources report the same content, under the same or other names. Hits are
grouped by content; every group counts the peers of all its members and keeps the
first hit of each name.
-/

set_option autoImplicit false

namespace FileSearch.Hit

/-- Hits with one key describe one content: the hash, directly followed by the size. -/
def contentKey (h : Hit) : String := h.hash ++ toString h.size

abbrev Groups := List (String × List Hit)

def Groups.insert (h : Hit) : Groups → Groups
  | [] => [(h.contentKey, [h])]
  | (key, members) :: groups =>
    if key = h.contentKey then (key, members ++ [h]) :: groups
    else (key, members) :: Groups.insert h groups

def group (hits : List Hit) : Groups := hits.foldl (fun groups h => Groups.insert h groups) []

def totalSources (hits : List Hit) : Int := (hits.map sources).foldr (· + ·) 0

def firstNamed (seen : List String) : List Hit → List Hit
  | [] => []
  | h :: hits =>
    if h.name ∈ seen then firstNamed seen hits else h :: firstNamed (h.name :: seen) hits

def condense (members : List Hit) : List Hit :=
  (firstNamed [] members).map fun h => { h with sources := totalSources members }

def aggregate (hits : List Hit) : List Hit := (group hits).flatMap fun g => condense g.2

def withGroupSources (hits others : List Hit) : List Hit :=
  let totals := (group others).map fun g => (g.1, totalSources g.2)
  hits.map fun h => { h with sources := (totals.lookup h.contentKey).getD h.sources }

end FileSearch.Hit
