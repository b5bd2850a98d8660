import FileSearch.Session
import FileSearch.Query.Filter
import FileSearch.Text.Lines

/-!
# Result files as a source

A file of saved results is searched as if its hits came from the network. The file is
read once; the hits are kept until the source is closed.
-/

set_option autoImplicit false

namespace FileSearch.Search

structure Dump where
  path : Path
  loaded : Option (List Hit) := none

namespace Dump

def parse (path : Path) (content : String) : Except Failure (List Hit) := do
  let text := String.ofList (Text.unifyNewlines content.toList)
  let document ← (Json.read text).mapError .json
  (Hit.readDocument path.text document).mapError .record

def readFile (path : Path) (files : Files) : Except Failure (List Hit) := do
  let content ← (files.readText path).mapError .file
  parse path content

def select (query : String) (extension : Option String) (hits : List Hit) : List Hit :=
  let tree := Query.parse query
  hits.filter fun h => Query.hasExtension h.name extension && tree.accepts h.name.toList

def load (d : Dump) (files : Files) : Except Failure (List Hit) :=
  match d.loaded with
  | some hits => .ok hits
  | none => readFile d.path files

def search (query : String) (extension : Option String) (d : Dump) :
    StateM Session (Except Failure (List Hit) × Dump) := do
  match d.load (← get).files with
  | .error failure => return (.error failure, d)
  | .ok hits =>
    if d.loaded.isNone then
      Session.note Log.debug s!"Loaded {hits.length} hits from {d.path.text}"
    return (.ok (select query extension hits), { d with loaded := some hits })

def isAvailable (d : Dump) (files : Files) : Except Failure Bool :=
  (files.isFile d.path).mapError .file

def close (d : Dump) : Dump := { d with loaded := none }

end Dump

end FileSearch.Search
