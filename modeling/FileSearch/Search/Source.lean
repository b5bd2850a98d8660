import FileSearch.Search.Dump
import FileSearch.History.Store

/-!
# Sources

A source is asked whether it is available, searched, and closed. Besides the result
file and the history there are sources that follow a script and keep a list of what
was asked of them; they stand for sources on the network, and may lack any part.
-/

set_option autoImplicit false

namespace FileSearch.Search

inductive Step (α : Type) where
  | missing
  | gives (value : α)
  | fails (message : String)
  deriving DecidableEq, Repr

inductive Call where
  | search (query : String) (extension : Option String)
  | close
  deriving DecidableEq, Repr

structure Script where
  name : Option String := none
  typeName : String := "_Stub"
  isRemote : Bool := false
  probe : Step Bool := .missing
  /-- The hits of every search, or the text it fails with. -/
  hits : Except String (List Hit) := .ok []
  closing : Step Unit := .gives ()
  calls : List Call := []

inductive Source where
  | dump (source : Dump)
  | known
  | scripted (script : Script)

namespace Source

def name? : Source → Option String
  | .dump _ => some "dump"
  | .known => some "known"
  | .scripted s => s.name

def typeName : Source → String
  | .dump _ => "DumpSource"
  | .known => "KnownSource"
  | .scripted s => s.typeName

def unnamed (s : Source) : Failure := @Failure.nameless s.typeName

def shownName (s : Source) : String := s.name?.getD "unknown"

def isRemote : Source → Bool
  | .dump _ => true
  | .known => false
  | .scripted s => s.isRemote

def calls? : Source → Option (List Call)
  | .scripted s => some s.calls
  | _ => none

/-- Begins a new list of calls, for whoever looks at the calls of one search at a time. -/
def forgetCalls : Source → Source
  | .scripted s => .scripted { s with calls := [] }
  | s => s

def probe (files : Files) : Source → Step Bool
  | .dump d =>
    match d.isAvailable files with
    | .ok up => .gives up
    | .error failure => .fails failure.message
  | .known => .missing
  | .scripted s => s.probe

def search (query : String) (extension : Option String) :
    Source → StateM Session (Except Failure (List Hit) × Source)
  | .dump d => do
    let (result, d) ← d.search query extension
    return (result, .dump d)
  | .known => do
    let result ← (History.search query extension).run
    return (result, .known)
  | .scripted s =>
    return (s.hits.mapError .scripted,
      .scripted { s with calls := s.calls ++ [.search query extension] })

def close : Source → Step Unit × Source
  | .dump d => (.gives (), .dump d.close)
  | .known => (.gives (), .known)
  | .scripted s =>
    match s.closing with
    | .missing => (.missing, .scripted s)
    | closing => (closing, .scripted { s with calls := s.calls ++ [.close] })

end Source

end FileSearch.Search
