import FileSearch.History.Database

/-!
# Connections

A connection sees the committed database and, while a transaction is open, a working
copy of it. Changes go to the working copy; committing makes it the committed database
and rolling back drops it. Without a transaction a change is committed at once. No other
connection changes the database meanwhile, so nothing has to wait for a lock.
-/

set_option autoImplicit false

namespace FileSearch.History

structure Connection where
  committed : Database := {}
  /-- The working copy of an open transaction. -/
  working : Option Database := none
  deriving DecidableEq, Repr

namespace Connection

def current (c : Connection) : Database := c.working.getD c.committed

def start (c : Connection) : Connection := { c with working := some c.current }

def hasChanged (c : Connection) : Bool := c.current != c.committed

def commit (c : Connection) : Connection := { committed := c.current }

def rollback (c : Connection) : Connection := { c with working := none }

def change (c : Connection) (db : Database) : Connection :=
  match c.working with
  | some _ => { c with working := some db }
  | none => { c with committed := db }

def tryStart (c : Connection) : Connection × Option DataError :=
  if c.working.isSome then (c, some .nested) else (c.start, none)

def tryCommit (c : Connection) : Connection × Option DataError :=
  if c.working.isSome then (c.commit, none) else (c, some (.noTransaction "commit"))

def tryRollback (c : Connection) : Connection × Option DataError :=
  if c.working.isSome then (c.rollback, none) else (c, some (.noTransaction "rollback"))

def attempt (c : Connection) : Except DataError Database → Connection × Option DataError
  | .ok db => (c.change db, none)
  | .error e => (c, some e)

def columnMax : Int := Int.pow 2 63 - 1
def columnMin : Int := -Int.pow 2 63

def fitsColumn (n : Int) : Bool := columnMin ≤ n && n ≤ columnMax

/-- The version field has 32 bits; a number that does not fit is stored as zero. -/
def versionField (n : Int) : Int := if -Int.pow 2 31 ≤ n && n < Int.pow 2 31 then n else 0

def setVersion (c : Connection) (version : Int) : Connection :=
  c.change { c.current with version := versionField version }

end Connection

structure Sighting where
  key : Key
  sources : Int
  deriving DecidableEq, Repr

def Sighting.fits (s : Sighting) : Bool :=
  Connection.fitsColumn s.key.size && Connection.fitsColumn s.sources

def recordAll (now : Int) : List Sighting → List Row → List Row × Bool
  | [], rows => (rows, true)
  | s :: rest, rows =>
    if s.fits then recordAll now rest (upsert now s.key s.sources rows) else (rows, false)

end FileSearch.History
