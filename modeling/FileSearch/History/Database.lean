/-!
# The history database

A database holds a schema version and tables. The table of known hits has one row for
each triple of hash, size and name; any other table only counts its rows. An index has
nothing but its name, which no table may have either. Every change is a function on the
database, so a change that fails leaves nothing behind.
-/

set_option autoImplicit false

namespace FileSearch.History

structure Key where
  hash : String
  size : Int
  name : String
  deriving DecidableEq, Repr

structure Row where
  key : Key
  sources : Int
  firstSeen : Int
  lastSeen : Int
  deriving DecidableEq, Repr

inductive Table where
  | plain (rows : Nat)
  | known (rows : List Row)
  deriving DecidableEq, Repr

structure Database where
  version : Int := 0
  tables : List (String × Table) := []
  indexes : List String := []
  deriving DecidableEq, Repr

def knownName : String := "known_hits"

def knownColumns : Nat := 7

def recencyColumn : String := "last_seen_at"

inductive DataError where
  | tableExists (name : String)
  | indexExists (name : String)
  | nameOfTable (name : String)
  | nameOfIndex (name : String)
  | noTable (name : String)
  | noColumn (name : String)
  | wrongWidth (name : String) (columns : Nat)
  | nested
  | noTransaction (action : String)
  /-- Any further error of the database, by its text. -/
  | other (message : String)
  /-- A statement fails before the database gets it, as a text that cannot be encoded does. -/
  | foreign (message : String)
  deriving DecidableEq, Repr

namespace DataError

def message : DataError → String
  | .tableExists name => s!"table {name} already exists"
  | .indexExists name => s!"index {name} already exists"
  | .nameOfTable name => s!"there is already a table named {name}"
  | .nameOfIndex name => s!"there is already an index named {name}"
  | .noTable name => s!"no such table: {name}"
  | .noColumn name => s!"no such column: {name}"
  | .wrongWidth name columns => s!"table {name} has {columns} columns but 1 values were supplied"
  | .nested => "cannot start a transaction within a transaction"
  | .noTransaction action => s!"cannot {action} - no transaction is active"
  | .other message => message
  | .foreign message => message

def isForeign : DataError → Bool
  | .foreign _ => true
  | _ => false

end DataError

namespace Database

def sameName (a b : String) : Bool := a.map Char.toLower == b.map Char.toLower

def table? (db : Database) (name : String) : Option Table :=
  (db.tables.find? fun t => sameName t.1 name).map (·.2)

def put (db : Database) (name : String) (table : Table) : Database :=
  { db with tables := db.tables.map fun t => if sameName t.1 name then (t.1, table) else t }

def hasIndex (db : Database) (name : String) : Bool := db.indexes.any (sameName name)

def create (db : Database) (name : String) (table : Table) : Except DataError Database :=
  if (db.table? name).isSome then .error (.tableExists name)
  else if db.hasIndex name then .error (.nameOfIndex name)
  else .ok { db with tables := db.tables ++ [(name, table)] }

def createIndex (db : Database) (name : String) : Except DataError Database :=
  match db.table? knownName with
  | none => .error (.noTable s!"main.{knownName}")
  | some table =>
    if (db.table? name).isSome then .error (.nameOfTable name)
    else if db.hasIndex name then .error (.indexExists name)
    else
      match table with
      | .plain _ => .error (.noColumn recencyColumn)
      | .known _ => .ok { db with indexes := db.indexes ++ [name] }

def addRow (db : Database) (name : String) : Except DataError Database :=
  match db.table? name with
  | none => .error (.noTable name)
  | some (.plain rows) => .ok (db.put name (.plain (rows + 1)))
  | some (.known _) => .error (.wrongWidth name knownColumns)

def known (db : Database) : Except DataError (List Row) :=
  match db.table? knownName with
  | some (.known rows) => .ok rows
  | _ => .error (.noTable knownName)

end Database

def upsert (now : Int) (key : Key) (sources : Int) : List Row → List Row
  | [] => [⟨key, sources, now, now⟩]
  | row :: rows =>
    if row.key = key then { row with sources, lastSeen := now } :: rows
    else row :: upsert now key sources rows

def insertRecent (row : Row) : List Row → List Row
  | [] => [row]
  | other :: rows =>
    if other.lastSeen < row.lastSeen then row :: other :: rows else other :: insertRecent row rows

def byRecency (rows : List Row) : List Row :=
  rows.foldl (fun sorted row => insertRecent row sorted) []

end FileSearch.History
