import FileSearch.History.Connection
import FileSearch.Log.Record

/-!
# Migrations

The schema version of a database is the number of migrations that it has seen. Pending
migrations are applied in order, each with its version in a transaction of its own. A
statement that the database refuses undoes the whole of its migration and nothing more,
provided that the statements leave the transaction to the migration.
-/

set_option autoImplicit false

namespace FileSearch.History

inductive Statement where
  /-- A statement that changes nothing. -/
  | query
  | createTable (name : String)
  | createKnown
  /-- Makes an index of the table of known hits. -/
  | createIndex (name : String)
  | addRow (table : String)
  | start
  | commit
  | rollback
  /-- Any further statement, as what it does to a connection and the error it ends with. -/
  | other (effect : Connection → Connection × Option DataError)

namespace Statement

def run : Statement → Connection → Connection × Option DataError
  | .query, c => (c, none)
  | .createTable name, c => c.attempt (c.current.create name (.plain 0))
  | .createKnown, c => c.attempt (c.current.create knownName (.known []))
  | .createIndex name, c => c.attempt (c.current.createIndex name)
  | .addRow table, c =>
    match c.current.addRow table with
    | .ok db => (c.start.change db, none)
    | .error e => (c, some e)
  | .start, c => c.tryStart
  | .commit, c => c.tryCommit
  | .rollback, c => c.tryRollback
  | .other effect, c => effect c

def between? (opening closing s : List Char) : Option String :=
  if opening.isPrefixOf s && closing.isSuffixOf s then
    let inner := (s.drop opening.length).take (s.length - opening.length - closing.length)
    some (String.ofList inner)
  else none

/-- Reads a statement from its text. A text that is not known fails as the database has it that
does not know it either. -/
def ofText (s : String) : Statement :=
  if s = "SELECT 1" then .query
  else if s = "BEGIN" then .start
  else if s = "COMMIT" ∨ s = "END" then .commit
  else if s = "ROLLBACK" then .rollback
  else
    match between? "CREATE TABLE ".toList " (id INTEGER)".toList s.toList with
    | some name => .createTable name
    | none =>
      match between? "INSERT INTO ".toList " VALUES (1)".toList s.toList with
      | some name => .addRow name
      | none => .other fun c => (c, some (.other s!"unknown statement: {s}"))

def execute : List Statement → Connection → Connection × Option DataError
  | [], c => (c, none)
  | s :: rest, c =>
    match s.run c with
    | (c, some e) => (c, some e)
    | (c, none) => execute rest c

end Statement

structure Migration where
  version : Int
  description : String
  statements : List Statement

def recencyIndex : String := "idx_known_last_seen"

def shipped : List Migration :=
  [⟨1, "known_hits table", [.createKnown, .createIndex recencyIndex]⟩]

inductive MigrationError where
  /-- The migrations are not numbered from 1 on without gaps. -/
  | gap (versions : List Int)
  | failed (error : DataError)
  deriving DecidableEq, Repr

def showVersions (versions : List Int) : String :=
  "[" ++ ", ".intercalate (versions.map toString) ++ "]"

def MigrationError.message : MigrationError → String
  | .gap versions =>
    s!"MIGRATIONS version gap: expected 1..{versions.length} in order, got {showVersions versions}"
  | .failed error => error.message

namespace Migration

def countUp (next : Int) : List Int → Bool
  | [] => true
  | v :: versions => v = next && countUp (next + 1) versions

/-- What comes of an error: the transaction is rolled back, and where it cannot be that is the
error. An error that is not the database's leaves the transaction open. -/
def settle (c : Connection) (e : DataError) : Connection × Option DataError :=
  if e.isForeign then (c, some e)
  else
    match c.tryRollback with
    | (c, some e) => (c, some e)
    | (c, none) => (c, some e)

def apply (m : Migration) (c : Connection) : Connection × Option DataError :=
  match c.tryStart with
  | (c, some e) => (c, some e)
  | (c, none) =>
    match Statement.execute m.statements c with
    | (c, some e) => settle c e
    | (c, none) => (c.change { c.current with version := m.version }).tryCommit

/-- The migrations behind a version. A negative version counts from the end of the list. -/
def pending (migrations : List Migration) (version : Int) : List Migration :=
  migrations.drop
    (if 0 ≤ version then version.toNat else migrations.length - version.natAbs)

def appliedNote (m : Migration) : Log.Record :=
  ⟨Log.info, s!"Applied schema v{m.version}: {m.description}"⟩

def newerNote (version : Int) (known : Nat) : Log.Record :=
  ⟨Log.warning, s!"Database schema v{version} is newer than the latest known v{known}"⟩

structure Outcome where
  connection : Connection
  notes : List Log.Record
  error : Option MigrationError := none
  deriving DecidableEq, Repr

def Outcome.database (o : Outcome) : Database := o.connection.committed

def applyAll (c : Connection) : List Migration → Outcome
  | [] => ⟨c, [], none⟩
  | m :: rest =>
    match m.apply c with
    | (c, some e) => ⟨c, [], some (.failed e)⟩
    | (c, none) =>
      let outcome := applyAll c rest
      { outcome with notes := appliedNote m :: outcome.notes }

def runOn (migrations : List Migration) (c : Connection) : Outcome :=
  let versions := migrations.map (·.version)
  let version := c.current.version
  if !countUp 1 versions then ⟨c, [], some (.gap versions)⟩
  else if migrations.length < version then ⟨c, [newerNote version migrations.length], none⟩
  else applyAll c (pending migrations version)

def run (migrations : List Migration) (db : Database) : Outcome :=
  runOn migrations { committed := db }

end Migration

end FileSearch.History
