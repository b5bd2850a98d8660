import FileSearch.History.Migration
import FileSearch.Files

/-!
# Databases in files

A connection to a database file reads what the file holds whenever no transaction is
open, and writes the file when one is committed. A database can also be kept in memory
for the life of its connection.
-/

set_option autoImplicit false

namespace FileSearch.History

inductive Refusal where
  /-- A folder for the database cannot be made, or its path is not one. -/
  | file (refusal : Files.Refusal)
  | cannotOpen
  | notDatabase
  | readOnly
  | data (error : DataError)
  | gap (versions : List Int)
  /-- A count is outside the integers that a column holds. -/
  | tooLarge
  | closed
  /-- An earlier opening failed before there was a connection. -/
  | unconnected
  deriving DecidableEq, Repr

def Refusal.message : Refusal → String
  | .file refusal => refusal.message
  | .cannotOpen => "unable to open database file"
  | .notDatabase => "file is not a database"
  | .readOnly => "attempt to write a readonly database"
  | .data error => error.message
  | .gap versions => (MigrationError.gap versions).message
  | .tooLarge => "Python int too large to convert to SQLite INTEGER"
  | .closed => "Cannot operate on a closed database."
  | .unconnected => "'DatabaseManager' object has no attribute 'conn'"

def Refusal.ofMigration : MigrationError → Refusal
  | .gap versions => .gap versions
  | .failed error => .data error

inductive Backing where
  | memory
  | file (place : Files.Place)
  deriving DecidableEq, Repr

structure Link where
  backing : Backing
  connection : Connection := {}
  deriving DecidableEq, Repr

namespace Link

def signatureLength : Nat := 2

def stored (files : Files) (place : Files.Place) : Except Refusal (Option Database) :=
  match files.entry? place with
  | some (.database db) => .ok (some db)
  | some (.text content) =>
    if content.utf8ByteSize < signatureLength then .ok (some {}) else .error .notDatabase
  | some .folder => .error .cannotOpen
  | none => .ok none

/-- Looks at the file again, unless a transaction is open. A file that was removed is
still read as it last was. -/
def refresh (files : Files) (l : Link) : Except Refusal Link :=
  match l.backing, l.connection.working with
  | .file place, none => do
    match ← stored files place with
    | some db => .ok { l with connection := { committed := db } }
    | none => .ok l
  | _, _ => .ok l

def isInPlace (files : Files) (l : Link) : Bool :=
  match l.backing with
  | .memory => true
  | .file place => (files.entry? place).isSome

/-- Whether changes are accepted. A transaction that has changed something goes on even
when the file is gone. -/
def isWritable (files : Files) (l : Link) : Bool :=
  l.isInPlace files || l.connection.hasChanged

def save (files : Files) (l : Link) : Files :=
  match l.backing with
  | .memory => files
  | .file place =>
    if l.isInPlace files then files.set place (.database l.connection.committed) else files

def memoryName : String := ":memory:"

/-- Makes the folders of a database file, and the file unless it is there. The folders stay
where the file cannot be opened. -/
def connect (files : Files) (path : Path) : Files × Except Refusal Link :=
  match files.makeFolders path.parent with
  | (files, .error refusal) => (files, .error (.file refusal))
  | (files, .ok ()) =>
    if path.text = memoryName then (files, .ok ⟨.memory, {}⟩)
    else
      match files.locate path with
      | .error .nullCharacter => (files, .error (.file ⟨.nullCharacter, path⟩))
      | .error _ => (files, .error .cannotOpen)
      | .ok place =>
        match files.entry? place with
        | some .folder => (files, .error .cannotOpen)
        | some _ => (files, .ok ⟨.file place, {}⟩)
        | none => (files.set place (.database {}), .ok ⟨.file place, {}⟩)

end Link

end FileSearch.History
