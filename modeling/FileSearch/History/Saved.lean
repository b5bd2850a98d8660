import FileSearch.History.Database
import FileSearch.Json.Printer
import FileSearch.Json.Reader

/-!
# Saved databases

On disk a history database is a JSON object with its schema version, its tables and its
indexes.
-/

set_option autoImplicit false

namespace FileSearch.History

namespace Row

def toJson (row : Row) : Json :=
  .list [.text row.key.hash, .int row.key.size, .text row.key.name, .int row.sources,
    .int row.firstSeen, .int row.lastSeen]

def ofJson? : Json → Option Row
  | .list [.text hash, .int size, .text name, .int sources, .int firstSeen, .int lastSeen] =>
    some ⟨⟨hash, size, name⟩, sources, firstSeen, lastSeen⟩
  | _ => none

theorem ofJson_toJson (row : Row) : ofJson? row.toJson = some row := rfl

end Row

namespace Table

def toJson : Table → Json
  | .plain rows => .int rows
  | .known rows => .list (rows.map Row.toJson)

def ofJson? : Json → Option Table
  | .int rows => some (.plain rows.toNat)
  | .list rows => (rows.mapM Row.ofJson?).map .known
  | _ => none

theorem rows_ofJson_toJson (rows : List Row) :
    (rows.map Row.toJson).mapM Row.ofJson? = some rows := by
  induction rows with
  | nil => rfl
  | cons row rows ih => simp [List.mapM_cons, Row.ofJson_toJson, ih]

theorem ofJson_toJson (table : Table) : ofJson? table.toJson = some table := by
  cases table with
  | plain rows => rfl
  | known rows => exact congrArg (Option.map Table.known) (rows_ofJson_toJson rows)

end Table

namespace Database

def versionField : String := "version"

def tablesField : String := "tables"

def indexesField : String := "indexes"

def toText (db : Database) : String :=
  let tables := db.tables.map fun t => (t.1, t.2.toJson)
  (Json.object [(versionField, .int db.version), (tablesField, .object tables),
    (indexesField, .list (db.indexes.map .text))]).pretty

def nameOf? : Json → Option String
  | .text name => some name
  | _ => none

def ofText? (text : String) : Option Database :=
  match Json.read text with
  | .ok (.object [(_, .int version), (_, .object tables), (_, .list indexes)]) => do
    let tables ← tables.mapM fun t => (Table.ofJson? t.2).map fun table => (t.1, table)
    return { version, tables, indexes := ← indexes.mapM nameOf? }
  | _ => none

end Database

end FileSearch.History
