import FileSearch.Session
import FileSearch.Query.Filter

/-!
# The history store

The store remembers hits in the shared database. All parts of a process use one
connection: opening a second path while it is open gives the first one again.
-/

set_option autoImplicit false

namespace FileSearch.History

open Session

/-- Records a batch in one transaction and commits it. If an entry does not fit, the
transaction stays open with the entries before it. -/
def Connection.track (now : Int) (batch : List Sighting) (c : Connection) :
    Except DataError (Connection × Bool) := do
  let rows ← c.current.known
  let (rows, complete) := recordAll now batch rows
  let opened := c.start
  let changed := opened.change (opened.current.put knownName (.known rows))
  .ok (if complete then changed.commit else changed, complete)

def Sighting.ofHit (h : Hit) : Sighting := ⟨⟨h.hash, h.size, h.name⟩, h.sources⟩

def Row.toHit (row : Row) : Hit where
  hash := row.key.hash
  size := row.key.size
  name := row.key.name
  sources := row.sources
  extra := [("first_seen_at", .int row.firstSeen), ("last_seen_at", .int row.lastSeen)]

def select (query : String) (extension : Option String) (rows : List Row) : List Hit :=
  let tree := Query.parse query
  let kept := (byRecency rows).filter fun row =>
    Query.hasExtension row.key.name extension && tree.accepts row.key.name.toList
  kept.map Row.toHit

def refuse {α : Type} (refusal : Refusal) : Action α := throw (.history refusal)

def lift {α : Type} (result : Except Refusal α) : Action α :=
  match result with
  | .ok a => pure a
  | .error refusal => refuse refusal

def setLink (link : Link) : Action Unit :=
  modify fun s => { s with shared := s.shared.map fun m => { m with link := some link } }

def useLink : Action Link := do
  let s ← get
  match s.attached, s.shared with
  | true, some ⟨_, some link⟩ =>
    let link ← lift (link.refresh s.files)
    setLink link
    return link
  | _, _ => refuse .closed

def keepLink (before after : Link) : Action Unit := do
  setLink after
  if after.connection.committed != before.connection.committed then
    modify fun s => { s with files := after.save s.files }

def migrate (link : Link) : Action Unit := do
  let link ← lift (link.refresh (← get).files)
  let outcome := Migration.runOn shipped link.connection
  keepLink link { link with connection := outcome.connection }
  noteAll outcome.notes
  match outcome.error with
  | none => return
  | some error => refuse (.ofMigration error)

def openManager (path : Path) : Action Bool := do
  let s ← get
  if s.shared.isSome then return true
  let (files, connected) := Link.connect s.files path
  set { s with files, shared := some ⟨path, none⟩ }
  let link ← lift connected
  modify fun s => { s with shared := some ⟨path, some link⟩ }
  migrate link
  return false

def openStore : Action Unit := do
  note Log.debug "Initializing KnownHitStore"
  match (← get).shared with
  | some ⟨_, some _⟩ => modify fun s => { s with attached := true }
  | _ => refuse .unconnected

def closeManager : StateM Session Unit :=
  modify fun s => { s with shared := none, attached := false }

def version : Action Int := do
  let s ← get
  match s.shared with
  | some ⟨_, some link⟩ => return (← lift (link.refresh s.files)).connection.current.version
  | _ => refuse .closed

/-- Sets the schema version as another program would that has the file open. -/
def setVersion (version : Int) : Action Unit := do
  let link ← useLink
  if !link.isWritable (← get).files then refuse .readOnly
  keepLink link { link with connection := link.connection.setVersion version }

/-- The names of the tables, for whoever looks at the schema. -/
def tableNames : Action (List String) := do
  let link ← useLink
  return (link.connection.current.tables.map (·.1)).mergeSort fun a b => a ≤ b

def track (hits : List Hit) : Action Unit := do
  if hits.isEmpty then return
  let link ← useLink
  let s ← get
  match link.connection.track s.now (hits.map Sighting.ofHit) with
  | .error error => refuse (.data error)
  | .ok (connection, complete) =>
    if !link.isWritable s.files then
      setLink { link with connection := link.connection.start }
      refuse .readOnly
    keepLink link { link with connection }
    if complete then note Log.debug s!"Tracked {hits.length} known hits"
    else refuse .tooLarge

def rows : Action (List Row) := do
  let link ← useLink
  match link.connection.current.known with
  | .ok rows => return rows
  | .error error => refuse (.data error)

def search (query : String) (extension : Option String) : Action (List Hit) := do
  let hits := select query extension (← rows)
  note Log.debug s!"Known hits matching {Text.quote query}: {hits.length}"
  return hits

def count : Action Nat := do return (← rows).length

end FileSearch.History
