import FileSearch.Files.Path
import FileSearch.History.Database
import FileSearch.Text.Quoted

/-!
# Files

What the working folder holds: folders, texts and history databases. A path is walked
from the working folder down, and each refusal names the path that was asked for. What
lies outside the working folder is an empty folder. Everything may be read and written:
there are no permissions, no links and no disks that fail.
-/

set_option autoImplicit false

namespace FileSearch

namespace Files

inductive Entry where
  | folder
  | text (content : String)
  | database (content : History.Database)
  deriving DecidableEq, Repr

abbrev Place := List String

inductive Fault where
  | notFound
  | exists
  | notFolder
  | isFolder
  | nameTooLong
  | nullCharacter
  | notText
  deriving DecidableEq, Repr

def Fault.isAbsence : Fault → Bool
  | .notFound => true
  | .notFolder => true
  | .nullCharacter => true
  | _ => false

structure Refusal where
  fault : Fault
  path : Path
  deriving DecidableEq, Repr

def numbered (number : Nat) (reason : String) (path : Path) : String :=
  s!"[Errno {number}] {reason}: {Text.quote path.text}"

def Refusal.message (r : Refusal) : String :=
  match r.fault with
  | .notFound => numbered 2 "No such file or directory" r.path
  | .exists => numbered 17 "File exists" r.path
  | .notFolder => numbered 20 "Not a directory" r.path
  | .isFolder => numbered 21 "Is a directory" r.path
  | .nameTooLong => numbered 36 "File name too long" r.path
  | .nullCharacter => "embedded null byte"
  | .notText => "the file holds no text"

end Files

structure Files where
  entries : List (Files.Place × Files.Entry) := []
  deriving Repr

namespace Files

def outside : Place := ["/"]

def entry? (files : Files) (place : Place) : Option Entry :=
  if place = [] ∨ place = outside then some .folder else files.entries.lookup place

def set (files : Files) (place : Place) (entry : Entry) : Files :=
  { entries := files.entries.filter (·.1 != place) ++ [(place, entry)] }

def erase (files : Files) (place : Place) : Files :=
  { entries := files.entries.filter (·.1 != place) }

def segmentLimit : Nat := 255

def pathLimit : Nat := 4095

def above (place : Place) : Place :=
  if place = [] ∨ place = outside then outside else place.dropLast

def walk (files : Files) (place : Place) : List String → Except Fault Place
  | [] => .ok place
  | segment :: segments =>
    match files.entry? place with
    | none => .error .notFound
    | some .folder =>
      if segmentLimit < segment.utf8ByteSize then .error .nameTooLong
      else walk files (if segment = ".." then above place else place ++ [segment]) segments
    | some _ => .error .notFolder

def locate (files : Files) (path : Path) : Except Fault Place :=
  if path.text.toList.contains '\x00' then .error .nullCharacter
  else if pathLimit < path.text.utf8ByteSize then .error .nameTooLong
  else walk files (if path.root = "" then [] else outside) path.segments

def find (files : Files) (path : Path) : Except Fault Entry :=
  match files.locate path with
  | .error fault => .error fault
  | .ok place => (files.entry? place).elim (.error .notFound) .ok

def test (files : Files) (path : Path) (check : Entry → Bool) : Except Refusal Bool :=
  match files.find path with
  | .ok entry => .ok (check entry)
  | .error fault => if fault.isAbsence then .ok false else .error ⟨fault, path⟩

def isFile (files : Files) (path : Path) : Except Refusal Bool :=
  files.test path (· != .folder)

def isFolder (files : Files) (path : Path) : Except Refusal Bool :=
  files.test path (· == .folder)

def readText (files : Files) (path : Path) : Except Refusal String :=
  match files.find path with
  | .ok (.text content) => .ok content
  | .ok .folder => .error ⟨.isFolder, path⟩
  | .ok (.database _) => .error ⟨.notText, path⟩
  | .error fault => .error ⟨fault, path⟩

def editText (files : Files) (path : Path) (edit : String → String) : Except Refusal Files :=
  match files.locate path with
  | .error fault => .error ⟨fault, path⟩
  | .ok place =>
    match files.entry? place with
    | some .folder => .error ⟨.isFolder, path⟩
    | some (.text content) => .ok (files.set place (.text (edit content)))
    | _ => .ok (files.set place (.text (edit "")))

def writeText (files : Files) (path : Path) (content : String) : Except Refusal Files :=
  files.editText path fun _ => content

/-- Adds to the text of a file. What is added to a database, unless it is empty, is never read:
it is behind all that the database says of itself. -/
def appendText (files : Files) (path : Path) (content : String) : Except Refusal Files :=
  match files.find path with
  | .ok (.database db) => if db = {} then files.editText path (· ++ content) else .ok files
  | _ => files.editText path (· ++ content)

def makeFolder (files : Files) (path : Path) : Except Refusal Files :=
  match files.locate path with
  | .error fault => .error ⟨fault, path⟩
  | .ok place =>
    match files.entry? place with
    | some _ => .error ⟨.exists, path⟩
    | none => .ok (files.set place .folder)

def ensureFolder (files : Files) (path : Path) : Except Refusal Files :=
  match files.makeFolder path with
  | .ok files => .ok files
  | .error refusal => do
    if ← files.isFolder path then .ok files else .error refusal

def tryFolder (files : Files) (path : Path) : Files × Except Refusal Unit :=
  match files.ensureFolder path with
  | .ok later => (later, .ok ())
  | .error refusal => (files, .error refusal)

/-- Makes the folders of a path, as many from the end as are missing. The number bounds
the segments. Where a folder cannot be made, those above it stay. -/
def makeWithin : Nat → Files → Path → Files × Except Refusal Unit
  | 0, files, path => files.tryFolder path
  | n + 1, files, path =>
    match files.makeFolder path with
    | .error ⟨.notFound, _⟩ =>
      match makeWithin n files path.parent with
      | (files, .ok ()) => files.tryFolder path
      | failed => failed
    | _ => files.tryFolder path

def makeFolders (files : Files) (path : Path) : Files × Except Refusal Unit :=
  makeWithin path.segments.length files path

def ensureFolders (files : Files) (path : Path) : Except Refusal Files :=
  (files.makeFolders path).2.map fun _ => (files.makeFolders path).1

def remove (files : Files) (path : Path) : Files :=
  match files.locate path with
  | .ok place => files.erase place
  | .error _ => files

/-- The texts with their paths, in the order of the paths: a folder as it is compared. -/
def texts (files : Files) : List (String × String) :=
  let all := files.entries.filterMap fun e =>
    match e.2 with
    | .text content => some ("/".intercalate e.1, content)
    | _ => none
  all.mergeSort fun a b => a.1 ≤ b.1

/-- The texts that are not in `before` as they are now: what a run has made, for whoever
compares runs. -/
def changedSince (files before : Files) : List (String × String) :=
  files.texts.filter fun t => !before.texts.contains t

end Files

end FileSearch
