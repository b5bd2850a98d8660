/-!
# Paths

A path is a root and the segments below it. Empty segments and single points are left
out when a path is read, so that different spellings of one place have one form.
-/

set_option autoImplicit false

namespace FileSearch

structure Path where
  /-- Slashes in front, none for a path below the working folder. -/
  root : String
  segments : List String
  deriving DecidableEq, Repr

namespace Path

/-- Exactly two slashes in front are kept, any other number counts as one. -/
def rootOf : List Char → String
  | ['/', '/'] => "//"
  | '/' :: '/' :: c :: _ => if c = '/' then "/" else "//"
  | '/' :: _ => "/"
  | _ => ""

def isStep (segment : List Char) : Bool := !segment.isEmpty && segment != ['.']

def cut : List Char → List (List Char)
  | [] => [[]]
  | c :: s =>
    if c = '/' then [] :: cut s
    else match cut s with
      | [] => [[c]]
      | run :: runs => (c :: run) :: runs

def ofString (text : String) : Path :=
  { root := rootOf text.toList
    segments := ((cut text.toList).filter isStep).map String.ofList }

def text (p : Path) : String :=
  let body := "/".intercalate p.segments
  if p.root ++ body = "" then "." else p.root ++ body

def parent (p : Path) : Path := { p with segments := p.segments.dropLast }

def append (p q : Path) : Path :=
  if q.root = "" then { p with segments := p.segments ++ q.segments } else q

def child (p : Path) (name : String) : Path := p.append (.ofString name)

end Path

end FileSearch
