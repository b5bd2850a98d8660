import FileSearch.Text.Case.Folding
import FileSearch.Text.Case.Lowering
import FileSearch.Text.Case.Raising
import FileSearch.Text.Case.Context

/-!
# Letter case

Case folding and the two case mappings, in full: one character may become several.
Folding and raising look at single characters; lowering also looks at the
neighbours of a capital sigma.
-/

set_option autoImplicit false

namespace FileSearch.Text

namespace Case

def mapped (runs : List Run) (many : List (Nat × List Nat)) (c : Char) : List Char :=
  match many.lookup c.toNat with
  | some codes => codes.map Char.ofNat
  | none => [Char.ofNat (shifted runs c.toNat)]

def foldChar (c : Char) : List Char :=
  if c.toNat < 0x80 then [c.toLower] else mapped foldingRuns foldingMany c

def lowerChar (c : Char) : List Char :=
  if c.toNat < 0x80 then [c.toLower] else mapped loweringRuns loweringMany c

def raiseChar (c : Char) : List Char :=
  if c.toNat < 0x80 then [c.toUpper] else mapped raisingRuns raisingMany c

def isIgnorable (c : Char) : Bool := ignorableRanges.has c

def meetsCased (s : List Char) : Bool :=
  match s.dropWhile isIgnorable with
  | [] => false
  | c :: _ => casedRanges.has c

/-- A capital sigma ends a word when a cased letter precedes it and none follows. -/
def isFinalSigma (before after : List Char) : Bool := meetsCased before && !meetsCased after

def lowerFrom (before : List Char) : List Char → List Char
  | [] => []
  | c :: after =>
    (if c = 'Σ' then [if isFinalSigma before after then 'ς' else 'σ'] else lowerChar c) ++
      lowerFrom (c :: before) after

end Case

def fold (s : List Char) : List Char := s.flatMap Case.foldChar

def upper (s : List Char) : List Char := s.flatMap Case.raiseChar

def lower (s : List Char) : List Char := Case.lowerFrom [] s

theorem fold_append (s t : List Char) : fold (s ++ t) = fold s ++ fold t := by
  simp [fold]

end FileSearch.Text
