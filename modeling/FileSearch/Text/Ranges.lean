/-!
# Sets and maps of characters

Tables over code points are short lists: closed ranges for a set of characters,
runs with a constant shift for a map between them.
-/

set_option autoImplicit false

namespace FileSearch.Text

abbrev Ranges := List (Nat × Nat)

def Ranges.has (ranges : Ranges) (c : Char) : Bool :=
  ranges.any fun r => r.1 ≤ c.toNat && c.toNat ≤ r.2

structure Run where
  first : Nat
  last : Nat
  stride : Nat
  shift : Int

def Run.covers (run : Run) (code : Nat) : Bool :=
  run.first ≤ code && code ≤ run.last && (code - run.first) % run.stride == 0

def Run.move (run : Run) (code : Nat) : Nat := (code + run.shift).toNat

def shifted (runs : List Run) (code : Nat) : Nat :=
  match runs.find? (·.covers code) with
  | some run => run.move code
  | none => code

end FileSearch.Text
