import FileSearch.Text.Case
import FileSearch.Text.Substring

/-!
# Query trees

A query is a tree of terms and groups. What it accepts and how it is shown are both
reductions of the tree from the leaves up. A reduction walks the tree with a list of
pending nodes, so that nesting costs no call depth; `Tree.fold` is the same reduction
by recursion on the tree.
-/

set_option autoImplicit false

namespace FileSearch.Query

inductive Operator where
  | and
  | or
  | not
  deriving DecidableEq, Repr

inductive Tree where
  | term (word : List Char)
  | group (operator : Operator) (children : List Tree)

namespace Tree

mutual

def fold {α : Type} (leaf : List Char → α) (combine : Operator → List Tree → List α → α) :
    Tree → α
  | .term word => leaf word
  | .group op children => combine op children (foldAll leaf combine children)

def foldAll {α : Type} (leaf : List Char → α) (combine : Operator → List Tree → List α → α) :
    List Tree → List α
  | [] => []
  | t :: ts => fold leaf combine t :: foldAll leaf combine ts

end

mutual

def size : Tree → Nat
  | .term _ => 1
  | .group _ children => 1 + sizeAll children

def sizeAll : List Tree → Nat
  | [] => 0
  | t :: ts => size t + sizeAll ts

end

inductive Pending where
  | visit (tree : Tree)
  | close (operator : Operator) (children : List Tree)

def Pending.weight : Pending → Nat
  | .visit t => 2 * t.size
  | .close _ _ => 1

def work : List Pending → Nat
  | [] => 0
  | p :: ps => p.weight + work ps

def visits (ts : List Tree) : List Pending := ts.map .visit

theorem work_visits (ts : List Tree) (ps : List Pending) :
    work (visits ts ++ ps) = 2 * sizeAll ts + work ps := by
  induction ts with
  | nil => simp [visits, sizeAll]
  | cons t ts ih =>
    simp only [visits] at ih
    simp only [visits, List.map_cons, List.cons_append, work, sizeAll, Pending.weight, ih]
    omega

def sweep {α : Type} (leaf : List Char → α) (combine : Operator → List Tree → List α → α) :
    List Pending → List α → List α
  | [], values => values
  | .visit (.term word) :: ps, values => sweep leaf combine ps (leaf word :: values)
  | .visit (.group op children) :: ps, values =>
    sweep leaf combine (visits children ++ .close op children :: ps) values
  | .close op children :: ps, values =>
    let own := (values.take children.length).reverse
    sweep leaf combine ps (combine op children own :: values.drop children.length)
termination_by ps => work ps
decreasing_by
  · simp only [work, Pending.weight, size]
    omega
  · simp only [work_visits, work, Pending.weight, size]
    omega
  · simp only [work, Pending.weight]
    omega

def reduce {α : Type} (leaf : List Char → α) (combine : Operator → List Tree → List α → α)
    (t : Tree) : List α :=
  sweep leaf combine [.visit t] []

def holds (op : Operator) (values : List Bool) : Bool :=
  if values.isEmpty then true
  else
    match op with
    | .and => values.all id
    | .or => values.any id
    | .not => !values.all id

def found (folded word : List Char) : Bool := Text.occursIn (Text.fold word) folded

def accepts (t : Tree) (target : List Char) : Bool :=
  (t.reduce (found (Text.fold target)) fun op _ values => holds op values).headD true

def Operator.name : Operator → List Char
  | .and => ['A', 'N', 'D']
  | .or => ['O', 'R']
  | .not => ['N', 'O', 'T']

def join (separator : List Char) : List (List Char) → List Char
  | [] => []
  | [part] => part
  | part :: parts => part ++ separator ++ join separator parts

def infixed (op : Operator) : List Char := ' ' :: Operator.name op ++ [' ']

def shown (op : Operator) (parts : List (List Char)) : List Char :=
  match op with
  | .not =>
    let inner := join (infixed .and) parts
    "NOT ".toList ++ if parts.length = 1 then inner else '(' :: inner ++ [')']
  | op => '(' :: join (infixed op) parts ++ [')']

def display (t : Tree) : List Char := (t.reduce id fun op _ parts => shown op parts).headD []

end Tree

end FileSearch.Query
