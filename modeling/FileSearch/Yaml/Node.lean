import FileSearch.Yaml.Tag

/-!
# Nodes

A settings text is a tree of nodes: scalars, sequences and mappings, each with the kind
of its value. References to named nodes have been replaced by what they name.
-/

set_option autoImplicit false

namespace FileSearch.Yaml

inductive Node where
  | scalar (tag : Tag) (text : List Char)
  | sequence (tag : Tag) (items : List Node)
  | mapping (tag : Tag) (entries : List (Node × Node))

namespace Node

def tag : Node → Tag
  | .scalar tag _ => tag
  | .sequence tag _ => tag
  | .mapping tag _ => tag

def empty : Node := .scalar .null []

mutual

def height : Node → Nat
  | .scalar _ _ => 1
  | .sequence _ items => itemsHeight items + 1
  | .mapping _ entries => entriesHeight entries + 1

def itemsHeight : List Node → Nat
  | [] => 0
  | item :: items => max (height item) (itemsHeight items)

def entriesHeight : List (Node × Node) → Nat
  | [] => 0
  | entry :: entries => max (entryHeight entry) (entriesHeight entries)

def entryHeight : Node × Node → Nat
  | (key, value) => max (height key) (height value)

end

end Node

end FileSearch.Yaml
