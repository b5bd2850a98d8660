/-!
# Tokens of settings texts

Besides the marks that a text spells out there are tokens for what its indentation
says: where a block of entries or keys begins and ends.
-/

set_option autoImplicit false

namespace FileSearch.Yaml

inductive Directive where
  | version (major : Nat)
  /-- From here on, tags with this handle begin with `start`. -/
  | handle (handle start : String)
  | other
  deriving DecidableEq, Repr

inductive Token where
  | directive (directive : Directive)
  | documentStart
  | documentEnd
  | blockSequence
  | blockMapping
  | blockEnd
  | openBracket
  | closeBracket
  | openBrace
  | closeBrace
  | comma
  /-- A dash in front of an entry. -/
  | entry
  | key
  | value
  /-- A node that was named before. -/
  | reference (name : String)
  /-- A name for the node that follows. -/
  | anchor (name : String)
  | tag (handle : Option String) (suffix : String)
  | scalar (isPlain : Bool) (text : List Char)
  | finish
  deriving DecidableEq, Repr

end FileSearch.Yaml
