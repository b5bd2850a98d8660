import FileSearch.Hit

/-!
# Safe names

A name is made safe by writing a point for every character that is not a letter or
digit of ASCII.
-/

set_option autoImplicit false

namespace FileSearch.Hit

def isSafe (c : Char) : Bool := c.isAlpha || c.isDigit

def safeChar (c : Char) : Char := if isSafe c then c else '.'

def safeName (name : String) : String := name.map safeChar

def sanitize (h : Hit) : Hit := { h with name := safeName h.name }

end FileSearch.Hit
