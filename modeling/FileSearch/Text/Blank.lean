import FileSearch.Text.Ranges

/-!
# Blank characters

Blanks are what a text sheds at its ends: the white space of Unicode and the four
information separators.
-/

set_option autoImplicit false

namespace FileSearch.Text

def blankRanges : Ranges :=
  [(0x9, 0xD), (0x1C, 0x20), (0x85, 0x85), (0xA0, 0xA0), (0x1680, 0x1680), (0x2000, 0x200A),
   (0x2028, 0x2029), (0x202F, 0x202F), (0x205F, 0x205F), (0x3000, 0x3000)]

def isBlank (c : Char) : Bool := blankRanges.has c

def trimLeft (s : List Char) : List Char := s.dropWhile isBlank

def trimRight (s : List Char) : List Char := (s.reverse.dropWhile isBlank).reverse

def trim (s : List Char) : List Char := trimRight (trimLeft s)

def allBlank (s : List Char) : Bool := s.all isBlank

theorem trim_left_length (s : List Char) : (trimLeft s).length ≤ s.length :=
  (List.dropWhile_sublist _).length_le

theorem trim_right_length (s : List Char) : (trimRight s).length ≤ s.length := by
  have h := trim_left_length s.reverse
  simpa [trimRight, trimLeft] using h

theorem trim_length (s : List Char) : (trim s).length ≤ s.length :=
  Nat.le_trans (trim_right_length _) (trim_left_length s)

end FileSearch.Text
