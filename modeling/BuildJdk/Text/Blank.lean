import BuildJdk.Text.Ranges

/-!
# Blank characters

The characters that Unicode counts as white space, and the three ways to trim them. Everything that
the program calls blank (a property without a value, the margin of a line) is this class.
-/

namespace BuildJdk.Text

/-- The ranges of `White_Space`. -/
def blankRanges : List (Nat × Nat) := [
  (0x0009, 0x000D), (0x0020, 0x0020), (0x0085, 0x0085), (0x00A0, 0x00A0), (0x1680, 0x1680),
  (0x2000, 0x200A), (0x2028, 0x2029), (0x202F, 0x202F), (0x205F, 0x205F), (0x3000, 0x3000)]

/-- A white space character. -/
def isBlank (c : Char) : Bool := inRanges blankRanges c

/-! ## Trimming lists of characters -/

/-- The list without the leading characters of a class. -/
def dropStart (p : Char → Bool) (s : List Char) : List Char := s.dropWhile p

/-- The list without the trailing characters of a class. -/
def dropFinal (p : Char → Bool) (s : List Char) : List Char := (s.reverse.dropWhile p).reverse

/-- The list without the characters of a class at either end. -/
def dropEnds (p : Char → Bool) (s : List Char) : List Char := dropFinal p (dropStart p s)

/-- The list without the blanks at either end. -/
def trimBlanks (s : List Char) : List Char := dropEnds isBlank s

/-! ## Trimming texts -/

/-- The text without the blanks at either end. -/
def trim (s : String) : String := String.ofList (trimBlanks s.toList)

/-- A text of blanks only; the empty text is one. -/
def isAllBlank (s : String) : Bool := s.toList.all isBlank

end BuildJdk.Text
