/-!
# Search without regard to case

A vendor is recognised by an ASCII word that its name contains in any letter case. The name is
lowered first. Only the characters whose lower case form has an ASCII letter matter for such a
search: the letters `A` to `Z`, the Kelvin sign (which lowers to `k`) and the dotted capital `İ`
(which lowers to `i` and a combining dot). Every other character lowers to characters outside
ASCII, and so is kept.
-/

namespace BuildJdk.Text

/-- The lower case form of a character, exact as far as ASCII letters go. -/
def lowerChar (c : Char) : List Char :=
  if 'A' ≤ c ∧ c ≤ 'Z' then [Char.ofNat (c.toNat + 32)]
  else if c = '\u212A' then ['k']
  else if c = '\u0130' then ['i', '\u0307']
  else [c]

/-- The lower case form of a list of characters. -/
def lower (s : List Char) : List Char := s.flatMap lowerChar

/-- Whether `needle` stands somewhere in `s`, as a run. -/
def hasRun (needle : List Char) : List Char → Bool
  | [] => needle.isEmpty
  | c :: s => needle.isPrefixOf (c :: s) || hasRun needle s

/-- Whether the text `s` contains `word`. -/
def contains (s word : String) : Bool := hasRun word.toList s.toList

/-- Whether the text `s` contains the lower case ASCII `word` in any letter case. -/
def containsAnyCase (s word : String) : Bool := hasRun word.toList (lower s.toList)

end BuildJdk.Text
