import BuildJdk.Text.Blank
import BuildJdk.Text.Digit

/-!
# Java versions

A version text such as `1.8.0_292`, `11.0.2+9` or `17-ea` begins with up to three runs of decimal
digits, divided by dots: major, minor and patch. The spelling before Java 9 put `1.` in front, which
does not count as long as a digit follows it.

* Blanks around the text, and then quotes around what is left, are no part of it.
* The major number must be one of ASCII digits, from 1 to 2^32 - 1. Without it there is no version.
* A minor or patch run that is too large, or in digits of another script, counts as absent.
* What follows the runs is kept in the text and has no say in the order of versions.
-/

namespace BuildJdk

open Text

/-- A Java version: its text, and the numbers that the text begins with. -/
structure Version where
  text : String
  major : Nat
  minor : Option Nat
  patch : Option Nat
  deriving DecidableEq, Repr

namespace Version

/-! ## Reading -/

/-- The version text inside the blanks, and then the quotes, around it. -/
def bareText (s : List Char) : List Char := dropEnds (· = '"') (trimBlanks s)

/-- The text without the `1.` in front of it, if a digit follows. -/
def afterLegacyOne : List Char → List Char
  | '1' :: '.' :: d :: rest => if isDigit d then d :: rest else '1' :: '.' :: d :: rest
  | t => t

/-- The digits at the front. -/
def leadingRun (s : List Char) : List Char := s.takeWhile isDigit

/-- What follows the digits at the front. -/
def afterRun (s : List Char) : List Char := s.dropWhile isDigit

/-- What follows a dot, if a digit follows it. -/
def afterDot? : List Char → Option (List Char)
  | '.' :: d :: rest => if isDigit d then some (d :: rest) else none
  | _ => none

/-- The version that a text writes, if it writes one. -/
def parse? (s : String) : Option Version :=
  let t := bareText s.toList
  let atMajor := afterLegacyOne t
  let atMinor := afterDot? (afterRun atMajor)
  let atPatch := (atMinor.map afterRun).bind afterDot?
  match wordValue? (leadingRun atMajor) with
  | none | some 0 => none
  | some major =>
    some {
      text := String.ofList t
      major
      minor := atMinor.bind fun r => wordValue? (leadingRun r)
      patch := atPatch.bind fun r => wordValue? (leadingRun r) }

/-- The version that is a major number and no more. -/
def ofMajor (major : Nat) : Version := { text := major.repr, major, minor := none, patch := none }

/-! ## Order -/

/-- The three numbers of a version, an absent one counting as zero. -/
def numbers (v : Version) : List Nat := [v.major, v.minor.getD 0, v.patch.getD 0]

/-- Versions are ordered by their numbers, the major one first. -/
def compare (a b : Version) : Ordering := Ord.compare a.numbers b.numbers

/-- Versions of the same numbers, whatever their texts. -/
def isSame (a b : Version) : Bool := a.compare b == .eq

/-- Whether the major number is `major` or more. -/
def isAtLeast (v : Version) (major : Nat) : Bool := major ≤ v.major

/-! ## Lists of versions -/

/-- In rising order; versions of the same numbers keep theirs. -/
def sort (vs : List Version) : List Version := vs.mergeSort fun a b => a.compare b != .gt

/-- The list with each run of neighbours of the same numbers cut down to its first member. -/
def dropRepeats : List Version → List Version
  | [] => []
  | v :: vs => v :: (dropRepeats vs).dropWhile v.isSame

/-- The first of the least versions. -/
def least? : List Version → Option Version
  | [] => none
  | v :: vs => some (vs.foldl (fun best w => if w.compare best == .lt then w else best) v)

/-- The last of the greatest versions. -/
def greatest? : List Version → Option Version
  | [] => none
  | v :: vs => some (vs.foldl (fun best w => if w.compare best == .lt then best else w) v)

end Version

end BuildJdk
