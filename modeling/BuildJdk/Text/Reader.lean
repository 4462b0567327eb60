/-!
# Readers

A reader takes a value off the front of a list of characters, or fails. Readers are put together as
computations whose state is the characters that are left; where one fails, an alternative starts again
from the same place.

Repetition ends because every round has to take a character: a round that takes none ends it.
-/

namespace BuildJdk.Text

/-- A reader of values of type `α`. -/
abbrev Reader (α : Type) := StateT (List Char) Option α

namespace Reader

variable {α β : Type}

/-- Whether the reader is at the end, and the next character if not. Takes nothing. -/
def peek? : Reader (Option Char) := fun s => some (s.head?, s)

/-- Takes a character of a class. -/
def oneOf (p : Char → Bool) : Reader Char
  | c :: s => if p c then some (c, s) else none
  | [] => none

/-- Takes the character `c`. -/
def char (c : Char) : Reader Unit
  | d :: s => if c = d then some ((), s) else none
  | [] => none

/-- Takes the characters of a text. -/
def literal (text : String) : Reader Unit := fun s =>
  if text.toList.isPrefixOf s then some ((), s.drop text.toList.length) else none

/-- Takes all the characters of a class that stand at the front. -/
def span (p : Char → Bool) : Reader (List Char) := fun s => some (s.takeWhile p, s.dropWhile p)

/-- The same, of which there must be at least one. -/
def span1 (p : Char → Bool) : Reader (List Char) := fun s =>
  if s.head?.any p then span p s else none

/-- Takes `n` characters of a class. -/
def exactly (n : Nat) (p : Char → Bool) : Reader (List Char) := fun s =>
  if (s.take n).length = n ∧ (s.take n).all p then some (s.take n, s.drop n) else none

/-- Succeeds at the end only. -/
def atEnd : Reader Unit
  | [] => some ((), [])
  | _ :: _ => none

/-- The values of a reader that is used as long as it succeeds, and what is left then. -/
def repeated (p : Reader α) (s : List Char) : List α × List Char :=
  match p s with
  | none => ([], s)
  | some (a, rest) =>
    if rest.length < s.length then
      let (as, left) := repeated p rest
      (a :: as, left)
    else ([], s)
termination_by s.length

/-- Uses a reader as long as it succeeds. -/
def many (p : Reader α) : Reader (List α) := fun s => some (repeated p s)

/-- Values with separators between them, and at least one value. A separator that no value follows is
left. -/
def sepBy1 (p : Reader α) (separator : Reader β) : Reader (List α) := do
  let first ← p
  let rest ← many (do let _ ← separator; p)
  return first :: rest

/-- The same, where there may be no value at all. -/
def sepBy (p : Reader α) (separator : Reader β) : Reader (List α) :=
  sepBy1 p separator <|> pure []

/-- What a reader makes of a whole text. -/
def all? (p : Reader α) (s : List Char) : Option α :=
  match p s with
  | some (a, []) => some a
  | _ => none

end Reader

end BuildJdk.Text
