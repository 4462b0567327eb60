import BuildJdk.Json.Value

/-!
# Writing JSON

A value is written on one line without blanks, or indented: then each item and each member has a line
of its own, two blanks further to the right than the bracket, but empty brackets stay together.
-/

namespace BuildJdk.Json

/-- A character inside a string. Quotes, backslashes and control characters are escaped, the latter by
a letter if they have one. -/
def escapeChar (c : Char) : List Char :=
  if c = '"' then ['\\', '"']
  else if c = '\\' then ['\\', '\\']
  else if c = '\x08' then ['\\', 'b']
  else if c = '\x0c' then ['\\', 'f']
  else if c = '\n' then ['\\', 'n']
  else if c = '\r' then ['\\', 'r']
  else if c = '\t' then ['\\', 't']
  else if c.toNat < 0x20 then
    ['\\', 'u', '0', '0', Nat.digitChar (c.toNat / 16), Nat.digitChar (c.toNat % 16)]
  else [c]

/-- A string between quotes. -/
def quote (s : String) : List Char := '"' :: s.toList.flatMap escapeChar ++ ['"']

/-- How the parts of arrays and objects are set: `margin` stands in front of the items at a depth, and
`gap` after the colon of a member. -/
structure Layout where
  margin : Nat → List Char
  gap : List Char

/-- Everything on one line. -/
def Layout.compact : Layout := { margin := fun _ => [], gap := [] }

/-- A line for each item. -/
def Layout.indented : Layout :=
  { margin := fun depth => '\n' :: List.replicate (2 * depth) ' ', gap := [' '] }

mutual

/-- A value whose brackets stand at a depth. -/
def write (l : Layout) (depth : Nat) : Json → List Char
  | null => ['n', 'u', 'l', 'l']
  | boolean true => ['t', 'r', 'u', 'e']
  | boolean false => ['f', 'a', 'l', 's', 'e']
  | number digits => digits.toList
  | string s => quote s
  | array [] => ['[', ']']
  | array (item :: items) =>
    ['['] ++ l.margin (depth + 1) ++ write l (depth + 1) item ++ writeItems l (depth + 1) items
      ++ l.margin depth ++ [']']
  | object [] => ['\x7b', '\x7d']
  | object ((key, value) :: rest) =>
    ['\x7b'] ++ l.margin (depth + 1) ++ quote key ++ [':'] ++ l.gap ++ write l (depth + 1) value
      ++ writeMembers l (depth + 1) rest ++ l.margin depth ++ ['\x7d']

/-- The items of an array after its first one. -/
def writeItems (l : Layout) (depth : Nat) : List Json → List Char
  | [] => []
  | item :: items => [','] ++ l.margin depth ++ write l depth item ++ writeItems l depth items

/-- The members of an object after its first one. -/
def writeMembers (l : Layout) (depth : Nat) : List (String × Json) → List Char
  | [] => []
  | (key, value) :: rest =>
    [','] ++ l.margin depth ++ quote key ++ [':'] ++ l.gap ++ write l depth value
      ++ writeMembers l depth rest

end

/-- The value on one line. -/
def compact (j : Json) : String := String.ofList (write .compact 0 j)

/-- The value with a line for each item. -/
def indented (j : Json) : String := String.ofList (write .indented 0 j)

end BuildJdk.Json
