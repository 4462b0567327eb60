import BuildJdk.Json.Value
import BuildJdk.Text.Reader

/-!
# Reading JSON

Standard JSON. A value can also be skipped; then only its shape counts, and an escape in a string may
be half of a surrogate pair.
-/

namespace BuildJdk.Json

open Text Reader

/-- The blanks that may stand between the parts of a value. -/
def space : Reader Unit := do
  let _ ← span fun c => c = ' ' || c = '\n' || c = '\t' || c = '\r'

/-! ## Strings -/

/-- A character that stands for itself in a string. -/
def isPlain (c : Char) : Bool := ' ' ≤ c && c ≠ '"' && c ≠ '\\'

/-- The value of a hexadecimal digit. -/
def hexValue? (c : Char) : Option Nat :=
  if '0' ≤ c ∧ c ≤ '9' then some (c.toNat - '0'.toNat)
  else if 'a' ≤ c ∧ c ≤ 'f' then some (c.toNat - 'a'.toNat + 10)
  else if 'A' ≤ c ∧ c ≤ 'F' then some (c.toNat - 'A'.toNat + 10)
  else none

/-- Four hexadecimal digits. -/
def fourDigits : Reader Nat := do
  let ds ← exactly 4 fun c => (hexValue? c).isSome
  return ds.foldl (fun n c => 16 * n + (hexValue? c).getD 0) 0

/-- The character of a one-letter escape. -/
def letterEscape? (c : Char) : Option Char :=
  if c = '"' ∨ c = '\\' ∨ c = '/' then some c
  else if c = 'b' then some '\x08'
  else if c = 'f' then some '\x0c'
  else if c = 'n' then some '\n'
  else if c = 'r' then some '\r'
  else if c = 't' then some '\t'
  else none

/-- The code point of an escape by number, which may take a second escape for the other half of a
surrogate pair. -/
def codePoint : Reader Char := do
  let first ← fourDigits
  if 0xD800 ≤ first ∧ first < 0xDC00 then
    literal "\\u"
    let second ← fourDigits
    if 0xDC00 ≤ second ∧ second < 0xE000 then
      return Char.ofNat (0x10000 + (first - 0xD800) * 0x400 + (second - 0xDC00))
    else failure
  else if 0xDC00 ≤ first ∧ first < 0xE000 then failure
  else return Char.ofNat first

/-- An escape. -/
def escape : Reader Char := do
  char '\\'
  let c ← oneOf fun _ => true
  if c = 'u' then codePoint
  else
    match letterEscape? c with
    | some d => return d
    | none => failure

/-- A string. -/
def text : Reader String := do
  char '"'
  let s ← many (oneOf isPlain <|> escape)
  char '"'
  return String.ofList s

/-! ## Numbers -/

/-- The digits of a number before its point. -/
def whole : Reader (List Char) := do
  match ← peek? with
  | some '0' => char '0'; return ['0']
  | _ => span1 Char.isDigit

/-- A sign of one of some kinds, or none. -/
def sign (signs : List Char) : Reader (List Char) :=
  (do return [← oneOf signs.contains]) <|> pure []

/-- A fraction, or none. -/
def fraction : Reader (List Char) :=
  (do char '.'; return '.' :: (← span1 Char.isDigit)) <|> pure []

/-- An exponent, or none. -/
def exponent : Reader (List Char) :=
  (do
    let e ← oneOf fun c => c = 'e' || c = 'E'
    let s ← sign ['+', '-']
    return e :: s ++ (← span1 Char.isDigit)) <|> pure []

/-- A number, as it is written. -/
def numeral : Reader String := do
  let s ← sign ['-']
  let w ← whole
  let f ← fraction
  let e ← exponent
  return String.ofList (s ++ w ++ f ++ e)

/-! ## Values -/

/-- Items between brackets, divided by commas. -/
def bracketed {α : Type} (left right : Char) (item : Reader α) : Reader (List α) := do
  char left
  space
  let items ← sepBy (do let a ← item; space; return a) (do char ','; space)
  char right
  return items

/-- A member of an object: a key, a colon and a value. -/
def member {α β : Type} (key : Reader α) (value : Reader β) : Reader (α × β) := do
  let k ← key
  space
  char ':'
  space
  return (k, ← value)

/-- A value that holds no other one. -/
def scalar : Reader Json :=
  (do literal "null"; return null)
    <|> (do literal "true"; return boolean true)
    <|> (do literal "false"; return boolean false)
    <|> string <$> text
    <|> number <$> numeral

/-- A value that is nested no deeper than `depth` levels. -/
def valueWithin : Nat → Reader Json
  | 0 => scalar
  | depth + 1 =>
    array <$> bracketed '[' ']' (valueWithin depth)
      <|> object <$> bracketed '\x7b' '\x7d' (member text (valueWithin depth))
      <|> scalar

/-- A value; it cannot be nested deeper than its text is long. -/
def value : Reader Json := fun s => valueWithin s.length s

/-- The value that a text writes. -/
def parse? (s : String) : Option Json :=
  all? (do space; let j ← value; space; return j) s.toList

/-! ## Skipping -/

/-- Skips an escape. -/
def skipEscape : Reader Unit := do
  char '\\'
  let c ← oneOf fun _ => true
  if c = 'u' then
    let _ ← fourDigits
  else if (letterEscape? c).isNone then failure

/-- Skips a string. -/
def skipText : Reader Unit := do
  char '"'
  let _ ← many ((do let _ ← oneOf isPlain) <|> skipEscape)
  char '"'

/-- Skips a value that is nested no deeper than `depth` levels. -/
def skipWithin (depth : Nat) : Reader Unit :=
  let skipScalar : Reader Unit :=
    literal "null" <|> literal "true" <|> literal "false" <|> skipText <|> do let _ ← numeral
  match depth with
  | 0 => skipScalar
  | depth + 1 =>
    (do let _ ← bracketed '[' ']' (skipWithin depth))
      <|> (do let _ ← bracketed '\x7b' '\x7d' (member skipText (skipWithin depth)))
      <|> skipScalar

/-- Skips a value. -/
def skip : Reader Unit := fun s => skipWithin s.length s

end BuildJdk.Json
