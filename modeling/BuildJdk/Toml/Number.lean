import BuildJdk.Text.Reader

/-!
# TOML numbers

Integers are decimal with an optional sign, or hexadecimal, octal or binary with a prefix and no sign.
They have to fit in 64 bits. Underscores may stand between digits.

A float has a fraction, an exponent or both, or is one of the special values. A float so large that the
nearest representable number is infinity is refused, unless it is negative.
-/

namespace BuildJdk.Toml

open Text Reader

/-- The digits of a class at the front, where an underscore may stand between two of them; and what is
left. -/
def underscored (p : Char → Bool) : List Char → List Char × List Char
  | [] => ([], [])
  | c :: s =>
    if p c then
      match s with
      | '_' :: d :: rest =>
        if p d then
          let (ds, left) := underscored p (d :: rest)
          (c :: ds, left)
        else ([c], '_' :: d :: rest)
      | s =>
        let (ds, left) := underscored p s
        (c :: ds, left)
    else ([], c :: s)

/-- Digits of a class, at least one. -/
def digits (p : Char → Bool) : Reader (List Char) := fun s =>
  match underscored p s with
  | ([], _) => none
  | found => some found

/-- A sign, or none. -/
def sign : Reader (Option Char) := optional (oneOf fun c => c = '+' || c = '-')

/-- The digits of a decimal number before its point: no zero stands in front of another digit. -/
def wholeDigits : Reader (List Char) := do
  match ← peek? with
  | some '0' => char '0'; return ['0']
  | _ => digits Char.isDigit

/-! ## Integers -/

/-- The value of a digit in bases up to 16. -/
def digitValue (c : Char) : Nat :=
  if c.isDigit then c.toNat - '0'.toNat
  else if 'a' ≤ c ∧ c ≤ 'f' then c.toNat - 'a'.toNat + 10
  else c.toNat - 'A'.toNat + 10

/-- The number that digits write in a base. -/
def valueIn (base : Nat) (ds : List Char) : Nat :=
  ds.foldl (fun n d => base * n + digitValue d) 0

/-- A hexadecimal digit. -/
def isHexDigit (c : Char) : Bool := c.isDigit || ('a' ≤ c && c ≤ 'f') || ('A' ≤ c && c ≤ 'F')

/-- The least number that does not fit in 63 bits. -/
def integerLimit : Nat := 1 <<< 63

/-- A number without a sign, after the prefix of its base. -/
def prefixed (mark : String) (base : Nat) (p : Char → Bool) : Reader Int := do
  literal mark
  let n := valueIn base (← digits p)
  if n < integerLimit then return n else failure

/-- A decimal integer. -/
def decimal : Reader Int := do
  let s ← sign
  let n := valueIn 10 (← wholeDigits)
  if s = some '-' then
    if n ≤ integerLimit then return -n else failure
  else
    if n < integerLimit then return n else failure

/-- An integer. -/
def integer : Reader Int :=
  prefixed "0x" 16 isHexDigit
    <|> prefixed "0o" 8 (fun c => '0' ≤ c && c ≤ '7')
    <|> prefixed "0b" 2 (fun c => c = '0' || c = '1')
    <|> decimal

/-! ## Floats -/

/-- The least number that is nearer to infinity than to any finite double, which is half a unit in the
last place above the greatest one. -/
def overflowLimit : Nat := ((1 <<< 54) - 1) <<< 970

/-- Whether digits times a power of ten overflow. Sizes are compared first, so that no huge power is
computed. -/
def overflows (ds : List Char) (exponent : Int) : Bool :=
  let n := valueIn 10 ds
  let size : Int := (Nat.toDigits 10 n).length + exponent
  if n = 0 ∨ size < 300 then false
  else if 320 < size then true
  else if exponent < 0 then overflowLimit * Nat.pow 10 exponent.natAbs ≤ n
  else overflowLimit ≤ n * Nat.pow 10 exponent.natAbs

/-- The exponent of a float. -/
def exponent : Reader Int := do
  let _ ← oneOf fun c => c = 'e' || c = 'E'
  let s ← sign
  let n := valueIn 10 (← digits Char.isDigit)
  return if s = some '-' then -n else n

/-- The digits after the point of a float. -/
def fraction : Reader (List Char) := do
  char '.'
  digits Char.isDigit

/-- A float with digits. -/
def finiteFloat : Reader Unit := do
  let s ← sign
  let whole ← wholeDigits
  let part ← optional fraction
  let power ← if part.isSome then optional exponent else some <$> exponent
  let part := part.getD []
  if s ≠ some '-' ∧ overflows (whole ++ part) (power.getD 0 - part.length) then failure

/-- A float. -/
def float : Reader Unit :=
  finiteFloat <|> do
    let _ ← sign
    literal "inf" <|> literal "nan"

end BuildJdk.Toml
