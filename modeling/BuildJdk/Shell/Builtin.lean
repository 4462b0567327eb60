import BuildJdk.Machine
import BuildJdk.Text.Digit

/-!
# Built-in commands of launcher scripts

The commands that a script can use without running another program: `printf`, `echo`, and the tests
on files, texts and numbers. Texts are lists of bytes, each held as a character.
-/

namespace BuildJdk.Shell

open Text

/-- The bytes of a text, each as a character. -/
def bytesAsChars (bytes : List UInt8) : List Char := bytes.map fun b => Char.ofNat b.toNat

/-- The bytes that such characters stand for. -/
def charsAsBytes (cs : List Char) : List UInt8 := cs.map fun c => c.toNat.toUInt8

/-- The text that such characters spell. -/
def textOfChars (cs : List Char) : String := Utf8.decodeLenient (charsAsBytes cs)

/-! ## `printf` and `echo` -/

/-- The character of a one-letter escape. -/
def letterEscape? : Char → Option Char
  | 'a' => some '\x07'
  | 'b' => some '\x08'
  | 'e' => some '\x1b'
  | 'f' => some '\x0c'
  | 'n' => some '\n'
  | 'r' => some '\r'
  | 't' => some '\t'
  | 'v' => some '\x0b'
  | '\\' => some '\\'
  | _ => none

/-- An octal digit. -/
def isOctal (c : Char) : Bool := '0' ≤ c ∧ c ≤ '7'

/-- The byte that octal digits write. -/
def octalByte (ds : List Char) : Char := Char.ofNat (Nat.ofDigitChars 8 ds 0 % 256)

/-- Replaces the escapes in a text: a letter, or octal digits, after a backslash. Up to three digits
count, or up to four where the first one must be a zero. -/
def unescape (zeroFirst : Bool) (s : List Char) : List Char :=
  match s with
  | [] => []
  | '\\' :: c :: rest =>
    match letterEscape? c with
    | some d => d :: unescape zeroFirst rest
    | none =>
      if (if zeroFirst then c = '0' else isOctal c) then
        let more := (rest.take (if zeroFirst then 3 else 2)).takeWhile isOctal
        octalByte (c :: more) :: unescape zeroFirst (rest.drop more.length)
      else '\\' :: c :: unescape zeroFirst rest
  | c :: rest => c :: unescape zeroFirst rest
termination_by s.length
decreasing_by all_goals simp +arith

/-- A part of the format of `printf`. -/
inductive FormatPart where
  | text (characters : List Char)
  /-- `%` and the letter of a conversion. -/
  | conversion (letter : Char)

/-- The parts of a format, whose escapes are replaced already. -/
def formatParts : List Char → List FormatPart
  | '%' :: '%' :: rest => .text ['%'] :: formatParts rest
  | '%' :: c :: rest => .conversion c :: formatParts rest
  | c :: rest => .text [c] :: formatParts rest
  | [] => []

/-- What a conversion makes of an argument, if there is such a conversion. -/
def convert? (letter : Char) (argument : List Char) : Option (List Char) :=
  if letter = 's' then some argument
  else if letter = 'b' then some (unescape true argument)
  else if letter = 'c' then some [argument.headD '\x00']
  else if letter = 'd' ∨ letter = 'i' ∨ letter = 'u' then
    if argument = [] then some ['0']
    else (digitsValue? argument).map fun n => n.repr.toList
  else none

/-- One pass through a format: the output, and the arguments that are left. -/
def formatOnce? : List FormatPart → List (List Char) → Option (List Char × List (List Char))
  | [], arguments => some ([], arguments)
  | .text cs :: parts, arguments => do
    let (out, left) ← formatOnce? parts arguments
    return (cs ++ out, left)
  | .conversion letter :: parts, arguments => do
    let shown ← convert? letter (arguments.headD [])
    let (out, left) ← formatOnce? parts arguments.tail
    return (shown ++ out, left)

/-- The output of `printf`. The format is used again as long as it takes arguments and some are left;
`passes` bounds how often. -/
def formatAll? (parts : List FormatPart) : Nat → List (List Char) → Option (List Char)
  | 0, _ => some []
  | passes + 1, arguments => do
    let (out, left) ← formatOnce? parts arguments
    if left = [] ∨ left.length = arguments.length then return out
    return out ++ (← formatAll? parts passes left)

/-- The output of `printf` with a format and arguments. -/
def printf? (format : List Char) (arguments : List (List Char)) : Option (List Char) :=
  formatAll? (formatParts (unescape false format)) (arguments.length + 1) arguments

/-- Arguments with spaces between them, their escapes replaced. -/
def echoed (arguments : List (List Char)) : List Char :=
  unescape true ([' '].intercalate arguments)

/-- The output of `echo`. -/
def echo : List (List Char) → List Char
  | ['-', 'n'] :: rest => echoed rest
  | arguments => echoed arguments ++ ['\n']

/-! ## Tests -/

/-- The whole number that an argument writes. -/
def number? : List Char → Option Int
  | '-' :: ds => (digitsValue? ds).map fun n => -(n : Int)
  | ds => (digitsValue? ds).map fun n => (n : Int)

/-- A test of one argument. -/
def testOne (m : Machine) (operator : String) (argument : List Char) : Option Bool :=
  let path : Path := ⟨textOfChars argument⟩
  match operator with
  | "-n" => some (argument ≠ [])
  | "-z" => some (argument = [])
  | "-e" | "-r" | "-w" => some (m.pathExists path)
  | "-f" => some (m.isFile path)
  | "-d" => some (m.isDirectory path)
  | "-x" => some (m.isDirectory path || m.isProgram path)
  | "-s" =>
    match m.find path with
    | .ok (_, .file bytes _) => some (bytes ≠ [])
    | .ok _ => some true
    | .error _ => some false
  | _ => none

/-- A test of two arguments. -/
def testTwo (operator : String) (a b : List Char) : Option Bool :=
  let numbers (p : Int → Int → Bool) : Option Bool := do return p (← number? a) (← number? b)
  match operator with
  | "=" => some (a = b)
  | "!=" => some (a ≠ b)
  | "-eq" => numbers (· == ·)
  | "-ne" => numbers (· != ·)
  | "-lt" => numbers (· < ·)
  | "-le" => numbers (· ≤ ·)
  | "-gt" => numbers (· > ·)
  | "-ge" => numbers (· ≥ ·)
  | _ => none

/-- The answer of a test, or `none` for arguments that make no test. -/
def test? (m : Machine) : List (List Char) → Option Bool
  | [] => some false
  | [a] => some (a ≠ [])
  | ['!'] :: rest => (test? m rest).map (!·)
  | [operator, a] => testOne m (String.ofList operator) a
  | [a, operator, b] => testTwo (String.ofList operator) a b
  | _ => none

end BuildJdk.Shell
