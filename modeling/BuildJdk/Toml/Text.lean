import BuildJdk.Text.Reader
import BuildJdk.Toml.Number

/-!
# TOML texts and keys

A text stands between quotes: double ones with escapes, or single ones without. With three quotes at
either end it may go over several lines. A key is a text on one line, or a bare word; keys are joined
by dots.

No text holds a control character other than a tab, or a line end where lines are allowed; a line end
is read as a line feed however it is written.
-/

namespace BuildJdk.Toml

open Text Reader

/-! ## Characters -/

/-- A blank inside a line. -/
def isGap (c : Char) : Bool := c = ' ' || c = '\t'

/-- The blanks at the front. -/
def gap : Reader Unit := do let _ ← span isGap

/-- A line end. -/
def newline : Reader Unit := literal "\n" <|> literal "\r\n"

/-- A character that may stand in a line. -/
def isPlain (c : Char) : Bool := c = '\t' || (' ' ≤ c && c ≤ '~') || '\x80' ≤ c

/-- A character that stands for itself between double quotes. -/
def isBasic (c : Char) : Bool := isPlain c && c ≠ '"' && c ≠ '\\'

/-- A character that stands for itself between single quotes. -/
def isLiteral (c : Char) : Bool := isPlain c && c ≠ '\''

/-! ## Escapes -/

/-- The character with a code point in hexadecimal digits. -/
def codePoint (count : Nat) : Reader Char := do
  let n := valueIn 16 (← exactly count isHexDigit)
  if n < 0xD800 ∨ (0xE000 ≤ n ∧ n < 0x110000) then return Char.ofNat n else failure

/-- A character that is written with a backslash. -/
def escape : Reader Char := do
  char '\\'
  match ← oneOf fun _ => true with
  | 'b' => return '\x08'
  | 't' => return '\t'
  | 'n' => return '\n'
  | 'f' => return '\x0c'
  | 'r' => return '\r'
  | '"' => return '"'
  | '\\' => return '\\'
  | 'u' => codePoint 4
  | 'U' => codePoint 8
  | _ => failure

/-- A backslash at the end of a line, with all the blanks and line ends after it. -/
def lineJoin : Reader Unit := do
  char '\\'
  gap
  newline
  let _ ← many (newline <|> (do let _ ← oneOf isGap))

/-! ## Texts on one line -/

/-- A text in double quotes. -/
def basicText : Reader String := do
  char '"'
  let parts ← many (span1 isBasic <|> (do return [← escape]))
  char '"'
  return String.ofList parts.flatten

/-- A text in single quotes. -/
def literalText : Reader String := do
  char '\''
  let s ← span isLiteral
  char '\''
  return String.ofList s

/-! ## Texts on several lines -/

/-- Quotes that end a text or stand in it. Three or more end it, and all but the last three of up to
five belong to it; fewer stand in it. Gives the quotes that belong to the text, and whether it ends. -/
def quotes (q : Char) : Reader (List Char × Bool) := do
  let found ← span1 (· = q)
  match found with
  | [_] | [_, _] => return (found, false)
  | [_, _, _] => return ([], true)
  | [_, _, _, _] => return ([q], true)
  | [_, _, _, _, _] => return ([q, q], true)
  | _ => failure

/-- The rest of a text on several lines, up to the quotes that end it. -/
def untilQuotes (q : Char) (part : Reader (List Char)) : Reader String := do
  let _ ← optional newline
  let before ← many (part <|> do
    let (s, ends) ← quotes q
    if ends then failure else return s)
  let (last, ends) ← quotes q
  if ends then return String.ofList (before.flatten ++ last) else failure

/-- A text between three double quotes. -/
def basicLines : Reader String := do
  literal "\"\"\""
  untilQuotes '"' <|
    span1 isBasic
      <|> (do lineJoin; return [])
      <|> (do return [← escape])
      <|> (do newline; return ['\n'])

/-- A text between three single quotes. -/
def literalLines : Reader String := do
  literal "'''"
  untilQuotes '\'' (span1 isLiteral <|> do newline; return ['\n'])

/-- A text. -/
def text : Reader String := basicLines <|> basicText <|> literalLines <|> literalText

/-! ## Keys -/

/-- A character of a bare key. -/
def isBareKey (c : Char) : Bool := c.isAlphanum || c = '_' || c = '-'

/-- One key. -/
def simpleKey : Reader String :=
  basicText <|> literalText <|> String.ofList <$> span1 isBareKey

/-- The number of keys that may not be joined: one more than the longest path has. -/
def pathLimit : Nat := 128

/-- Keys joined by dots. -/
def keyPath : Reader (List String) := do
  let path ← sepBy1 (do gap; let k ← simpleKey; gap; return k) (char '.')
  if path.length < pathLimit then return path else failure

end BuildJdk.Toml
