/-!
# Tokens of a launcher script

A launcher script is a sequence of bytes. Each byte is held as the character of its value, so a
script can name bytes that spell no text. The script is cut into words and operators.

A word is a list of pieces: characters that stand for themselves, and parameters, whose values are
put in when the command runs. The quotes themselves are gone, but a piece tells whether it stood
between quotes, since an unquoted parameter is cut at blanks and a quoted one is not.

The cutting is one pass over the characters. `Cutter.step` takes one character, and sees the one
after it; a character that was taken together with the one before it is passed over in the mode
`taken`.
-/

namespace BuildJdk.Shell

/-- A part of a word. -/
inductive Piece where
  | text (characters : List Char) (quoted : Bool)
  | parameter (name : String) (quoted : Bool)
  deriving DecidableEq, Repr

/-- A word of a command, before its parameters are replaced. -/
abbrev Word := List Piece

/-- What a redirection does with an output. -/
inductive Direction where
  /-- `>`: a file, emptied first. -/
  | toFile
  /-- `>>`: a file, written at its end. -/
  | append
  /-- `>&`: where another output goes. -/
  | sameAs
  deriving DecidableEq, Repr

/-- A word or an operator. -/
inductive Token where
  | word (w : Word)
  /-- A line end or a semicolon. -/
  | separator
  | andThen
  | orElse
  | redirect (output : Nat) (direction : Direction)
  deriving DecidableEq, Repr

/-- Where in the script the next character stands. -/
inductive Mode where
  | bare
  | comment
  | single
  | double
  /-- After a backslash. -/
  | escape (quoted : Bool)
  /-- In the name of a parameter, with the characters of it so far. -/
  | parameter (name : List Char) (quoted : Bool)
  /-- The same, between braces. -/
  | braced (name : List Char) (quoted : Bool)
  /-- On a character that was taken already, outside quotes or between double ones. -/
  | taken (quoted : Bool)
  | takenBrace (quoted : Bool)
  deriving DecidableEq, Repr

/-- The state of the cutting: the tokens so far, the last one first, and the word being read. -/
structure Cutter where
  mode : Mode
  word : Option Word
  tokens : List Token

/-- A character of a parameter's name. -/
def isNameChar (c : Char) : Bool := c.isAlphanum || c = '_'

/-- A character that is a whole parameter name. -/
def isSpecialName (c : Char) : Bool := c.isDigit || "$#?@*!".toList.contains c

/-- The word with one more piece; neighbouring characters of one kind make one piece. -/
def addPiece (word : Word) : Piece → Word
  | .text more quoted =>
    match word.getLast? with
    | some (.text characters q) =>
      if q = quoted then word.dropLast ++ [.text (characters ++ more) quoted]
      else word ++ [.text more quoted]
    | _ => word ++ [.text more quoted]
  | piece => word ++ [piece]

namespace Cutter

/-- The mode outside quotes or between double quotes. -/
def level (quoted : Bool) : Mode := if quoted then .double else .bare

/-- One more piece of the word. -/
def piece (s : Cutter) (mode : Mode) (p : Piece) : Cutter :=
  { s with mode, word := some (addPiece (s.word.getD []) p) }

/-- One more character of the word. -/
def character (s : Cutter) (mode : Mode) (c : Char) (quoted : Bool) : Cutter :=
  s.piece mode (.text [c] quoted)

/-- The end of the word, if one is being read. -/
def finishWord (s : Cutter) : Cutter :=
  match s.word with
  | some w => { s with word := none, tokens := .word w :: s.tokens }
  | none => s

/-- The end of the word, and an operator. -/
def operator (s : Cutter) (mode : Mode) (t : Token) : Cutter :=
  let s := s.finishWord
  { s with mode, tokens := t :: s.tokens }

/-- A redirection. A word of one digit in front of it names the output. -/
def redirection (s : Cutter) (mode : Mode) (direction : Direction) : Cutter :=
  match s.word with
  | some [.text [d] false] =>
    if d.isDigit then
      operator { s with word := none } mode (.redirect (d.toNat - '0'.toNat) direction)
    else s.operator mode (.redirect 1 direction)
  | _ => s.operator mode (.redirect 1 direction)

/-- A dollar sign, outside quotes or between double ones. -/
def dollar (s : Cutter) (next : Option Char) (quoted : Bool) : Option Cutter :=
  if next = some '\x7b' then some { s with mode := .takenBrace quoted }
  else if next = some '(' then none
  else if next.any fun d => isNameChar d || isSpecialName d then
    some { s with mode := .parameter [] quoted }
  else some (s.character (level quoted) '$' quoted)

/-- A character outside quotes. -/
def stepBare (s : Cutter) (c : Char) (next : Option Char) : Option Cutter :=
  if c = ' ' ∨ c = '\t' then some s.finishWord
  else if c = '\n' ∨ c = ';' then some (s.operator .bare .separator)
  else if c = '#' ∧ s.word = none then some { s with mode := .comment }
  else if c = '\'' then some (s.piece .single (.text [] true))
  else if c = '"' then some (s.piece .double (.text [] true))
  else if c = '\\' then some { s with mode := .escape false }
  else if c = '$' then s.dollar next false
  else if c = '&' ∧ next = some '&' then some (s.operator (.taken false) .andThen)
  else if c = '|' ∧ next = some '|' then some (s.operator (.taken false) .orElse)
  else if c = '>' then
    if next = some '&' then some (s.redirection (.taken false) .sameAs)
    else if next = some '>' then some (s.redirection (.taken false) .append)
    else some (s.redirection .bare .toFile)
  else if "&|<()`".toList.contains c then none
  else some (s.character .bare c false)

/-- A character between double quotes. -/
def stepDouble (s : Cutter) (c : Char) (next : Option Char) : Option Cutter :=
  if c = '"' then some { s with mode := .bare }
  else if c = '\\' ∧ next.any (fun d => "$`\"\\\n".toList.contains d) then
    some { s with mode := .escape true }
  else if c = '$' then s.dollar next true
  else if c = '`' then none
  else some (s.character .double c true)

/-- Takes one character. Fails where the script is not in the part of the language that launchers
use. -/
def step (s : Cutter) (c : Char) (next : Option Char) : Option Cutter :=
  match s.mode with
  | .bare => s.stepBare c next
  | .double => s.stepDouble c next
  | .comment => some (if c = '\n' then s.operator .bare .separator else s)
  | .single => some (if c = '\'' then { s with mode := .bare } else s.character .single c true)
  | .escape quoted =>
    some (if c = '\n' then { s with mode := level quoted } else s.character (level quoted) c true)
  | .parameter name quoted =>
    let name := name ++ [c]
    if !name.head?.any isSpecialName ∧ next.any isNameChar then
      some { s with mode := .parameter name quoted }
    else some (s.piece (level quoted) (.parameter (String.ofList name) quoted))
  | .braced name quoted =>
    if c = '\x7d' then some (s.piece (level quoted) (.parameter (String.ofList name) quoted))
    else if isNameChar c ∨ isSpecialName c then
      some { s with mode := .braced (name ++ [c]) quoted }
    else none
  | .taken quoted => some { s with mode := level quoted }
  | .takenBrace quoted => some { s with mode := .braced [] quoted }

/-- Takes all the characters. -/
def run (s : Cutter) : List Char → Option Cutter
  | [] => some s
  | c :: rest => (s.step c rest.head?).bind fun s => s.run rest

end Cutter

/-- The tokens of a script, if it ends outside quotes. -/
def tokens? (script : List Char) : Option (List Token) :=
  match Cutter.run { mode := .bare, word := none, tokens := [] } script with
  | some s =>
    if s.mode = .bare ∨ s.mode = .comment ∨ s.mode = .taken false then
      some s.finishWord.tokens.reverse
    else none
  | none => none

end BuildJdk.Shell
