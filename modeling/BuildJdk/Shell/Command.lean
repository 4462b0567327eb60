import BuildJdk.Shell.Token

/-!
# Commands of a launcher script

The commands are simple commands with redirections, put together with `;` or a line end, `&&`, `||`
and `if`. There are no loops, so running a command is recursion on it.

The reader is recursive descent on the tokens. Its first argument bounds the depth of the descent;
a list of tokens is never descended into deeper than `depthOf` it.
-/

namespace BuildJdk.Shell

/-- A redirection of an output to a file, or to another output. -/
structure Redirect where
  output : Nat
  direction : Direction
  target : Word
  deriving DecidableEq, Repr

/-- A command. -/
inductive Command where
  | nothing
  | simple (words : List Word) (redirects : List Redirect)
  /-- One after the other. -/
  | both (first second : Command)
  /-- The second one if the first one succeeds. -/
  | andThen (first second : Command)
  /-- The second one if the first one fails. -/
  | orElse (first second : Command)
  | ifThen (condition body otherwise : Command)
  deriving DecidableEq, Repr

namespace Command

/-- The word that is just these characters, unquoted. -/
def reserved (s : String) : Token := .word [.text s.toList false]

/-- The words that end a list of commands. -/
def closers : List Token := ["then", "elif", "else", "fi"].map reserved

/-- How deep the reader can go for these tokens. -/
def depthOf (ts : List Token) : Nat := 3 * ts.length + 3

/-- The words and redirections of a simple command. -/
def simpleParts (words : List Word) (redirects : List Redirect) :
    List Token → Option (Command × List Token)
  | .word w :: rest => simpleParts (words ++ [w]) redirects rest
  | .redirect output direction :: .word target :: rest =>
    simpleParts words (redirects ++ [{ output, direction, target }]) rest
  | .redirect _ _ :: _ => none
  | rest => some (.simple words redirects, rest)

/-- The tokens without the separators in front. -/
def skipSeparators : List Token → List Token
  | .separator :: rest => skipSeparators rest
  | rest => rest

/-- The tokens after a given one, which must come first. -/
def expect (t : Token) : List Token → Option (List Token)
  | t' :: rest => if t' = t then some rest else none
  | [] => none

mutual

/-- A list of commands, up to the end or a closing word. -/
def readList : Nat → List Token → Option (Command × List Token)
  | 0, _ => none
  | depth + 1, ts =>
    match skipSeparators ts with
    | [] => some (.nothing, [])
    | t :: rest =>
      if closers.contains t then some (.nothing, t :: rest)
      else do
        let (first, rest) ← readChain depth (t :: rest)
        let (second, rest) ← readList depth rest
        return (.both first second, rest)

/-- Commands joined by `&&` and `||`. -/
def readChain : Nat → List Token → Option (Command × List Token)
  | 0, _ => none
  | depth + 1, ts => do
    let (first, rest) ← readCommand depth ts
    readChainFrom depth first rest

/-- The rest of such a chain, after its first command. -/
def readChainFrom : Nat → Command → List Token → Option (Command × List Token)
  | 0, _, _ => none
  | depth + 1, first, .andThen :: ts => do
    let (second, rest) ← readCommand depth (skipSeparators ts)
    readChainFrom depth (.andThen first second) rest
  | depth + 1, first, .orElse :: ts => do
    let (second, rest) ← readCommand depth (skipSeparators ts)
    readChainFrom depth (.orElse first second) rest
  | _ + 1, first, ts => some (first, ts)

/-- A simple command or an `if`. -/
def readCommand : Nat → List Token → Option (Command × List Token)
  | 0, _ => none
  | depth + 1, ts =>
    match ts with
    | .word w :: rest =>
      if .word w = reserved "if" then readIf depth rest
      else if closers.contains (.word w) then none
      else simpleParts [] [] ts
    | .redirect _ _ :: _ => simpleParts [] [] ts
    | _ => none

/-- What follows `if` or `elif`. -/
def readIf : Nat → List Token → Option (Command × List Token)
  | 0, _ => none
  | depth + 1, ts => do
    let (condition, rest) ← readList depth ts
    let rest ← expect (reserved "then") rest
    let (body, rest) ← readList depth rest
    match rest with
    | t :: rest =>
      if t = reserved "elif" then do
        let (otherwise, rest) ← readIf depth rest
        return (.ifThen condition body otherwise, rest)
      else if t = reserved "else" then do
        let (otherwise, rest) ← readList depth rest
        let rest ← expect (reserved "fi") rest
        return (.ifThen condition body otherwise, rest)
      else if t = reserved "fi" then return (.ifThen condition body .nothing, rest)
      else none
    | [] => none

end

/-- The command that a script is. -/
def ofScript? (script : List Char) : Option Command := do
  let ts ← tokens? script
  match ← readList (depthOf ts) ts with
  | (command, []) => some command
  | _ => none

end Command

end BuildJdk.Shell
