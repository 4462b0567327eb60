import BuildJdk.Text.Printable

/-!
# Quoted texts

A text between double quotes. A quote, a backslash, a tab, a line end and the null character are
written with a backslash and a letter or the character; any other character that would not show is
written by its code point in hexadecimal. A quoted path is one that can also be put between single
quotes, so a single quote in it has a backslash too.
-/

namespace BuildJdk.Text

/-- A character inside a quoted text. -/
def quotedChar (c : Char) : List Char :=
  if c = '\x00' then ['\\', '0']
  else if c = '\t' then ['\\', 't']
  else if c = '\n' then ['\\', 'n']
  else if c = '\r' then ['\\', 'r']
  else if c = '"' then ['\\', '"']
  else if c = '\\' then ['\\', '\\']
  else if isShown c then [c]
  else ['\\', 'u', '\x7b'] ++ Nat.toDigits 16 c.toNat ++ ['\x7d']

/-- The text between quotes. -/
def quoted (s : String) : String :=
  String.ofList ('"' :: s.toList.flatMap quotedChar ++ ['"'])

/-- A character inside a quoted path. -/
def quotedPathChar (c : Char) : List Char := if c = '\'' then ['\\', '\''] else quotedChar c

/-- The path between quotes. -/
def quotedPath (s : String) : String :=
  String.ofList ('"' :: s.toList.flatMap quotedPathChar ++ ['"'])

end BuildJdk.Text
