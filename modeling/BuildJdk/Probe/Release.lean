import BuildJdk.Bindings
import BuildJdk.Text.Blank
import BuildJdk.Text.Lines

/-!
# Release files

The file `release` in a Java home describes the installation, one `KEY="VALUE"` a line. Either quote
may be missing, blanks around the line do not count, and lines of another form are passed over.
-/

namespace BuildJdk.Release

open Text

/-- A character that a key may begin with: an ASCII capital or an underscore. -/
def isKeyStart (c : Char) : Bool := ('A' ≤ c ∧ c ≤ 'Z') ∨ c = '_'

/-- A character of a key. -/
def isKeyChar (c : Char) : Bool := isKeyStart c || c.isDigit

/-- Whether the characters are a key. -/
def isKey : List Char → Bool
  | [] => false
  | c :: rest => isKeyStart c && rest.all isKeyChar

/-- The text without a quote in front. -/
def dropQuote : List Char → List Char
  | '"' :: rest => rest
  | s => s

/-- The value that stands after the equals sign, in one quote at either end or without; a value has no
quote of its own. -/
def value? (s : List Char) : Option (List Char) :=
  let inner := dropQuote s
  let value := if inner.getLast? = some '"' then inner.dropLast else inner
  if value.contains '"' then none else some value

/-- The key and the value that a line gives. -/
def line? (line : List Char) : Option (String × String) :=
  let line := trimBlanks line
  let key := line.takeWhile (· ≠ '=')
  match line.dropWhile (· ≠ '=') with
  | [] => none
  | _ :: rest =>
    if isKey key then
      (value? rest).map fun value => (String.ofList key, String.ofList value)
    else none

/-- The bindings of a release file. -/
def parse (content : String) : Bindings := (lines content.toList).filterMap line?

end BuildJdk.Release
