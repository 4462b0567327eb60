import BuildJdk.Bindings
import BuildJdk.Text.Blank
import BuildJdk.Text.Lines

/-!
# Reported settings

Asked for its settings, `java` reports its system properties, one `key = value` a line, indented and
among other lines. The blanks after a value do not count; those at its front do.
-/

namespace BuildJdk.Settings

open Text

/-- A character of the name of a system property. -/
def isKeyChar (c : Char) : Bool := c.isAlphanum || c = '_' || c = '.'

/-- The key and the value that a line reports. -/
def line? (line : List Char) : Option (String × String) :=
  let line := dropStart isBlank line
  let key := line.takeWhile isKeyChar
  match line.dropWhile isKeyChar with
  | ' ' :: '=' :: ' ' :: rest =>
    if key = [] then none
    else some (String.ofList key, String.ofList (dropFinal isBlank rest))
  | _ => none

/-- The bindings of a report. -/
def parse (report : String) : Bindings := (lines report.toList).filterMap line?

end BuildJdk.Settings
