import BuildJdk.Json.Printer

/-!
# Formats of reports

A report is a text for people, or an indented JSON document with a line feed at its end.
-/

namespace BuildJdk

/-- How a report is written. -/
inductive Format where
  | text
  | json
  deriving DecidableEq, Repr

/-- JSON if it is asked for. -/
def Format.ofFlag (json : Bool) : Format := if json then .json else .text

/-- A JSON document with its line feed. -/
def Json.document (j : Json) : String := j.indented ++ "\n"

end BuildJdk
