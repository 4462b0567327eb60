/-!
# Lines

A text is a sequence of lines, each ended by a line feed; the last one may lack it. A carriage
return just before the line feed belongs to the end of the line, but one at the end of a last line
without line feed is part of that line.
-/

namespace BuildJdk.Text

/-- The line without one carriage return at its end. -/
def dropReturn (line : List Char) : List Char :=
  if line.getLast? = some '\r' then line.dropLast else line

/-- The lines, given the pieces between line feeds. An empty last piece is no line. -/
def linesOfPieces : List (List Char) → List (List Char)
  | [] => []
  | [last] => if last = [] then [] else [last]
  | line :: rest => dropReturn line :: linesOfPieces rest

/-- The lines of a text. -/
def lines (s : List Char) : List (List Char) := linesOfPieces (s.splitOn '\n')

end BuildJdk.Text
