/-!
# Columns

A column is a text filled up with spaces on the right. Widths count characters. A text that is
wider than its column is not cut.
-/

namespace BuildJdk.Text

/-- The text in a column of the given width. -/
def column (width : Nat) (s : String) : String :=
  s ++ String.ofList (List.replicate (width - s.length) ' ')

end BuildJdk.Text
