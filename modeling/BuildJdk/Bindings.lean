/-!
# Bindings

Keys bound to values, in the order in which they were given. A later binding of a key takes the place
of an earlier one, so putting two lists of bindings together lets the second one override the first.
-/

namespace BuildJdk

/-- Keys and values in the order of their binding. -/
abbrev Bindings := List (String × String)

namespace Bindings

/-- The value of the last binding of a key. -/
def get? (b : Bindings) (key : String) : Option String := (b.reverse).lookup key

/-- The bindings that count: one for each key, in the order of their binding. -/
def effective (b : Bindings) : Bindings :=
  b.foldr (fun entry rest => if rest.any (·.1 = entry.1) then rest else entry :: rest) []

end Bindings

end BuildJdk
