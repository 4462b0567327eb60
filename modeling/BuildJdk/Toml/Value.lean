/-!
# TOML values

A TOML document is a table. Its floating-point numbers are recognised but not kept, as nothing is made
of them; a date or time is kept as its text in the standard form.
-/

namespace BuildJdk.Toml

/-- A value of a document. -/
inductive Value where
  | text (s : String)
  | integer (n : Int)
  | float
  | boolean (b : Bool)
  | dateTime (s : String)
  | array (items : List Value)
  | table (entries : List (String × Value))
  deriving Repr

end BuildJdk.Toml
