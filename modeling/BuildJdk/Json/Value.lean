/-!
# JSON values

A number is kept as it is written. An object is a list of members in the order in which they are
written; the program writes no key twice.
-/

namespace BuildJdk

/-- A JSON value. -/
inductive Json where
  | null
  | boolean (b : Bool)
  | number (digits : String)
  | string (s : String)
  | array (items : List Json)
  | object (members : List (String × Json))
  deriving Repr

namespace Json

/-- A natural number. -/
def nat (n : Nat) : Json := number n.repr

/-- A value that may be absent, which `null` stands for. -/
def ofOption {α : Type} (f : α → Json) : Option α → Json
  | some a => f a
  | none => null

/-- The members of an object; other values have none. -/
def members : Json → List (String × Json)
  | object ms => ms
  | _ => []

/-- What an object has under a key. -/
def get? (j : Json) (key : String) : Option Json := j.members.lookup key

end Json

end BuildJdk
