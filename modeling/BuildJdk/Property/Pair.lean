import BuildJdk.Text.Blank
import BuildJdk.Text.Alphanumeric

/-!
# Properties on the command line

A property is given as `KEY=VALUE`. The key ends at the first equals sign, and blanks around the key
and around the value do not count.
-/

namespace BuildJdk.Property

open Text

/-- Why a text is no property. -/
inductive PairError where
  /-- The text has no equals sign. -/
  | noEquals (pair : String)
  | emptyName
  | badName (name : String)
  deriving DecidableEq, Repr

/-- The error in words. -/
def PairError.message : PairError → String
  | noEquals pair => "expected key=value, got '" ++ pair ++ "'"
  | emptyName => "Property name cannot be empty"
  | badName name =>
    "Property name '" ++ name ++ "' can only contain letters, numbers, '.', '-' and '_'"

/-- A character that the name of a property may have. -/
def isNameChar (c : Char) : Bool := isAlphanumeric c || c = '_' || c = '.' || c = '-'

/-- Accepts the names of properties: some characters, all of them name characters. -/
def checkName (name : String) : Except PairError Unit :=
  if name = "" then .error .emptyName
  else if name.toList.all isNameChar then .ok ()
  else .error (.badName name)

/-- The key and the value that a text gives. -/
def parsePair (pair : String) : Except PairError (String × String) :=
  match pair.toList.dropWhile (· ≠ '=') with
  | [] => .error (.noEquals pair)
  | _ :: value =>
    let key := trim (String.ofList (pair.toList.takeWhile (· ≠ '=')))
    match checkName key with
    | .error e => .error e
    | .ok () => .ok (key, trim (String.ofList value))

end BuildJdk.Property
