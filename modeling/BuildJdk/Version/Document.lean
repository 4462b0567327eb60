import BuildJdk.Json.Printer
import BuildJdk.Json.Reader
import BuildJdk.Text.Digit
import BuildJdk.Version

/-!
# Versions in JSON

A version is written as an object of its text and its numbers. It is read from such an object, in any
order of members, or from an array of the four. Absent numbers may be left out of the object. A member
given twice is refused; members of other names are skipped.
-/

namespace BuildJdk.Version

open Text Reader

/-- The version as a JSON object. -/
def toJson (v : Version) : Json :=
  .object [("version", .string v.text), ("major", .nat v.major),
    ("minor", .ofOption .nat v.minor), ("patch", .ofOption .nat v.patch)]

/-- A number of 32 bits. -/
def word : Reader Nat := do
  let ds ← Json.whole
  match wordValue? ds with
  | some n => return n
  | none => failure

/-- A number that may be `null`. -/
def wordOrNull : Reader (Option Nat) := (do literal "null"; return none) <|> some <$> word

/-- A member of the object, with its value. -/
inductive Field where
  | text (s : String)
  | major (n : Nat)
  | minor (n : Option Nat)
  | patch (n : Option Nat)
  | other

/-- The value of a member, read by its key. -/
def fieldOf (key : String) : Reader Field :=
  if key = "version" then .text <$> Json.text
  else if key = "major" then .major <$> word
  else if key = "minor" then .minor <$> wordOrNull
  else if key = "patch" then .patch <$> wordOrNull
  else do Json.skip; return .other

/-- A member of the object. -/
def field : Reader Field := do
  let key ← Json.text
  Json.space
  char ':'
  Json.space
  fieldOf key

/-- The members that were found so far. -/
structure Found where
  text : Option String := none
  major : Option Nat := none
  minor : Option (Option Nat) := none
  patch : Option (Option Nat) := none

/-- One more member, which was not found before. -/
def Found.add (f : Found) : Field → Option Found
  | .text s => if f.text.isSome then none else some { f with text := some s }
  | .major n => if f.major.isSome then none else some { f with major := some n }
  | .minor n => if f.minor.isSome then none else some { f with minor := some n }
  | .patch n => if f.patch.isSome then none else some { f with patch := some n }
  | .other => some f

/-- The version of an object with these members. -/
def ofFields? (fields : List Field) : Option Version := do
  let f ← fields.foldlM Found.add {}
  return { text := ← f.text, major := ← f.major, minor := f.minor.join, patch := f.patch.join }

/-- A version as an object. -/
def objectForm : Reader Version := do
  let fields ← Json.bracketed '\x7b' '\x7d' field
  match ofFields? fields with
  | some v => return v
  | none => failure

/-- The end of an item of an array, and the start of the next one. -/
def comma : Reader Unit := do
  Json.space
  char ','
  Json.space

/-- A version as an array. -/
def arrayForm : Reader Version := do
  char '['
  Json.space
  let text ← Json.text
  comma
  let major ← word
  comma
  let minor ← wordOrNull
  comma
  let patch ← wordOrNull
  Json.space
  char ']'
  return { text, major, minor, patch }

/-- The version that a JSON text holds. -/
def ofJsonText? (s : String) : Option Version :=
  all? (do Json.space; let v ← objectForm <|> arrayForm; Json.space; return v) s.toList

end BuildJdk.Version
