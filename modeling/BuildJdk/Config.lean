import BuildJdk.Failure
import BuildJdk.Policy
import BuildJdk.Text.Digit
import BuildJdk.Toml.Document

/-!
# Configuration

The configuration is a TOML file with three sections, each of which may be missing: the properties of
the build, the requirements on its installations, and the build cache. What a section leaves out keeps
its default, and keys that no setting has do not matter.

A section of settings may also be given as an array of its values in their order. A date or time in
the place of a section counts as a table of one key.
-/

namespace BuildJdk

open Toml (Value)

/-- The configuration of a build. -/
structure Config where
  properties : Bindings := []
  requirements : Requirements := {}
  /-- Whether the build uses a remote cache. -/
  remoteCache : Bool := false
  deriving DecidableEq, Repr

namespace Config

/-! ## Settings -/

/-- A whole number of 32 bits. -/
def word? : Value → Option Nat
  | .integer n => if 0 ≤ n ∧ n < Text.wordLimit then some n.toNat else none
  | _ => none

/-- A text. -/
def text? : Value → Option String
  | .text s => some s
  | _ => none

/-- A truth value. -/
def boolean? : Value → Option Bool
  | .boolean b => some b
  | _ => none

/-- The key of the table that a date or time counts as. -/
def dateTimeKey : String := "$__toml_private_datetime"

/-- The entries of a value that counts as a table. -/
def entries? : Value → Option (List (String × Value))
  | .table es => some es
  | .dateTime s => some [(dateTimeKey, .text s)]
  | _ => none

/-- A setting that is absent, or has to be of its kind. -/
def setting? {α : Type} (read : Value → Option α) (default : α) : Option Value → Option α
  | none => some default
  | some v => read v

/-- Finds the values of settings: by their keys in a table, by their places in an array. -/
def lookup? (keys : List String) (v : Value) : Option (Nat → Option Value) :=
  match v with
  | .array items => some fun n => items[n]?
  | _ => (entries? v).map fun es n => keys[n]?.bind fun key => es.lookup key

/-! ## Sections -/

/-- The section of properties: a table of texts. -/
def properties? (v : Value) : Option Bindings := do
  (← entries? v).mapM fun (key, value) => do return (key, ← text? value)

/-- The section of requirements. -/
def requirements? (v : Value) : Option Requirements := do
  let get ← lookup? ["minimum_build_major", "minimum_compilation_major", "required_vendor_label"] v
  let default : Requirements := {}
  let buildMajor ← setting? word? default.buildMajor (get 0)
  let compilationMajor ← setting? word? default.compilationMajor (get 1)
  let vendorLabel ← setting? text? default.vendorLabel (get 2)
  return { buildMajor, compilationMajor, vendorLabel }

/-- The section of the build cache. -/
def cache? (v : Value) : Option Bool := do
  let get ← lookup? ["remote_enabled"] v
  setting? boolean? false (get 0)

/-- The configuration that a table holds. -/
def ofEntries? (es : List (String × Value)) : Option Config := do
  let properties ← setting? properties? [] (es.lookup "properties")
  let requirements ← setting? requirements? {} (es.lookup "policy")
  let remoteCache ← setting? cache? false (es.lookup "build_cache")
  return { properties, requirements, remoteCache }

/-- The configuration that a document holds. -/
def parse? (document : String) : Option Config := do ofEntries? (← Toml.parse? document)

/-! ## Loading -/

/-- Where the configuration is looked for unless it is named. -/
def defaultPath (m : Machine) : Except Failure Path :=
  match m.userHome? with
  | none => .error .noUserHome
  | some home => .ok ((home.join ".jdkcheck").join "config.toml")

/-- The configuration in a file. -/
def read (m : Machine) (path : Path) : Except Failure Config :=
  match m.readText path with
  | .error e => .error (.config path (.unreadable e))
  | .ok document =>
    match parse? document with
    | none => .error (.config path .malformed)
    | some config => .ok config

/-- The configuration in the named file, which has to exist, or else the one in the user's home, which
is the default one if there is no file. -/
def load (m : Machine) (named : Option Path) : Except Failure Config :=
  match named with
  | some path =>
    if m.pathExists path then read m path else .error (.config path .missing)
  | none => do
    let path ← defaultPath m
    if m.pathExists path then read m path else return {}

/-- The properties of the build: those of the configuration, overridden by those given. -/
def buildProperties (c : Config) (given : Bindings) : Bindings := c.properties ++ given

end Config

end BuildJdk
