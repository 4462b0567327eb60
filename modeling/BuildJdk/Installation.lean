import BuildJdk.Home
import BuildJdk.Probe.Basic
import BuildJdk.Text.Quoted

/-!
# Installations

An installation has a home, a version, and a flag that tells whether it runs the build. These never
change. Its label and its library of development tools are looked for when they are first asked for,
and remembered; a failed probe is not remembered.

So what can be asked of an installation is an action on the installation together with the state
around it.
-/

namespace BuildJdk

/-- A Java installation. -/
structure Installation where
  /-- Whether it is the one that runs the build. -/
  current : Bool
  home : Path
  version : Version
  /-- The label, once it is known. -/
  knownLabel : Option String
  /-- The library of development tools, or its absence, once it was looked for. -/
  knownToolsJar : Option (Option Path)
  deriving DecidableEq, Repr

namespace Installation

/-- An installation of which no more than its version is known. Its home is made absolute. -/
def new (m : Machine) (current : Bool) (home : Path) (version : Version) : Installation :=
  { current, home := m.absolute home, version, knownLabel := none, knownToolsJar := none }

/-- The installation at a home, with the version that the probe tells. -/
def detect {σ : Type} (h : Host σ) (current : Bool) (home : Path) : Action σ Installation := do
  let version ← h.version home
  return new (← h.look) current home version

/-- Installations of the same flag and version at the same home. What is remembered does not count,
nor does the text of a version. -/
def isSame (i j : Installation) : Bool :=
  i.current == j.current && i.home.isSame j.home && i.version.isSame j.version

/-! ## What is asked for later -/

/-- A question to an installation, in the state around it. -/
abbrev Question (σ α : Type) := Action (σ × Installation) α

/-- The label, from memory or from the probe. -/
def label {σ : Type} (h : Host σ) : Question σ String := fun (s, i) =>
  match i.knownLabel with
  | some label => (.ok label, (s, i))
  | none =>
    match h.probe i.home s with
    | (.ok probed, s) => (.ok probed.label, (s, { i with knownLabel := some probed.label }))
    | (.error e, s) => (.error e, (s, i))

/-- The library of development tools, from memory or from the files. -/
def toolsJar {σ : Type} (h : Host σ) : Question σ (Option Path) := fun (s, i) =>
  match i.knownToolsJar with
  | some jar => (.ok jar, (s, i))
  | none =>
    let jar := Home.toolsJar? (h.machine s) i.home
    (.ok jar, (s, { i with knownToolsJar := some jar }))

/-- The installation as it is shown to users: by its label, or by its version if there is none. -/
def display {σ : Type} (h : Host σ) : Question σ String := fun s =>
  match label h s with
  | (.ok label, (s, i)) => (.ok (label ++ " (" ++ i.home.text ++ ")"), (s, i))
  | (.error _, (s, i)) =>
    (.ok ("Java " ++ i.version.text ++ " (" ++ i.home.text ++ ")"), (s, i))

/-! ## Description for developers -/

/-- A number that may be absent. -/
def describeNumber : Option Nat → String
  | some n => "Some(" ++ n.repr ++ ")"
  | none => "None"

/-- The parts of a version. -/
def describeVersion (v : Version) : String :=
  "JavaVersion \x7b version: " ++ Text.quoted v.text ++ ", major: " ++ v.major.repr
    ++ ", minor: " ++ describeNumber v.minor ++ ", patch: " ++ describeNumber v.patch ++ " \x7d"

/-- The parts of the installation, as far as they are known. Nothing is asked for. -/
def describe (i : Installation) : String :=
  let label := match i.knownLabel with
    | some label => "Some(" ++ Text.quoted label ++ ")"
    | none => "None"
  "JavaInstallation \x7b current: " ++ (if i.current then "true" else "false")
    ++ ", java_home: " ++ Text.quotedPath i.home.text
    ++ ", java_version: " ++ describeVersion i.version
    ++ ", vendor_and_major_version: " ++ label ++ " \x7d"

end Installation

end BuildJdk
