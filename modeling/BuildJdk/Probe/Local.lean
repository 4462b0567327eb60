import BuildJdk.Home
import BuildJdk.Launch
import BuildJdk.Probe.Basic
import BuildJdk.Probe.Release
import BuildJdk.Probe.Settings
import BuildJdk.Probe.Vendor

/-!
# Probing the machine itself

The installation at a home is known by its `release` file, if that names a version and a vendor other
than Oracle. Otherwise `java` is run and asked for its settings: only they tell Oracle's own builds
from its builds of OpenJDK. The version of the release file comes before the reported one even then.
-/

namespace BuildJdk.LocalProbe

/-- What the version and the vendor are read from. -/
structure Facts where
  version : String
  vendor : String
  runtime : Option String
  deriving DecidableEq, Repr

/-- The facts that may stand in a release file; values of blanks only do not count. -/
structure ReleaseFacts where
  version : Option String
  vendor : Option String
  deriving DecidableEq, Repr

/-- A value of a release file that is not blank. -/
def value? (release : Bindings) (key : String) : Option String :=
  (release.get? key).filter fun value => !Text.isAllBlank value

/-- The facts of a release file. -/
def ReleaseFacts.ofBindings (release : Bindings) : ReleaseFacts where
  version := value? release "JAVA_VERSION" <|> value? release "JAVA_RUNTIME_VERSION"
  vendor := value? release "IMPLEMENTOR"

/-- The bindings of the release file of a home; there are none without such a file. -/
def readRelease (m : Machine) (home : Path) : Except Failure Bindings :=
  let path := home.join "release"
  if m.isFile path then
    match m.readText path with
    | .ok content => .ok (Release.parse content)
    | .error e => .error (.unreadable e)
  else .ok []

/-- The arguments that make `java` report its settings. -/
def reportArguments : List String := ["-XshowSettings:properties", "-version"]

/-- The facts in the report of a launcher that was run for a home. -/
def reportedFacts (home : Path) : Except StartError Finished → Except Failure Facts
  | .error e => .error (.probe home (.notStarted e))
  | .ok finished =>
    if finished.status.isSuccess then
      let settings := Settings.parse (Text.Utf8.decodeLenient finished.errors)
      match settings.get? "java.version" with
      | none => .error (.probe home .noVersion)
      | some version => .ok {
          version
          vendor := (settings.get? "java.vendor").getD ""
          runtime := settings.get? "java.runtime.name" }
    else .error (.probe home (.exited finished.status))

/-- The facts of a release file, where they are enough: a version, and a vendor that is not Oracle. -/
def ReleaseFacts.enough? (r : ReleaseFacts) : Option Facts :=
  match r.version, r.vendor with
  | some version, some vendor =>
    if Vendor.isOracle vendor then none else some { version, vendor, runtime := none }
  | _, _ => none

/-- The facts about a home, from its release file if they are enough, else from its launcher. -/
def readFacts (launch : Launcher) (home : Path) : Action Machine Facts := do
  let release ← readRelease (← get) home
  let known := ReleaseFacts.ofBindings release
  match known.enough? with
  | some facts => return facts
  | none =>
    let outcome ← launch (Home.program home "java") reportArguments
    let reported ← reportedFacts home outcome
    return { reported with version := known.version.getD reported.version }

/-- Probes a home of the machine. -/
def probe (launch : Launcher) (home : Path) : Action Machine Probed := do
  if !Home.isValid (← get) home then throw (.probe home .notHome)
  let facts ← readFacts launch home
  match Version.parse? facts.version with
  | none => throw (.probe home (.badVersion facts.version))
  | some version =>
    let isJdk := Home.hasCompiler (← get) home
    return { version, isJdk, vendor := Vendor.implementationName facts.vendor facts.runtime isJdk }

/-- The machine with the probe that looks at the machine itself. -/
def host (launch : Launcher) : Host Machine where
  machine m := m
  probe := probe launch

end BuildJdk.LocalProbe
