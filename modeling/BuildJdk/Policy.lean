import BuildJdk.Installation
import BuildJdk.Property.Source

/-!
# Policies

A policy is a set of rules about the installations of a build. A rule looks at one installation and at
the requirements; when it is violated it says so in a message. The label of an installation is asked
for only by the rules about vendors, and for a message.
-/

namespace BuildJdk

/-- What is required of the installations. -/
structure Requirements where
  /-- The least major version to run the build with. -/
  buildMajor : Nat := 8
  /-- The least major version to compile with. -/
  compilationMajor : Nat := 9
  /-- The label of the only installation that may use the remote cache and build for production. -/
  vendorLabel : String := "Oracle JDK 9"
  deriving DecidableEq, Repr

/-- A set of rules that can be checked. -/
inductive Policy where
  | allBuilds
  | compilation
  | remoteCache
  | production
  deriving DecidableEq, Repr

namespace Policy

/-- The policy as it is named to users. -/
def name : Policy → String
  | allBuilds => "all-builds"
  | compilation => "compilation"
  | remoteCache => "remote-cache-compatibility"
  | production => "production"

/-- The policy as it is named in JSON. -/
def key : Policy → String
  | allBuilds => "all-builds"
  | compilation => "compilation"
  | remoteCache => "remote-cache-compatibility"
  | production => "production-environment"

end Policy

/-- A violated rule: the policy that it belongs to, and what it says. -/
structure Violation where
  policy : Policy
  message : String
  deriving DecidableEq, Repr

namespace Rule

open Installation (Question)

/-- The message for an installation that is too old to run the build. -/
def buildMessage (r : Requirements) (label : String) (home : Path) : String :=
  "Must use JDK " ++ r.buildMajor.repr ++ "+ to perform this build. Is currently " ++ label
    ++ " at " ++ home.text ++ "."

/-- The message for an installation that is too old to compile. -/
def compilationMessage (r : Requirements) (label : String) (home : Path) : String :=
  let required := r.compilationMajor.repr
  "Must use JDK " ++ required ++ "+ to perform compilation in this build. It's currently " ++ label
    ++ " at " ++ home.text ++ ". You can either run the build on JDK " ++ required
    ++ "+ or set a project, system property, or environment variable '"
    ++ Property.compilationHomeKey ++ "' to a Java" ++ required ++ "-compatible JDK home path"

/-- The message for an installation that may not use the remote cache. -/
def remoteCacheMessage (r : Requirements) (label : String) (home : Path) : String :=
  "Remote cache is enabled, which requires " ++ r.vendorLabel
    ++ " to perform this build. It's currently " ++ label ++ " at " ++ home.text ++ "."

/-- The message for an installation that may not build for production. -/
def productionMessage (r : Requirements) (label : String) (home : Path) : String :=
  "Must use " ++ r.vendorLabel ++ " to perform this build. Is currently " ++ label ++ " at "
    ++ home.text ++ "."

/-- A rule that only old installations violate. -/
def atLeast {σ : Type} (h : Host σ) (major : Nat) (policy : Policy)
    (message : String → Path → String) : Question σ (Option Violation) := do
  let (_, i) ← get
  if i.version.isAtLeast major then return none
  let label ← Installation.label h
  return some { policy, message := message label i.home }

/-- A rule that all installations but those of one label violate. -/
def labelled {σ : Type} (h : Host σ) (required : String) (policy : Policy)
    (message : String → Path → String) : Question σ (Option Violation) := do
  let label ← Installation.label h
  if label = required then return none
  let (_, i) ← get
  return some { policy, message := message label i.home }

/-- The installation is new enough to run the build. -/
def build {σ : Type} (h : Host σ) (r : Requirements) : Question σ (Option Violation) :=
  atLeast h r.buildMajor .allBuilds (buildMessage r)

/-- The installation is new enough to compile. -/
def compilation {σ : Type} (h : Host σ) (r : Requirements) : Question σ (Option Violation) :=
  atLeast h r.compilationMajor .compilation (compilationMessage r)

/-- The installation may use the remote cache. -/
def remoteCache {σ : Type} (h : Host σ) (r : Requirements) : Question σ (Option Violation) :=
  labelled h r.vendorLabel .remoteCache (remoteCacheMessage r)

/-- The installation may build for production. -/
def production {σ : Type} (h : Host σ) (r : Requirements) : Question σ (Option Violation) :=
  labelled h r.vendorLabel .production (productionMessage r)

end Rule

end BuildJdk
