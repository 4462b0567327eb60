import BuildJdk.Policy
import BuildJdk.Property.Source

/-!
# The installations of a build

A build has an installation for each of three roles. The current installation is detected first. The
roles of tests and of compilation use the current installation itself, unless a property names
another home for them; the current installation also compiles whenever it is new enough.

A role that uses the current installation shares what is remembered about it. So the other two roles
hold an installation only where it is one of their own.
-/

namespace BuildJdk

/-- What an installation is used for in a build. -/
inductive Role where
  | current
  | test
  | compilation
  deriving DecidableEq, Repr

/-- The role's name. -/
def Role.name : Role → String
  | current => "current"
  | test => "test"
  | compilation => "compilation"

/-- The installations of a build. A role without an installation of its own uses the current one. -/
structure Resolved where
  current : Installation
  ownTest : Option Installation
  ownCompilation : Option Installation
  requirements : Requirements
  remoteCache : Bool
  deriving Repr

namespace Resolved

/-- The installation of a role's own. -/
def own? (r : Resolved) : Role → Option Installation
  | .current => none
  | .test => r.ownTest
  | .compilation => r.ownCompilation

/-- Whether a role uses the current installation. -/
def usesCurrent (r : Resolved) (role : Role) : Bool := (r.own? role).isNone

/-- The installation of a role. -/
def installation (r : Resolved) (role : Role) : Installation := (r.own? role).getD r.current

/-- With another installation in a role, and so in all the roles that share it. -/
def withInstallation (r : Resolved) (role : Role) (i : Installation) : Resolved :=
  if r.usesCurrent role then { r with current := i }
  else
    match role with
    | .current => { r with current := i }
    | .test => { r with ownTest := some i }
    | .compilation => { r with ownCompilation := some i }

/-! ## Resolving -/

/-- The installation that a property names, if it does. -/
def override? {σ : Type} (h : Host σ) (lookup : Property.Lookup) (key : String) :
    Action σ (Option Installation) := do
  match lookup (← h.look) key with
  | none => return none
  | some home => return some (← Installation.detect h false ⟨home⟩)

/-- Detects the installations of a build that runs on the one at `home`, for any way of looking
properties up. -/
def resolveBy {σ : Type} (h : Host σ) (requirements : Requirements) (remoteCache : Bool) (home : Path)
    (lookup : Property.Lookup) : Action σ Resolved := do
  let current ← Installation.detect h true home
  let ownTest ← override? h lookup Property.testHomeKey
  let ownCompilation ←
    if current.version.isAtLeast requirements.compilationMajor then pure none
    else override? h lookup Property.compilationHomeKey
  return { current, ownTest, ownCompilation, requirements, remoteCache }

/-- Detects the installations of a build that runs on the one at `home`. -/
def resolve {σ : Type} (h : Host σ) (requirements : Requirements) (remoteCache : Bool) (home : Path)
    (source : Property.Source) : Action σ Resolved :=
  resolveBy h requirements remoteCache home source.lookup

/-! ## Checking -/

/-- A question to the installations of a build, in the state around them. -/
abbrev Question (σ α : Type) := Action (σ × Resolved) α

/-- Asks the installation of a role. -/
def ask {σ α : Type} (role : Role) (q : Installation.Question σ α) : Question σ α := fun (s, r) =>
  let (answer, (s, i)) := q (s, r.installation role)
  (answer, (s, r.withInstallation role i))

/-- Asks the installation of a role about a rule. -/
def askRule {σ : Type} (role : Role)
    (rule : Requirements → Installation.Question σ (Option Violation)) :
    Question σ (Option Violation) := do
  ask role (rule (← get).2.requirements)

/-- The violated rules of a policy. The policy of compilation has the rule of the remote cache in front
of its own one if the cache is enabled. -/
def check {σ : Type} (h : Host σ) : Policy → Question σ (List Violation)
  | .allBuilds => return (← askRule .current (Rule.build h)).toList
  | .compilation => do
    let cache ← if (← get).2.remoteCache then askRule .current (Rule.remoteCache h) else pure none
    let own ← askRule .compilation (Rule.compilation h)
    return cache.toList ++ own.toList
  | .remoteCache => return (← askRule .current (Rule.remoteCache h)).toList
  | .production => return (← askRule .current (Rule.production h)).toList

/-- Fails with the messages of all violated rules of a policy, if there are any. -/
def validate {σ : Type} (h : Host σ) (policy : Policy) : Question σ Unit := do
  let violations ← check h policy
  if violations = [] then return ()
  throw (.violated (violations.map (·.message)))

/-- Validates that the build may run. -/
def validateAllBuilds {σ : Type} (h : Host σ) : Question σ Unit := validate h .allBuilds

/-- Validates that the build may compile. -/
def validateCompilation {σ : Type} (h : Host σ) : Question σ Unit := validate h .compilation

/-- Validates that the build may be one for production. -/
def validateProduction {σ : Type} (h : Host σ) : Question σ Unit := validate h .production

end Resolved

end BuildJdk
