import BuildJdk.Path
import BuildJdk.Policy

/-!
# Command lines

What a command line says: options that hold for every command, and a command with options of its own.
-/

namespace BuildJdk.CommandLine

/-- A policy that can be chosen on the command line. -/
inductive PolicyChoice where
  | allBuilds
  | compilation
  | production
  deriving DecidableEq, Repr

namespace PolicyChoice

/-- The chosen policy. -/
def policy : PolicyChoice → Policy
  | allBuilds => .allBuilds
  | compilation => .compilation
  | production => .production

/-- All the choices. -/
def all : List PolicyChoice := [allBuilds, compilation, production]

/-- The choice as it is written. -/
def name (c : PolicyChoice) : String := c.policy.name

/-- The choice that is written so. -/
def ofName? (s : String) : Option PolicyChoice := all.find? (·.name = s)

end PolicyChoice

/-- What is to be done. -/
inductive Command where
  | resolve (json : Bool)
  | validate (policies : List PolicyChoice) (remoteCache json : Bool)
  | scan (roots : List Path) (json : Bool)
  deriving DecidableEq, Repr

/-- The options that hold for every command. -/
structure Options where
  config : Option Path := none
  /-- Properties of the build. -/
  project : List (String × String) := []
  /-- Properties of the system. -/
  system : List (String × String) := []
  javaHome : Option Path := none
  verbose : Bool := false
  deriving DecidableEq, Repr

/-- A command line. -/
structure Invocation where
  options : Options
  command : Command
  deriving DecidableEq, Repr

/-- Why a command line makes no invocation. -/
inductive UsageError where
  | unknownArgument
  | invalidSubcommand
  /-- A value that an option does not accept, or that it lacks. -/
  | invalidValue
  /-- A text that is no property. -/
  | invalidProperty
  /-- An option given twice that may be given once. -/
  | givenTwice
  /-- A value for an option that takes none. -/
  | tooManyValues
  | missingSubcommand
  /-- There are no arguments at all. -/
  | nothingGiven
  | helpAsked
  | versionAsked
  deriving DecidableEq, Repr

end BuildJdk.CommandLine
