import BuildJdk.CommandLine.Basic
import BuildJdk.Property.Pair

/-!
# Options on the command line

An option has a long name, a short one, or both. Which ones there are depends on the level: in front
of the command, or after it. The options that hold for every command may be given at either level.
-/

namespace BuildJdk.CommandLine

/-- The name of a command. -/
inductive Subcommand where
  | resolve
  | validate
  | scan
  deriving DecidableEq, Repr

/-- The command of a name. -/
def Subcommand.ofName? (s : String) : Option Subcommand :=
  if s = "resolve" then some resolve
  else if s = "validate" then some validate
  else if s = "scan" then some scan
  else none

/-- A place for options: in front of the command, or after it. -/
inductive Level where
  | top
  | after (command : Subcommand)
  deriving DecidableEq, Repr

/-- An option. -/
inductive Switch where
  | config
  | project
  | system
  | javaHome
  | verbose
  | help
  | version
  | json
  | policy
  | remoteCache
  | root
  deriving DecidableEq, Repr

namespace Switch

/-- Whether the option takes a value. -/
def takesValue : Switch → Bool
  | config | project | system | javaHome | policy | root => true
  | verbose | help | version | json | remoteCache => false

/-- The option of a long name, at a level. -/
def ofLong? (level : Level) (name : String) : Option Switch :=
  if name = "config" then some config
  else if name = "java-home" then some javaHome
  else if name = "verbose" then some verbose
  else if name = "help" then some help
  else
    match level with
    | .top => if name = "version" then some version else none
    | .after .resolve => if name = "json" then some json else none
    | .after .validate =>
      if name = "json" then some json
      else if name = "policy" then some policy
      else if name = "remote-cache" then some remoteCache
      else none
    | .after .scan =>
      if name = "json" then some json
      else if name = "root" then some root
      else none

/-- The option of a short name, at a level. -/
def ofShort? (level : Level) (c : Char) : Option Switch :=
  if c = 'P' then some project
  else if c = 'D' then some system
  else if c = 'v' then some verbose
  else if c = 'h' then some help
  else if c = 'V' ∧ level = .top then some version
  else if c = 'p' ∧ level = .after .validate then some policy
  else none

end Switch

/-- What the options at one level have given. -/
structure Given where
  options : Options := {}
  json : Bool := false
  policies : List PolicyChoice := []
  remoteCache : Bool := false
  roots : List Path := []
  /-- Whether there was any option. -/
  any : Bool := false
  deriving DecidableEq, Repr

namespace Given

/-- The path that a value gives; an empty one gives none. -/
def path (value : String) : Except UsageError Path :=
  if value = "" then .error .invalidValue else .ok ⟨value⟩

/-- The property that a value gives. -/
def property (value : String) : Except UsageError (String × String) :=
  match Property.parsePair value with
  | .ok pair => .ok pair
  | .error _ => .error .invalidProperty

/-- An option without a value. -/
def acceptFlag (g : Given) : Switch → Except UsageError Given
  | .verbose =>
    if g.options.verbose then .error .givenTwice
    else .ok { g with any := true, options := { g.options with verbose := true } }
  | .json => if g.json then .error .givenTwice else .ok { g with any := true, json := true }
  | .remoteCache =>
    if g.remoteCache then .error .givenTwice else .ok { g with any := true, remoteCache := true }
  | .help => .error .helpAsked
  | .version => .error .versionAsked
  | .config | .project | .system | .javaHome | .policy | .root => .error .invalidValue

/-- An option with a value. -/
def acceptValue (g : Given) (value : String) : Switch → Except UsageError Given
  | .config =>
    if g.options.config.isSome then .error .givenTwice
    else do
      let p ← path value
      return { g with any := true, options := { g.options with config := some p } }
  | .javaHome =>
    if g.options.javaHome.isSome then .error .givenTwice
    else do
      let p ← path value
      return { g with any := true, options := { g.options with javaHome := some p } }
  | .project => do
    let pair ← property value
    return { g with
      any := true, options := { g.options with project := g.options.project ++ [pair] } }
  | .system => do
    let pair ← property value
    return { g with
      any := true, options := { g.options with system := g.options.system ++ [pair] } }
  | .policy =>
    match PolicyChoice.ofName? value with
    | some choice => .ok { g with any := true, policies := g.policies ++ [choice] }
    | none => .error .invalidValue
  | .root => do
    let p ← path value
    return { g with any := true, roots := g.roots ++ [p] }
  | .verbose | .help | .version | .json | .remoteCache => .error .tooManyValues

/-- An option with or without a value. -/
def accept (g : Given) (s : Switch) : Option String → Except UsageError Given
  | some value => g.acceptValue value s
  | none => g.acceptFlag s

end Given

end BuildJdk.CommandLine
