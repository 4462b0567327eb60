import BuildJdk.CommandLine.Switch

/-!
# Reading command lines

The arguments are read from left to right, first those in front of the command, then those after it.

* A long option may have its value after an equals sign. Short options may be put together after one
  dash; what follows one that takes a value is its value, without an equals sign in front of it.
* An option that takes a value and has none of its own takes the next argument, unless that looks like
  an option itself.
* The value of such an option is looked at only when the next option comes, or at the end of its
  level. So an unknown option is reported rather than a bad value before it, and a fault after the
  command rather than one that waits in front of it.
* After `--` there are no options and no commands.
-/

namespace BuildJdk.CommandLine

/-- The state of reading a level: what is given, and the option that waits to be looked at, with its
value if it has got it. -/
structure Reading where
  given : Given := {}
  waiting : Option (Switch × Option String) := none
  deriving DecidableEq, Repr

namespace Reading

/-- Whether the next argument may be the value of an option. -/
def wantsValue (r : Reading) : Bool :=
  match r.waiting with
  | some (_, none) => true
  | _ => false

/-- Looks at the waiting option. -/
def settle (r : Reading) : Except UsageError Given :=
  match r.waiting with
  | none => .ok r.given
  | some (s, value) => r.given.accept s value

/-- One more option, with the value that it has of its own. -/
def option (r : Reading) (s : Switch) (value : Option String) : Except UsageError Reading := do
  let given ← r.settle
  if s.takesValue ∧ value = none then return { given, waiting := some (s, none) }
  return { given := ← given.accept s value }

/-- Options put together after one dash. -/
def shortOptions (level : Level) (r : Reading) : List Char → Except UsageError Reading
  | [] => .ok r
  | c :: rest =>
    match Switch.ofShort? level c with
    | none => .error .unknownArgument
    | some s =>
      if s.takesValue then
        let value := match rest with
          | [] => none
          | '=' :: value => some (String.ofList value)
          | value => some (String.ofList value)
        r.option s value
      else do shortOptions level (← r.option s none) rest

/-- A long option, given by what follows its two dashes. -/
def longOption (level : Level) (r : Reading) (argument : List Char) : Except UsageError Reading :=
  let name := String.ofList (argument.takeWhile (· ≠ '='))
  let value := match argument.dropWhile (· ≠ '=') with
    | [] => none
    | _ :: value => some (String.ofList value)
  match Switch.ofLong? level name with
  | none => .error .unknownArgument
  | some s =>
    if value.isSome ∧ !s.takesValue then .error .tooManyValues else r.option s value

/-- An argument that is neither an option nor the value of one. -/
def strayArgument : Level → UsageError
  | .top => .invalidSubcommand
  | .after _ => .unknownArgument

/-- An argument that is no command and does not end the options. -/
def argument (level : Level) (r : Reading) (a : String) : Except UsageError Reading :=
  match a.toList with
  | '-' :: '-' :: long => longOption level r long
  | '-' :: c :: short => shortOptions level r (c :: short)
  | _ =>
    match r.waiting with
    | some (s, none) => .ok { r with waiting := some (s, some a) }
    | _ => .error (strayArgument level)

end Reading

/-! ## After the command -/

/-- Reads the arguments after a command. -/
def readAfter (command : Subcommand) (r : Reading) : List String → Except UsageError Given
  | [] => r.settle
  | a :: rest =>
    if a = "--" then if rest = [] then r.settle else .error .unknownArgument
    else do readAfter command (← r.argument (.after command) a) rest

/-! ## In front of the command -/

/-- Whether there is a command of this name, the one for help included. -/
def isCommandName (s : String) : Bool := (Subcommand.ofName? s).isSome || s = "help"

/-- What the command `help` leads to, by its arguments: help on the program or on a command. -/
def helpOn : List String → UsageError
  | [] => .helpAsked
  | [name] => if isCommandName name then .helpAsked else .invalidSubcommand
  | _ => .invalidSubcommand

/-- The error for a command line without a command. -/
def withoutCommand (r : Reading) : UsageError :=
  match r.settle with
  | .error e => e
  | .ok given => if given.any then .missingSubcommand else .nothingGiven

/-- The error for the arguments after a `--` in front of the command. -/
def afterDashes (r : Reading) : List String → UsageError
  | [] => withoutCommand r
  | a :: _ => if isCommandName a then .unknownArgument else .invalidSubcommand

/-- The options of both levels together: what is given after the command replaces what was given in
front of it. -/
def mergeOptions (before after : Options) : Options where
  config := after.config <|> before.config
  project := if after.project = [] then before.project else after.project
  system := if after.system = [] then before.system else after.system
  javaHome := after.javaHome <|> before.javaHome
  verbose := before.verbose || after.verbose

/-- The command with its own options. -/
def commandOf (command : Subcommand) (given : Given) : Command :=
  match command with
  | .resolve => .resolve given.json
  | .validate => .validate given.policies given.remoteCache given.json
  | .scan => .scan given.roots given.json

/-- Reads the arguments from where the command may stand. -/
def readTop (r : Reading) : List String → Except UsageError Invocation
  | [] => .error (withoutCommand r)
  | a :: rest =>
    if !r.wantsValue ∧ a = "help" then .error (helpOn rest)
    else
      match if r.wantsValue then none else Subcommand.ofName? a with
      | some command => do
        let after ← readAfter command {} rest
        let before ← r.settle
        return {
          options := mergeOptions before.options after.options
          command := commandOf command after }
      | none =>
        if a = "--" then .error (afterDashes r rest)
        else do readTop (← r.argument .top a) rest

/-- The invocation that a command line says, without the name of the program. -/
def parse (arguments : List String) : Except UsageError Invocation := readTop {} arguments

end BuildJdk.CommandLine
