import BuildJdk.CommandLine.Parser
import BuildJdk.Handler
import BuildJdk.Probe.Local

/-!
# The program

A run of the program on a machine: the command line is read, the configuration loaded, and the command
carried out. The exit code is 0 on success, 1 when the command fails and 2 when the command line makes
no invocation.
-/

namespace BuildJdk.Program

open CommandLine (Invocation UsageError)

/-- What a run of the program leaves behind. -/
structure Result where
  exitCode : Nat
  output : String
  errors : String
  deriving DecidableEq, Repr

/-- The handler for a command line. -/
def handler (launch : Launcher) (m : Machine) (options : CommandLine.Options) :
    Except Failure (Handler Machine) := do
  let config ← Config.load m options.config
  return {
    host := LocalProbe.host launch
    config
    source := Property.Source.standard (config.buildProperties options.project) options.system
    javaHome := options.javaHome }

/-- How the program is used. -/
def usage : String :=
  "Usage: jdkcheck [OPTIONS] <COMMAND>\n\n"
    ++ "Commands:\n"
    ++ "  resolve   Show the JDKs used to run the build, to test and to compile\n"
    ++ "  validate  Check the JDKs against policies\n"
    ++ "  scan      Look for Java installations\n"
    ++ "  help      Print this message\n\n"
    ++ "Options:\n"
    ++ "      --config <CONFIG>        The configuration file\n"
    ++ "  -P <KEY=VALUE>               A property of the build\n"
    ++ "  -D <KEY=VALUE>               A property of the system\n"
    ++ "      --java-home <JAVA_HOME>  The home of the current JDK\n"
    ++ "  -v, --verbose                Log more\n"
    ++ "  -h, --help                   Print help\n"
    ++ "  -V, --version                Print version\n"

/-- The name and the version of the program. -/
def versionLine : String := "jdkcheck 0.1.0\n"

/-- What is wrong with a command line. -/
def usageMessage : UsageError → String
  | .unknownArgument => "error: unexpected argument found\n"
  | .invalidSubcommand => "error: unrecognized subcommand\n"
  | .invalidValue => "error: invalid value, or no value, for an option\n"
  | .invalidProperty => "error: invalid value for a property\n"
  | .givenTwice => "error: an option cannot be used multiple times\n"
  | .tooManyValues => "error: unexpected value for an option\n"
  | .missingSubcommand => "error: a subcommand is required but one was not provided\n"
  | .nothingGiven => usage
  | .helpAsked => ""
  | .versionAsked => ""

/-- The end of a run whose command line makes no invocation. -/
def refuse : UsageError → Result
  | .helpAsked => { exitCode := 0, output := usage, errors := "" }
  | .versionAsked => { exitCode := 0, output := versionLine, errors := "" }
  | e => { exitCode := 2, output := "", errors := usageMessage e }

/-- The end of a run that carried out a command. -/
def conclude (o : Outcome) : Result :=
  match o.result with
  | .ok () => { exitCode := 0, output := o.output, errors := "" }
  | .error e => { exitCode := 1, output := o.output, errors := "Error: " ++ e.message ++ "\n" }

/-- Runs an invocation. -/
def invoke (launch : Launcher) (i : Invocation) : StateM Machine (Except Failure Outcome) := do
  match handler launch (← get) i.options with
  | .error e => return .error e
  | .ok h => return .ok (← h.handle i.command)

/-- Runs the program on a machine, with the arguments after its name. -/
def run (launch : Launcher) (arguments : List String) : StateM Machine Result := do
  match CommandLine.parse arguments with
  | .error e => return refuse e
  | .ok i =>
    match ← invoke launch i with
    | .error e => return conclude { output := "", result := .error e }
    | .ok outcome => return conclude outcome

end BuildJdk.Program
