import BuildJdk.Launch.Status
import BuildJdk.Machine
import BuildJdk.Version

/-!
# Failures

All the ways in which the program can fail, as causes. `Failure.message` is the one place where they
are put into words.
-/

namespace BuildJdk

/-- Why an installation cannot be probed. -/
inductive ProbeCause where
  /-- There is no directory, or no `bin/java` in it. -/
  | notHome
  | notStarted (error : StartError)
  | exited (status : ExitStatus)
  /-- The launcher reports no version. -/
  | noVersion
  /-- The version text writes no version. -/
  | badVersion (text : String)
  | other (reason : String)
  deriving DecidableEq, Repr

/-- Why a configuration file cannot be loaded. -/
inductive ConfigCause where
  | missing
  | unreadable (error : ReadError)
  /-- The text is no acceptable document. -/
  | malformed
  | other (reason : String)
  deriving DecidableEq, Repr

/-- What was looked for and not found. -/
inductive Wanted where
  /-- Any installation to run the build. -/
  | installation
  /-- The home that a launcher belongs to. -/
  | homeOf (java : Path)
  | other (resource : String)
  deriving DecidableEq, Repr

/-- Why an operation failed. -/
inductive Failure where
  | unreadable (error : ReadError)
  | config (path : Path) (cause : ConfigCause)
  /-- The user has no home directory to look for the configuration in. -/
  | noUserHome
  | probe (home : Path) (cause : ProbeCause)
  | badVersion (text : String)
  | notFound (what : Wanted)
  /-- The messages of all rules that are violated, in the order of the rules. -/
  | violated (messages : List String)
  deriving DecidableEq, Repr

/-- A version text that writes no version. -/
def badVersionText (text : String) : String := "Could not parse Java version: " ++ text

/-- The words for the cause of a failed probe. -/
def ProbeCause.text : ProbeCause → String
  | notHome => "not a Java home directory (bin/java not found)"
  | notStarted error => "failed to execute java: " ++ error.text
  | exited status => "java -version exited with " ++ status.text
  | noVersion => "java.version not reported"
  | badVersion text => badVersionText text
  | other reason => reason

/-- The words for the cause of a failed load. What is wrong with a malformed document is not told. -/
def ConfigCause.text : ConfigCause → String
  | missing => "file does not exist"
  | unreadable error => error.text
  | malformed => "<toml error>"
  | other reason => reason

/-- The words for what was not found. -/
def Wanted.text : Wanted → String
  | installation => "Java installation (set JAVA_HOME or put java on PATH)"
  | homeOf java => "Java home for executable " ++ java.text
  | other resource => resource

/-- The lines above the messages of violated rules. -/
def violationHeader : List String :=
  ["JDKs not configured correctly for the build.", "Problems found:"]

/-- The messages of violated rules, one a line, below the header. -/
def violationText (messages : List String) : String :=
  String.intercalate "\n" (violationHeader ++ messages.map ("    - " ++ ·))

namespace Failure

/-- The failure in words. -/
def message : Failure → String
  | unreadable error => "IO error: " ++ error.text
  | config path cause => "Configuration error: cannot load " ++ path.text ++ ": " ++ cause.text
  | noUserHome => "Configuration error: cannot determine the user's home directory"
  | probe home cause =>
    "Could not probe Java installation at " ++ home.text ++ ": " ++ cause.text
  | badVersion text => badVersionText text
  | notFound what => "Not found: " ++ what.text
  | violated messages => violationText messages

/-- The messages of the violated rules, if that is the failure. -/
def violations : Failure → List String
  | violated messages => messages
  | _ => []

end Failure

/-- The version that a text writes, or the failure that names the text. -/
def Version.read (text : String) : Except Failure Version :=
  match Version.parse? text with
  | some v => .ok v
  | none => .error (.badVersion text)

end BuildJdk
