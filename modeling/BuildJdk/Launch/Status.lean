/-!
# How programs end

A program that cannot be started gives a start error. A program that ran ends with an exit code or by
a signal.
-/

namespace BuildJdk

/-- Why a program cannot be started. -/
inductive StartError where
  | missing
  | notDirectory
  | tooManyLinks
  | notPermitted
  /-- A file that is no program. -/
  | badFormat
  deriving DecidableEq, Repr

/-- The system's words for a start error. -/
def StartError.text : StartError → String
  | missing => "No such file or directory (os error 2)"
  | notDirectory => "Not a directory (os error 20)"
  | tooManyLinks => "Too many levels of symbolic links (os error 40)"
  | notPermitted => "Permission denied (os error 13)"
  | badFormat => "Exec format error (os error 8)"

/-- How a program ended. -/
inductive ExitStatus where
  | code (n : Nat)
  | signal (n : Nat)
  deriving DecidableEq, Repr

namespace ExitStatus

/-- Only the exit code zero is a success. -/
def isSuccess (s : ExitStatus) : Bool := s = .code 0

/-- The names of the signals, from number 1 on. -/
def signalNames : List String :=
  ["SIGHUP", "SIGINT", "SIGQUIT", "SIGILL", "SIGTRAP", "SIGABRT", "SIGBUS", "SIGFPE", "SIGKILL",
   "SIGUSR1", "SIGSEGV", "SIGUSR2", "SIGPIPE", "SIGALRM", "SIGTERM", "SIGSTKFLT", "SIGCHLD",
   "SIGCONT", "SIGSTOP", "SIGTSTP", "SIGTTIN", "SIGTTOU", "SIGURG", "SIGXCPU", "SIGXFSZ",
   "SIGVTALRM", "SIGPROF", "SIGWINCH", "SIGIO", "SIGPWR", "SIGSYS"]

/-- The name of a signal. -/
def signalName? (n : Nat) : Option String :=
  match n with
  | 0 => none
  | n + 1 => signalNames[n]?

/-- The words for an exit status. -/
def text : ExitStatus → String
  | code n => "exit status: " ++ n.repr
  | signal n =>
    match signalName? n with
    | some name => "signal: " ++ n.repr ++ " (" ++ name ++ ")"
    | none => "signal: " ++ n.repr

end ExitStatus

end BuildJdk
