import BuildJdk.Launch.Status
import BuildJdk.Shell.Command
import BuildJdk.Shell.Builtin

/-!
# Running launcher scripts

A script runs on a machine and may change its files. What it writes on its outputs is gathered, and
it ends with an exit status, at an `exit`, at a signal to itself, or after its last command with that
command's status.
-/

namespace BuildJdk.Shell

open Text

/-- The state of a running script. -/
structure Execution where
  machine : Machine
  /-- The script's own path, and its arguments. -/
  arguments : List (List Char)
  /-- Variables that the script has set, over those of the environment. -/
  assigned : List (String × List Char)
  /-- The status of the last command. -/
  status : Nat
  /-- Set once the script has ended. -/
  ended : Option ExitStatus
  output : List Char
  errors : List Char

/-- Where an output goes. -/
inductive Sink where
  | output
  | errors
  | file (location : Location)

namespace Execution

/-- The number that a script sees as its process. -/
def ownNumber : Nat := 4242

/-! ## Words -/

/-- The value of a parameter; an unset one is empty. -/
def parameter (p : Execution) (name : String) : List Char :=
  if name = "$" then ownNumber.repr.toList
  else if name = "?" then p.status.repr.toList
  else if name = "#" then (p.arguments.length - 1).repr.toList
  else if name = "@" ∨ name = "*" then [' '].intercalate p.arguments.tail
  else
    match digitsValue? name.toList with
    | some n => (p.arguments[n]?).getD []
    | none =>
      match p.assigned.lookup name with
      | some value => value
      | none => ((p.machine.variableValue? name).map (bytesAsChars <| Utf8.encode ·)).getD []

/-- The characters of a piece. A blank that cuts the word in two is `none`. -/
def pieceMarks (p : Execution) : Piece → List (Option Char)
  | .text cs _ => cs.map some
  | .parameter name true => (p.parameter name).map some
  | .parameter name false =>
    (p.parameter name).map fun c => if c = ' ' ∨ c = '\t' ∨ c = '\n' then none else some c

/-- The arguments that a word becomes. A word that is all unquoted empty parameters becomes none. -/
def expand (p : Execution) (w : Word) : List (List Char) :=
  let fields := ((w.flatMap p.pieceMarks).splitOn none).map fun field => field.filterMap id
  if w.any (fun | .text _ quoted => quoted | .parameter _ quoted => quoted) ∧ fields.length = 1 then
    fields
  else fields.filter (· ≠ [])

/-- The one argument that a word becomes where it is not cut at blanks. -/
def expandWhole (p : Execution) (w : Word) : List Char :=
  w.flatMap fun
    | .text cs _ => cs
    | .parameter name _ => p.parameter name

/-! ## Outputs -/

/-- Makes the file that a redirection names, or empties it. -/
def openFile? (p : Execution) (path : Path) (keep : Bool) : Option (Execution × Location) :=
  match p.machine.find path with
  | .ok (l, .file bytes executable) =>
    let files := p.machine.files.put l (.file (if keep then bytes else []) executable)
    some ({ p with machine := { p.machine with files } }, l)
  | .ok _ => none
  | .error _ =>
    match path.parent?, path.fileName? with
    | some parent, some name =>
      match p.machine.find (if parent.text = "" then ⟨"."⟩ else parent) with
      | .ok (l, .directory) =>
        if (p.machine.files.entry? (l ++ [name])).isSome then none
        else
          let files := p.machine.files.put (l ++ [name]) (.file [] false)
          some ({ p with machine := { p.machine with files } }, l ++ [name])
      | _ => none
    | _, _ => none

/-- Carries out the redirections of a command: where its two outputs go, unless one fails. -/
def redirect? (p : Execution) (out err : Sink) : List Redirect → Option (Execution × Sink × Sink)
  | [] => some (p, out, err)
  | r :: rest =>
    let target := p.expandWhole r.target
    let found : Option (Execution × Sink) :=
      match r.direction with
      | .sameAs =>
        if target = ['1'] then some (p, out) else if target = ['2'] then some (p, err) else none
      | .toFile | .append =>
        let path : Path := ⟨textOfChars target⟩
        if path.text = "/dev/null" then some (p, .file [])
        else (p.openFile? path (r.direction = .append)).map fun (p, l) => (p, .file l)
    match found with
    | none => none
    | some (p, sink) =>
      if r.output = 1 then p.redirect? sink err rest
      else if r.output = 2 then p.redirect? out sink rest
      else p.redirect? out err rest

/-- Writes on an output. -/
def write (p : Execution) (sink : Sink) (cs : List Char) : Execution :=
  match sink with
  | .output => { p with output := p.output ++ cs }
  | .errors => { p with errors := p.errors ++ cs }
  | .file l =>
    match p.machine.files.entry? l with
    | some (.file bytes executable) =>
      let files := p.machine.files.put l (.file (bytes ++ charsAsBytes cs) executable)
      { p with machine := { p.machine with files } }
    | _ => p

/-! ## Built-in commands -/

/-- The end of the script. -/
def finish (p : Execution) (s : ExitStatus) : Execution := { p with ended := some s }

/-- A command that only has a status. -/
def withStatus (p : Execution) (n : Nat) : Execution := { p with status := n }

/-- The number of the signal that an argument of `kill` names. -/
def signal? (argument : List Char) : Option Nat :=
  match digitsValue? argument with
  | some n => some n
  | none =>
    let name := String.ofList argument
    let index := ExitStatus.signalNames.findIdx? fun s => s = name || s = "SIG" ++ name
    index.map (· + 1)

/-- A signal sent by the script. Only its own process can get one, and the signals that end no process
are without effect. -/
def kill (p : Execution) (signal : Nat) (target : List Char) : Execution :=
  if target ≠ ownNumber.repr.toList then p.withStatus 1
  else if [0, 17, 18, 23, 28].contains signal then p.withStatus 0
  else p.finish (.signal signal)

/-- Runs a built-in command with its arguments, where its outputs go to `out` and `err`. -/
def runBuiltin (p : Execution) (out err : Sink) (name : String) (arguments : List (List Char)) :
    Execution :=
  let test (arguments : List (List Char)) : Execution :=
    match test? p.machine arguments with
    | some true => p.withStatus 0
    | some false => p.withStatus 1
    | none => p.withStatus 2
  match name, arguments with
  | ":", _ | "true", _ => p.withStatus 0
  | "false", _ => p.withStatus 1
  | "exit", [] => p.finish (.code (p.status % 256))
  | "exit", code :: _ =>
    match digitsValue? code with
    | some n => p.finish (.code (n % 256))
    | none => p.finish (.code 2)
  | "printf", format :: rest =>
    match printf? format rest with
    | some cs => (p.write out cs).withStatus 0
    | none => p.withStatus 2
  | "printf", [] => p.withStatus 2
  | "echo", _ => (p.write out (echo arguments)).withStatus 0
  | "test", _ => test arguments
  | "[", _ => if arguments.getLast? = some [']'] then test arguments.dropLast else p.withStatus 2
  | "shift", [] =>
    match p.arguments with
    | self :: _ :: rest => { p with arguments := self :: rest, status := 0 }
    | _ => p.finish (.code 2)
  | "kill", [target] => p.kill 15 target
  | "kill", [['-', 's'], name, target] =>
    match signal? name with
    | some n => p.kill n target
    | none => p.withStatus 2
  | "kill", ['-' :: name, target] =>
    match signal? name with
    | some n => p.kill n target
    | none => p.withStatus 2
  | _, _ => (p.write err ("sh: " ++ name ++ ": not found\n").toList).withStatus 127

/-! ## Commands -/

/-- The variable and the value of a word such as `name=value`. -/
def assignment? (p : Execution) : Word → Option (String × List Char)
  | .text cs false :: rest =>
    let name := cs.takeWhile isNameChar
    match cs.dropWhile isNameChar with
    | '=' :: value =>
      if name.head?.any (fun c => !c.isDigit) then
        some (String.ofList name, value ++ p.expandWhole rest)
      else none
    | _ => none
  | _ => none

/-- The assignments in front of a command, and the words of the command itself. -/
def splitAssignments (p : Execution) : List Word → List (String × List Char) × List Word
  | [] => ([], [])
  | w :: rest =>
    match p.assignment? w with
    | some assignment =>
      let (assignments, words) := p.splitAssignments rest
      (assignment :: assignments, words)
    | none => ([], w :: rest)

/-- Runs a simple command. Assignments without a command last; those in front of a command are made
for it only, and no built-in command looks at them. -/
def runSimple (p : Execution) (words : List Word) (redirects : List Redirect) : Execution :=
  let (assignments, words) := p.splitAssignments words
  match p.redirect? .output .errors redirects with
  | none => p.withStatus 2
  | some (p, out, err) =>
    match words.flatMap p.expand with
    | [] => { p with assigned := assignments.reverse ++ p.assigned, status := 0 }
    | name :: rest => p.runBuiltin out err (textOfChars name) rest

/-- Runs a command, unless the script has ended. -/
def run (p : Execution) (c : Command) : Execution :=
  if p.ended.isSome then p
  else
    match c with
    | .nothing => p
    | .simple words redirects => p.runSimple words redirects
    | .both first second => (p.run first).run second
    | .andThen first second =>
      let p := p.run first
      if p.status = 0 then p.run second else p
    | .orElse first second =>
      let p := p.run first
      if p.status = 0 then p else p.run second
    | .ifThen condition body otherwise =>
      let p := p.run condition
      if p.ended.isSome then p
      else if p.status = 0 then { p with status := 0 }.run body
      else { p with status := 0 }.run otherwise

end Execution

/-- Runs a script with its path and arguments. A script that cannot be read ends with status 2. -/
def runScript (m : Machine) (self : Path) (arguments : List String) (script : List UInt8) : Execution :=
  let p : Execution := {
    machine := m
    arguments := (self.text :: arguments).map fun a => bytesAsChars (Utf8.encode a)
    assigned := [], status := 0, ended := none, output := [], errors := [] }
  match Command.ofScript? (bytesAsChars script) with
  | none => p.finish (.code 2)
  | some command =>
    let p := p.run command
    if p.ended.isSome then p else p.finish (.code (p.status % 256))

end BuildJdk.Shell
