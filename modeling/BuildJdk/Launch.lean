import BuildJdk.Shell.Run

/-!
# Launching programs

A program of a machine is a launcher script: a file that may be run and whose first line names the
shell. Launching it gives how it ended and what it wrote on its error output, or why it did not start;
either way the machine may be another one afterwards.
-/

namespace BuildJdk

/-- What is left of a program that ran: how it ended, and the bytes that it wrote as errors. -/
structure Finished where
  status : ExitStatus
  errors : List UInt8
  deriving DecidableEq, Repr

/-- What launches the program at a path, with arguments. The program may change the machine. -/
abbrev Launcher := Path → List String → StateM Machine (Except StartError Finished)

namespace Launch

/-- The shell that scripts are run by. -/
def shell : Path := ⟨"/bin/sh"⟩

/-- The interpreter that the first line of a script names after `#!`. -/
def interpreter? (bytes : List UInt8) : Option Path :=
  match Shell.bytesAsChars bytes with
  | '#' :: '!' :: rest =>
    let isGap (c : Char) : Bool := c = ' ' || c = '\t'
    let line := (rest.takeWhile (· ≠ '\n')).dropWhile isGap
    some ⟨Shell.textOfChars (line.takeWhile fun c => !isGap c)⟩
  | _ => none

/-- Why a program at this path does not start; a path that leads nowhere has no program. -/
def startErrorOf : FindError → StartError
  | .missing => .missing
  | .notDirectory => .notDirectory
  | .tooManyLinks => .tooManyLinks

end Launch

namespace Machine

/-- Launches the program at a path. -/
def launch (m : Machine) (program : Path) (arguments : List String) :
    Except StartError Finished × Machine :=
  match m.find program with
  | .error e => (.error (Launch.startErrorOf e), m)
  | .ok (_, .file bytes true) =>
    match Launch.interpreter? bytes with
    | none => (.error .badFormat, m)
    | some interpreter =>
      if interpreter = Launch.shell then
        let ran := Shell.runScript m program arguments bytes
        let errors := Shell.charsAsBytes ran.errors
        (.ok { status := ran.ended.getD (.code 0), errors }, ran.machine)
      else
        match m.find interpreter with
        | .error e => (.error (Launch.startErrorOf e), m)
        | .ok _ => (.error .badFormat, m)
  | .ok _ => (.error .notPermitted, m)

end Machine

/-- Launches the programs that are launcher scripts. -/
def Launcher.scripts : Launcher := fun program arguments m => m.launch program arguments

end BuildJdk
