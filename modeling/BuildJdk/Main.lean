import BuildJdk.Machine.Description
import BuildJdk.Program

/-!
# The command

The command reads the description of a machine from its standard input, runs the program on it with the
arguments given, and prints what the run leaves behind.
-/

open BuildJdk

/-- Reads a stream to its end, after what was read of it already. -/
partial def readToEnd (stream : IO.FS.Stream) (read : String) : IO String := do
  let line ← stream.getLine
  if line.isEmpty then return read else readToEnd stream (read ++ line)

/-- Runs the program on the machine that the standard input describes. -/
def main (arguments : List String) : IO UInt32 := do
  match Machine.Description.parse? (← readToEnd (← IO.getStdin) "") with
  | none =>
    (← IO.getStderr).putStr "error: the standard input describes no machine\n"
    return 2
  | some machine =>
    let (result, _) := Program.run .scripts arguments machine
    (← IO.getStdout).putStr result.output
    (← IO.getStderr).putStr result.errors
    return result.exitCode.toUInt32
