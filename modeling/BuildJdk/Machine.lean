import BuildJdk.FileTree
import BuildJdk.Bindings
import BuildJdk.Text.Utf8

/-!
# Machines

What a command can see of the machine that it runs on: files, the working directory, and the
variables of the environment.
-/

namespace BuildJdk

/-- A machine: its files, the working directory, and the environment. -/
structure Machine where
  files : FileTree
  /-- The location of the working directory. -/
  workingDirectory : Location
  environment : Bindings
  /-- The home directory of the user's account, if the account is known. -/
  accountHome : Option Path

/-- Why a file cannot be read as a text. -/
inductive ReadError where
  | missing
  | notDirectory
  | tooManyLinks
  | isDirectory
  | notUtf8
  deriving DecidableEq, Repr

/-- The system's words for a read error. -/
def ReadError.text : ReadError → String
  | missing => "No such file or directory (os error 2)"
  | notDirectory => "Not a directory (os error 20)"
  | tooManyLinks => "Too many levels of symbolic links (os error 40)"
  | isDirectory => "Is a directory (os error 21)"
  | notUtf8 => "stream did not contain valid UTF-8"

/-- A path that leads nowhere cannot be read. -/
def FindError.toReadError : FindError → ReadError
  | missing => .missing
  | notDirectory => .notDirectory
  | tooManyLinks => .tooManyLinks

namespace Machine

/-- The place that a path leads to, and what stands there. -/
def find (m : Machine) (p : Path) : Except FindError (Location × Entry) :=
  m.files.find m.workingDirectory p

/-- Whether a path leads to something. -/
def pathExists (m : Machine) (p : Path) : Bool :=
  match m.find p with
  | .ok _ => true
  | .error _ => false

/-- Whether a path leads to a directory. -/
def isDirectory (m : Machine) (p : Path) : Bool :=
  match m.find p with
  | .ok (_, .directory) => true
  | _ => false

/-- Whether a path leads to a file. -/
def isFile (m : Machine) (p : Path) : Bool :=
  match m.find p with
  | .ok (_, .file _ _) => true
  | _ => false

/-- Whether a path leads to a file that may be run. -/
def isProgram (m : Machine) (p : Path) : Bool :=
  match m.find p with
  | .ok (_, .file _ executable) => executable
  | _ => false

/-- The text in the file that a path leads to. -/
def readText (m : Machine) (p : Path) : Except ReadError String :=
  match m.find p with
  | .error e => .error e.toReadError
  | .ok (_, .file bytes _) =>
    match Text.Utf8.decode? bytes with
    | some s => .ok s
    | none => .error .notUtf8
  | .ok _ => .error .isDirectory

/-- The path of a place without links, `.` and `..`. -/
def resolve? (m : Machine) (p : Path) : Option Path :=
  match m.find p with
  | .ok (l, _) => some l.path
  | .error _ => none

/-- The absolute form of a path, which leaves links and `..` as they are. -/
def absolute (m : Machine) (p : Path) : Path := p.absolute m.workingDirectory.path

/-! ## Environment -/

/-- The value of a variable. -/
def variableValue? (m : Machine) (name : String) : Option String := m.environment.get? name

/-- The user's home directory: the value of `HOME`, or the account's if that is empty. -/
def userHome? (m : Machine) : Option Path :=
  match m.variableValue? "HOME" with
  | none | some "" => m.accountHome
  | some home => some ⟨home⟩

end Machine

end BuildJdk
