import BuildJdk.Home

/-!
# Scanning for installations

A scan walks the directories at and below its roots, down to a fixed depth, and follows links. A
directory that is a Java home, or has one in `Contents/Home`, is not entered. A link to a directory
that the walk is inside of is passed over, so that no circle is walked.

The homes that are found are kept in the order of paths, each once. Of several spellings of one path
the first one found stays.
-/

namespace BuildJdk

namespace Scan

/-- How many levels below its roots a scan looks. -/
def maxDepth : Nat := 3

/-- The Java home that a directory stands for: itself, or the one in the bundle that it is. -/
def homeAt? (m : Machine) (directory : Path) : Option Path :=
  let bundled := (directory.join "Contents").join "Home"
  if Home.isValid m directory then some directory
  else if Home.isValid m bundled then some bundled
  else none

/-- The directory that a name in a directory leads to. `inside` are the directories that the walk is
inside of; a link to one of them leads nowhere. -/
def subdirectory? (m : Machine) (inside : List Location) (directory : Location) (name : String)
    (path : Path) : Option Location :=
  match m.files.entry? (directory ++ [name]) with
  | some .directory => some (directory ++ [name])
  | some (.link _) =>
    match m.find path with
    | .ok (l, .directory) => if inside.contains l then none else some l
    | _ => none
  | _ => none

/-- The homes at and below a directory, `depth` levels down. `path` is how the walk came to it. -/
def walk (m : Machine) : Nat → List Location → Location → Path → List Path
  | depth, inside, directory, path =>
    match homeAt? m path with
    | some home => [home]
    | none =>
      match depth with
      | 0 => []
      | depth + 1 =>
        (m.files.namesIn directory).flatMap fun name =>
          match subdirectory? m (directory :: inside) directory name (path.join name) with
          | some below => walk m depth (directory :: inside) below (path.join name)
          | none => []

/-- The homes at and below a root. A root that is no directory has none. -/
def homesUnder (m : Machine) (root : Path) : List Path :=
  match m.find root with
  | .ok (l, .directory) => walk m maxDepth [] l root
  | _ => []

/-- Puts a path into an ordered list, unless it is there in some spelling. -/
def insert (p : Path) : List Path → List Path
  | [] => [p]
  | q :: rest =>
    match p.compare q with
    | .lt => p :: q :: rest
    | .eq => q :: rest
    | .gt => q :: insert p rest

/-- The homes at and below the roots, in order. -/
def homes (m : Machine) (roots : List Path) : List Path :=
  (roots.flatMap (homesUnder m)).foldl (fun found p => insert p found) []

/-- Where installations are put by package managers, and by tools under the user's home. -/
def defaultRoots (m : Machine) : List Path :=
  let system : List Path := [⟨"/usr/lib/jvm"⟩, ⟨"/usr/local/java"⟩, ⟨"/opt/java"⟩, ⟨"/usr/java"⟩]
  match m.userHome? with
  | none => system
  | some home =>
    system ++ [((home.join ".sdkman").join "candidates").join "java",
      (home.join ".gradle").join "jdks"]

end Scan

end BuildJdk
