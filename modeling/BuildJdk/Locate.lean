import BuildJdk.Probe.Basic
import BuildJdk.Property.Source

/-!
# Locating the current installation

The build runs on the installation that is named explicitly, else on the one that a property names,
else on the one that the first `java` on the search path belongs to.
-/

namespace BuildJdk.Locate

/-- The home that a launcher belongs to: links are resolved, and the launcher must stand in a directory
`bin`. -/
def homeOf? (m : Machine) (java : Path) : Option Path :=
  let resolved := (m.resolve? java).getD java
  match resolved.parent? with
  | none => none
  | some bin => if bin.fileName? = some "bin" then bin.parent? else none

/-! ## The search path -/

/-- The home directory that a tilde stands for. -/
def tildeHome (m : Machine) : Path :=
  match m.variableValue? "HOME" with
  | some home => ⟨home⟩
  | none => m.accountHome.getD ⟨""⟩

/-- A directory of the search path; a tilde as its first component stands for the user's home. -/
def expandTilde (m : Machine) (directory : Path) : Path :=
  match directory.components with
  | .name "~" :: rest => rest.foldl (fun p c => p.join c.text) (tildeHome m)
  | _ => directory

/-- The directories of the search path. -/
def searchDirectories (m : Machine) : List Path :=
  match m.variableValue? "PATH" with
  | none => []
  | some value => (value.toList.splitOn ':').map fun piece => ⟨String.ofList piece⟩

/-- The first program of a name on the search path. -/
def onSearchPath? (m : Machine) (name : String) : Option Path :=
  ((searchDirectories m).map fun d => (expandTilde m d).join name).find? m.isProgram

/-! ## The current home -/

/-- The home of the installation that runs the build, with a search for the first launcher on the search
path, and for any way of looking properties up. -/
def currentHomeBy (search : Machine → Option Path) (m : Machine) (explicit : Option Path)
    (lookup : Property.Lookup) : Except Failure Path :=
  match explicit with
  | some home => .ok home
  | none =>
    match lookup m Property.javaHomeKey with
    | some home => .ok ⟨home⟩
    | none =>
      match search m with
      | none => .error (.notFound .installation)
      | some java =>
        match homeOf? m java with
        | some home => .ok home
        | none => .error (.notFound (.homeOf java))

/-- The home of the installation that runs the build. -/
def currentHome (m : Machine) (explicit : Option Path) (source : Property.Source) :
    Except Failure Path :=
  currentHomeBy (onSearchPath? · "java") m explicit source.lookup

end BuildJdk.Locate
