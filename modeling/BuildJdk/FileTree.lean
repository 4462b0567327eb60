import BuildJdk.Path

/-!
# File trees

A file tree is a finite map from locations to entries. A location is the list of names that leads
from the root to a place without passing a link; the root itself is always a directory.

## Finding a place

`find` follows a path name by name, as a file system does. A link puts the names of its target in
front of the names still to come. At most `linkLimit` links are followed for one path, so the search
ends: either a link is used up, or the names get fewer.
-/

namespace BuildJdk

/-- A place in a file tree: the names from the root down. -/
abbrev Location := List String

/-- What stands at a location. -/
inductive Entry where
  | directory
  /-- A file with its bytes, and whether it may be run. -/
  | file (bytes : List UInt8) (executable : Bool)
  /-- A symbolic link with the text of its target. -/
  | link (target : String)
  deriving DecidableEq, Repr

/-- A file tree. Of several entries at one location the first counts. -/
structure FileTree where
  entries : List (Location × Entry)
  deriving Repr

/-- Why a path leads nowhere. -/
inductive FindError where
  | missing
  /-- A name is looked for in what is no directory. -/
  | notDirectory
  | tooManyLinks
  deriving DecidableEq, Repr

namespace FileTree

/-- The tree with nothing but its root. -/
def empty : FileTree := ⟨[]⟩

/-- The entry at a location. -/
def entry? (t : FileTree) (l : Location) : Option Entry :=
  if l = [] then some .directory else t.entries.lookup l

/-- The names that stand in the directory at a location. -/
def namesIn (t : FileTree) (l : Location) : List String :=
  t.entries.filterMap fun (k, _) => if k.dropLast = l then k.getLast? else none

/-! ## Changing a tree -/

/-- The tree with an entry put in place of what stood at the location. -/
def put (t : FileTree) (l : Location) (e : Entry) : FileTree :=
  ⟨(l, e) :: t.entries.filter (·.1 ≠ l)⟩

/-! ## Finding a place -/

/-- How many links are followed for one path. -/
def linkLimit : Nat := 40

/-- Follows names from a directory. `links` is the number of links that may still be followed. -/
def follow (t : FileTree) (links : Nat) (here : Location) :
    List String → Except FindError (Location × Entry)
  | [] => .ok (here, .directory)
  | name :: rest =>
    if name = "" ∨ name = "." then follow t links here rest
    else if name = ".." then follow t links here.dropLast rest
    else
      match t.entry? (here ++ [name]) with
      | none => .error .missing
      | some .directory => follow t links (here ++ [name]) rest
      | some (.file bytes executable) =>
        if rest = [] then .ok (here ++ [name], .file bytes executable) else .error .notDirectory
      | some (.link target) =>
        match links with
        | 0 => .error .tooManyLinks
        | links + 1 =>
          let path : Path := ⟨target⟩
          follow t links (if path.isAbsolute then [] else here)
            (path.pieces.map String.ofList ++ rest)
termination_by names => (links, names.length)

/-- The place that a path leads to from the directory `start`, and what stands there: a directory or
a file, never a link. -/
def find (t : FileTree) (start : Location) (p : Path) : Except FindError (Location × Entry) :=
  if p.text = "" then .error .missing
  else follow t linkLimit (if p.isAbsolute then [] else start) (p.pieces.map String.ofList)

end FileTree

/-- The absolute path that spells a location. -/
def Location.path (l : Location) : Path := ⟨"/" ++ String.intercalate "/" l⟩

end BuildJdk
