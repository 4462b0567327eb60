/-!
# Paths

A path is a text. Its components are the names between its slashes; repeated slashes, a slash at the
end, and a `.` anywhere but at the very front make no difference to them. Paths are compared by their
components, but are shown, joined and cut as texts.
-/

namespace BuildJdk

/-- A path in the file system, as it is spelled. -/
structure Path where
  text : String
  deriving DecidableEq, Repr

/-- A component of a path. -/
inductive Component where
  /-- The slash at the front of an absolute path. -/
  | root
  /-- A `.` at the front of a relative path. -/
  | here
  /-- A `..`. -/
  | up
  | name (text : String)
  deriving DecidableEq, Repr

namespace Component

/-- The component as it is spelled. -/
def text : Component → String
  | root => "/"
  | here => "."
  | up => ".."
  | name s => s

/-- The order of the kinds of components. -/
def rank : Component → Nat
  | root => 0
  | here => 1
  | up => 2
  | name _ => 3

/-- First by kind, then names by their characters. -/
def compare (a b : Component) : Ordering :=
  (Ord.compare a.rank b.rank).then (Ord.compare a.text.toList b.text.toList)

/-- The component that a piece between slashes stands for, unless it makes no difference. -/
def ofPiece? (piece : List Char) : Option Component :=
  if piece = [] ∨ piece = ['.'] then none
  else if piece = ['.', '.'] then some up
  else some (name (String.ofList piece))

end Component

namespace Path

/-- Whether the path starts at the root. -/
def isAbsolute (p : Path) : Bool := p.text.toList.head? = some '/'

/-- The pieces of the path between its slashes. -/
def pieces (p : Path) : List (List Char) := p.text.toList.splitOn '/'

/-- The components of the path. -/
def components (p : Path) : List Component :=
  let front : List Component :=
    if p.isAbsolute then [.root] else if p.pieces.head? = some ['.'] then [.here] else []
  front ++ p.pieces.filterMap Component.ofPiece?

/-- The order of paths: component by component. -/
def compare (p q : Path) : Ordering := List.compareLex Component.compare p.components q.components

/-- Paths with the same components. -/
def isSame (p q : Path) : Bool := p.components = q.components

/-! ## Joining -/

/-- The path with a relative path added to it. An absolute path takes its place. -/
def join (p : Path) (rest : String) : Path :=
  if rest.toList.head? = some '/' then ⟨rest⟩
  else if p.text = "" ∨ p.text.toList.getLast? = some '/' then ⟨p.text ++ rest⟩
  else ⟨p.text ++ "/" ++ rest⟩

/-! ## Cutting

The characters are looked at from the end, so these functions take them in reverse.
-/

/-- Without the slashes and `.` pieces at the end. The slash of the root is kept, and so is a `.` that
is the whole path. -/
def settle : List Char → List Char
  | '/' :: c :: rest => settle (c :: rest)
  | '.' :: '/' :: rest => settle ('/' :: rest)
  | r => r

/-- The last component's characters, and what stands before them, both in reverse. -/
def cutLast (p : Path) : List Char × List Char :=
  let r := settle p.text.toList.reverse
  (r.takeWhile (· ≠ '/'), r.dropWhile (· ≠ '/'))

/-- The path without its last component. The root and the empty path have none. -/
def parent? (p : Path) : Option Path :=
  let (last, before) := p.cutLast
  if last = [] then none else some ⟨String.ofList (settle before).reverse⟩

/-- The last component, if it is a name. -/
def fileName? (p : Path) : Option String :=
  let last := p.cutLast.1
  if last = [] ∨ last = ['.'] ∨ last = ['.', '.'] then none
  else some (String.ofList last.reverse)

/-! ## Absolute paths -/

/-- Whether the path begins with two slashes and no more. -/
def hasDoubleRoot (p : Path) : Bool :=
  match p.text.toList with
  | '/' :: '/' :: '/' :: _ => false
  | '/' :: '/' :: _ => true
  | _ => false

/-- Where the absolute form of a path starts, when `base` is the working directory. -/
def absoluteStart (p base : Path) : Path :=
  if p.hasDoubleRoot then ⟨"//"⟩ else if p.isAbsolute then ⟨"/"⟩ else base

/-- The absolute path of the same place: components are put after the working directory, with `..`
left as it is. Two slashes at the front, and a slash at the end, are kept. The empty path has no
absolute form, and stays. -/
def absolute (p base : Path) : Path :=
  if p.text = "" then p
  else
    let names := p.components.filter fun c => c ≠ .root ∧ c ≠ .here
    let joined := names.foldl (fun q c => q.join c.text) (p.absoluteStart base)
    if p.text.toList.getLast? = some '/' then joined.join "" else joined

end Path

end BuildJdk
