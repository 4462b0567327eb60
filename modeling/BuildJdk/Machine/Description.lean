import BuildJdk.Json.Reader
import BuildJdk.Machine

/-!
# Machines described in JSON

A machine is described by an object:

* `files`: a list of `{"dir": path}`, `{"file": path, "text": text}` or, for arbitrary bytes,
  `{"file": path, "hex": digits}`, with `"exec": true` for a program, and
  `{"link": path, "to": target}`. Missing directories on the way are made, and links on the way are
  followed, in the order of the list;
* `directory`: the working directory; paths in `files` may be relative to it;
* `environment`: an object of variables;
* `account`: the home directory of the user's account.
-/

namespace BuildJdk

namespace FileTree

/-- Makes the directories along names, where they are missing. Gives the tree and the location that the
names lead to. -/
def makeWay (t : FileTree) (here : Location) : List String → FileTree × Location
  | [] => (t, here)
  | name :: rest =>
    match t.find here ⟨name⟩ with
    | .ok (l, _) => makeWay t l rest
    | .error _ =>
      if name = "" then makeWay t here rest
      else makeWay (t.put (here ++ [name]) .directory) (here ++ [name]) rest

/-- Puts an entry at a path, and directories on the way to it. -/
def place (t : FileTree) (start : Location) (p : Path) (e : Entry) : FileTree :=
  let here := if p.isAbsolute then [] else start
  let names := p.pieces.map String.ofList
  match e, names.getLast? with
  | .directory, _ => (t.makeWay here names).1
  | e, some name =>
    let (t, l) := t.makeWay here names.dropLast
    t.put (l ++ [name]) e
  | _, none => t

end FileTree

namespace Machine.Description

/-- The text of a string. -/
def string? : Json → Option String
  | .string s => some s
  | _ => none

/-- The bytes that pairs of hexadecimal digits write. -/
def hexBytes? : List Char → Option (List UInt8)
  | [] => some []
  | a :: b :: rest => do
    let high ← Json.hexValue? a
    let low ← Json.hexValue? b
    return (16 * high + low).toUInt8 :: (← hexBytes? rest)
  | _ => none

/-- The bytes of a described file. -/
def bytes? (j : Json) : Option (List UInt8) :=
  match j.get? "hex" with
  | some hex => do hexBytes? (← string? hex).toList
  | none => (((j.get? "text").bind string?).getD "" |> Text.Utf8.encode)

/-- The path and the entry that an item of `files` describes. -/
def entry? (j : Json) : Option (Path × Entry) :=
  match j.get? "dir", j.get? "file", j.get? "link" with
  | some path, _, _ => do return (⟨← string? path⟩, .directory)
  | none, some path, _ => do
    let executable := match j.get? "exec" with
      | some (.boolean b) => b
      | _ => false
    return (⟨← string? path⟩, .file (← bytes? j) executable)
  | none, none, some path => do
    return (⟨← string? path⟩, .link (← (j.get? "to").bind string?))
  | none, none, none => none

/-- The files that a list describes, below the directory `start`. -/
def files? (start : Location) : Json → Option FileTree
  | .array items => do
    let entries ← items.mapM entry?
    let tree := (FileTree.empty.makeWay [] start).1
    return entries.foldl (fun t (path, e) => t.place start path e) tree
  | _ => none

/-- The bindings that an object of strings describes. -/
def bindings? (j : Json) : Option Bindings :=
  j.members.mapM fun (key, value) => do return (key, ← string? value)

/-- The location that an absolute path spells, if it has no links. -/
def location (p : Path) : Location :=
  p.components.filterMap fun
    | .name s => some s
    | _ => none

/-- The machine that an object describes. -/
def machine? (j : Json) : Option Machine := do
  let directory := location ⟨((j.get? "directory").bind string?).getD "/"⟩
  let files ← files? directory ((j.get? "files").getD (.array []))
  let environment ← bindings? ((j.get? "environment").getD .null)
  let accountHome := ((j.get? "account").bind string?).map Path.mk
  return { files, workingDirectory := directory, environment, accountHome }

/-- The machine that a JSON text describes. An empty text describes a machine with nothing on it. -/
def parse? (s : String) : Option Machine :=
  if s.isEmpty then machine? .null else (Json.parse? s).bind machine?

end Machine.Description

end BuildJdk
