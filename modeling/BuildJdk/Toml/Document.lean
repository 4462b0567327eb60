import BuildJdk.Toml.DateTime
import BuildJdk.Toml.Number
import BuildJdk.Toml.Text
import BuildJdk.Toml.Value

/-!
# TOML documents

A document is read in two steps. First it is cut into expressions: assignments and headers. Then the
expressions are carried out one after the other on a tree of tables.

## Which tables may be added to

A table is defined once. One that only stands on the way to another is implicit, and may still be
defined by a header. One that dotted keys made may be added to by dotted keys only. Tables between
braces, and all other values, are closed.
-/

namespace BuildJdk.Toml

open Text Reader

/-! ## The tree of tables -/

/-- What a key is bound to while the document is carried out. -/
inductive Node where
  | leaf (v : Value)
  /-- A table: whether it only stands on the way to another, whether dotted keys made it, and what it
  holds. -/
  | table (implicit dotted : Bool) (entries : List (String × Node))
  /-- The tables of an array of tables, the last one last. -/
  | tables (items : List Node)

namespace Node

/-- The entries of a table. -/
def entries : Node → List (String × Node)
  | table _ _ es => es
  | _ => []

/-- The table with other entries. -/
def withEntries (t : Node) (es : List (String × Node)) : Node :=
  match t with
  | table implicit dotted _ => table implicit dotted es
  | n => n

/-- What a key of a table is bound to. -/
def get? (t : Node) (key : String) : Option Node := t.entries.lookup key

/-- The table with a key bound to something else, in its old place if it has one. -/
def set (t : Node) (key : String) (n : Node) : Node :=
  let es := t.entries
  if es.any (·.1 = key) then
    t.withEntries (es.map fun e => if e.1 = key then (key, n) else e)
  else t.withEntries (es ++ [(key, n)])

/-- Whether dotted keys made the table. -/
def isDotted : Node → Bool
  | table _ dotted _ => dotted
  | _ => false

/-- A table that a path goes through, or that is made on its way. -/
def onTheWay (dotted : Bool) (n : Option Node) : Option Node :=
  match n with
  | none => some (table true dotted [])
  | some (table implicit d es) => if dotted && !implicit then none else some (table implicit d es)
  | some _ => none

/-- Changes the table at the end of a path. Missing tables on the way are made. An array of tables
leads to its last one. -/
def update (dotted : Bool) (change : Node → Option Node) (path : List String) (t : Node) :
    Option Node :=
  match path with
  | [] => change t
  | key :: rest =>
    match t.get? key with
    | some (tables items) => do
      let last ← items.getLast?
      let last ← update dotted change rest last
      return t.set key (tables (items.dropLast ++ [last]))
    | found => do
      let next ← onTheWay dotted found
      return t.set key (← update dotted change rest next)

/-- Binds a key at the end of a dotted path to a value. Keys are bound once, and only dotted keys add
to a table that dotted keys made. -/
def assign (path : List String) (v : Value) (t : Node) : Option Node := do
  let key ← path.getLast?
  let front := path.dropLast
  t.update true (fun inner =>
    if inner.isDotted = front.isEmpty ∨ (inner.get? key).isSome then none
    else some (inner.set key (leaf v))) front

mutual

/-- The value that a node has come to. -/
def toValue : Node → Value
  | leaf v => v
  | table _ _ es => .table (toEntries es)
  | tables items => .array (toValues items)

/-- The values that the entries of a table have come to. -/
def toEntries : List (String × Node) → List (String × Value)
  | [] => []
  | (k, n) :: rest => (k, toValue n) :: toEntries rest

/-- The values that the tables of an array have come to. -/
def toValues : List Node → List Value
  | [] => []
  | n :: rest => toValue n :: toValues rest

end

end Node

/-! ## Values -/

/-- The rest of a line that does not count. -/
def comment : Reader Unit := do
  char '#'
  let _ ← span isPlain

/-- Blanks, comments and line ends. -/
def space : Reader Unit := do
  let _ ← many (do gap; let _ ← optional comment; newline)
  gap

/-- Values between brackets, divided by commas. -/
def array (value : Reader Value) : Reader Value := do
  char '['
  let items ← sepBy (do space; let v ← value; space; return v) (char ',')
  if items ≠ [] then
    let _ ← optional (char ',')
  space
  char ']'
  return .array items

/-- A table between braces, all on one line. -/
def inlineTable (value : Reader Value) : Reader Value := do
  char '\x7b'
  let pairs ← sepBy
    (do let path ← keyPath; char '='; gap; let v ← value; gap; return (path, v)) (char ',')
  gap
  char '\x7d'
  match pairs.foldlM (fun t (path, v) => t.assign path v) (Node.table false false []) with
  | some t => return t.toValue
  | none => failure

/-- A value that holds no other one. -/
def scalar : Reader Value :=
  Value.text <$> text
    <|> (do literal "true"; return .boolean true)
    <|> (do literal "false"; return .boolean false)
    <|> Value.dateTime <$> dateTime
    <|> (do float; return .float)
    <|> Value.integer <$> integer

/-- A value. Arrays and tables are nested no deeper than `depth` levels. -/
def valueWithin : Nat → Reader Value
  | 0 => scalar
  | depth + 1 => array (valueWithin depth) <|> inlineTable (valueWithin depth) <|> scalar

/-- How deep arrays and tables may be nested in a value. -/
def nestingLimit : Nat := 127

/-- A value. -/
def value : Reader Value := valueWithin nestingLimit

/-! ## Expressions -/

/-- An expression of a document. -/
inductive Expression where
  /-- An empty line, or one with a comment only. -/
  | blank
  | assignment (path : List String) (v : Value)
  /-- The header of a table. -/
  | header (path : List String)
  /-- The header of one more table of an array. -/
  | arrayHeader (path : List String)

/-- The end of a line with an expression. -/
def lineEnd : Reader Unit := do
  gap
  let _ ← optional comment
  newline <|> atEnd

/-- An expression with its line end, and the blanks in front of the next one. -/
def expression : Reader Expression := do
  let e ← (do newline; return .blank)
    <|> (do comment; newline <|> atEnd; return .blank)
    <|> (do literal "[["; let path ← keyPath; literal "]]"; lineEnd; return .arrayHeader path)
    <|> (do char '['; let path ← keyPath; char ']'; lineEnd; return .header path)
    <|> (do let path ← keyPath; char '='; gap; let v ← value; lineEnd; return .assignment path v)
  gap
  return e

/-- All the expressions of a document. A byte order mark in front of them does not count. -/
def expressions : Reader (List Expression) := do
  let _ ← optional (char '\uFEFF')
  gap
  many expression

/-! ## Carrying out -/

/-- The tables so far, and the path of the one that assignments go to. -/
structure Builder where
  root : Node
  path : List String

namespace Builder

/-- A document without expressions. -/
def start : Builder := { root := .table false false [], path := [] }

/-- A table that a header defines, in the place of what its key was bound to. -/
def define : Option Node → Option Node
  | none => some (.table false false [])
  | some (.table true false es) => some (.table false false es)
  | some _ => none

/-- An array with one more table, in the place of what its key was bound to. -/
def extend : Option Node → Option Node
  | none => some (.tables [.table false false []])
  | some (.tables items) => some (.tables (items ++ [.table false false []]))
  | some _ => none

/-- Carries out a header: what the last key of its path is bound to is replaced. -/
def enter (b : Builder) (path : List String) (replace : Option Node → Option Node) :
    Option Builder := do
  let key ← path.getLast?
  let root ← b.root.update false (fun parent => do return parent.set key (← replace (parent.get? key)))
    path.dropLast
  return { root, path }

/-- Carries out one expression. -/
def step (b : Builder) : Expression → Option Builder
  | .blank => some b
  | .header path => b.enter path define
  | .arrayHeader path => b.enter path extend
  | .assignment path v => do
    return { b with root := ← b.root.update false (fun t => t.assign path v) b.path }

end Builder

/-- The table that a document is, if it is well formed. -/
def parse? (document : String) : Option (List (String × Value)) := do
  let found ← expressions.all? document.toList
  let b ← found.foldlM Builder.step Builder.start
  return Node.toEntries b.root.entries

end BuildJdk.Toml
