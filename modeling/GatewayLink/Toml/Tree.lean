import GatewayLink.Toml.Value

/-! The tree that a TOML document describes.
A table remembers how it came about: on the way to another one, by dotted keys, or by a header of its own.
A table with a header is defined once, dotted keys only extend tables that dotted keys or other headers
brought about, and a value never changes. Those rules live in `Branch.descend`, `Branch.setValue` and the
two functions for headers. -/

namespace GatewayLink.Toml

abbrev Path := List String

inductive Node where
  | value (v : Value)
  | table (implicit dotted : Bool) (entries : List (String × Node))
  /-- The tables of an array of tables, the latest first, each with its entries. -/
  | tables (elements : List (List (String × Node)))

structure Branch where
  implicit : Bool
  dotted : Bool
  entries : List (String × Node)

namespace Branch

def root : Branch := ⟨false, false, []⟩

def node (b : Branch) : Node := .table b.implicit b.dotted b.entries

def get? (key : String) (b : Branch) : Option Node := b.entries.lookup key

def set (key : String) (n : Node) (b : Branch) : Branch :=
  { b with entries := (key, n) :: b.entries.filter fun (k, _) => k != key }

/-- Changes the table at the end of a path. Missing tables on the way are made; in an array of tables the
latest one is meant. -/
def descend (dotted : Bool) (change : Branch → Option Branch) : Path → Branch → Option Branch
  | [], b => change b
  | key :: path, b =>
    match b.get? key with
    | none => (descend dotted change path ⟨true, dotted, []⟩).map fun child => b.set key child.node
    | some (.table implicit wasDotted entries) =>
      if dotted && !implicit then none
      else
        (descend dotted change path ⟨implicit, wasDotted, entries⟩).map fun child =>
          b.set key child.node
    | some (.tables (last :: earlier)) =>
      (descend dotted change path ⟨false, false, last⟩).map fun child =>
        b.set key (.tables (child.entries :: earlier))
    | some _ => none

def setValue (path : Path) (key : String) (v : Node) (b : Branch) : Option Branch :=
  b.descend true
    (fun table =>
      if table.dotted == path.isEmpty || (table.get? key).isSome then none
      else some (table.set key v))
    path

def openTable (key : String) (b : Branch) : Option Branch :=
  match b.get? key with
  | none => some (b.set key (.table false false []))
  | some (.table true false entries) => some (b.set key (.table false false entries))
  | some _ => none

def appendTable (key : String) (b : Branch) : Option Branch :=
  match b.get? key with
  | none => some (b.set key (.tables [[]]))
  | some (.tables elements) => some (b.set key (.tables ([] :: elements)))
  | some _ => none

end Branch

mutual

def Node.toValue : Node → Value
  | .value v => v
  | .table _ _ entries => .table (entryValues entries)
  | .tables elements => .array (tableValues elements).reverse

def entryValues : List (String × Node) → List (String × Value)
  | [] => []
  | (key, n) :: rest => (key, n.toValue) :: entryValues rest

def tableValues : List (List (String × Node)) → List Value
  | [] => []
  | entries :: rest => .table (entryValues entries) :: tableValues rest

end

inductive Entry where
  | header (path : Path) (key : String)
  | arrayHeader (path : Path) (key : String)
  | assignment (path : Path) (key : String) (v : Value)

/-- A document read so far: its tree, and the table that assignments go to. -/
structure Draft where
  tree : Branch
  current : Path

namespace Draft

def empty : Draft := ⟨.root, []⟩

def add (d : Draft) : Entry → Option Draft
  | .header path key =>
    (d.tree.descend false (·.openTable key) path).map fun tree => ⟨tree, path ++ [key]⟩
  | .arrayHeader path key =>
    (d.tree.descend false (·.appendTable key) path).map fun tree => ⟨tree, path ++ [key]⟩
  | .assignment path key v =>
    (d.tree.descend false (·.setValue path key (.value v)) d.current).map fun tree =>
      ⟨tree, d.current⟩

end Draft

def entriesOf? (lines : List Entry) : Option Entries :=
  (lines.foldlM Draft.add .empty).map fun d => entryValues d.tree.entries

/-- An inline table follows the rules of a document without headers. -/
def inlineTable? (assignments : List (Path × String × Value)) : Option Value :=
  let add (b : Branch) : Path × String × Value → Option Branch
    | (path, key, v) => b.setValue path key (.value v)
  (assignments.foldlM add Branch.root).map fun b => .table (entryValues b.entries)

end GatewayLink.Toml
