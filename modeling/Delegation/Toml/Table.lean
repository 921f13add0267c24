import Delegation.Toml.Value

/-!
# Building tables

The tables of a document grow statement by statement: a key may be assigned only once, a table may
be opened only once, and what one part of a document has defined another part must not redefine.
Inline tables are built by the same rules from their own assignments.

## Main Definitions

* `Origin` — how a table came to be, which decides what may be added to it.
* `Node` — a part of a document that may still grow.
* `assign`, `openTable`, `appendTable` — the three ways to grow.
* `Node.toValue` — the finished value.
-/

namespace Delegation.Toml

/-- How a table came to be. -/
inductive Origin
  /-- By a header of its own. -/
  | header
  /-- As a step on the path of another header. -/
  | implied
  /-- As a step of a dotted key. -/
  | dotted
deriving DecidableEq, Repr

/-- A part of a document that may still grow. -/
inductive Node
  /-- A value, to which nothing can be added. -/
  | leaf (value : Value)
  /-- A table. -/
  | table (origin : Origin) (entries : List (String × Node))
  /-- Tables that have been appended one by one. -/
  | tables (items : List (List (String × Node)))
deriving Inhabited

/-- The entries of a table. -/
abbrev Entries := List (String × Node)

namespace Entries

/-- Set an entry, in its old place if it has one. -/
def set (entries : Entries) (key : String) (node : Node) : Entries :=
  if (entries.lookup key).isSome then
    entries.map fun entry => if entry.1 = key then (key, node) else entry
  else entries ++ [(key, node)]

end Entries

/-- Follow a path from a table and change the table it leads to.  Missing tables are made on the
way; of appended tables the last one is entered.  A dotted key does not enter a table that has a
header of its own. -/
def descend (via : Origin) (change : Origin → Entries → Option Entries) :
    List String → Origin → Entries → Option Entries
  | [], origin, entries => change origin entries
  | key :: path, _, entries =>
    match entries.lookup key with
    | none => (descend via change path via []).map fun sub => entries.set key (.table via sub)
    | some (.leaf _) => none
    | some (.table origin sub) =>
      if via = .dotted ∧ origin = .header then none
      else (descend via change path origin sub).map fun sub => entries.set key (.table origin sub)
    | some (.tables items) =>
      items.getLast?.bind fun last =>
        (descend via change path .header last).map fun sub =>
          entries.set key (.tables (items.dropLast ++ [sub]))

/-- Assign a value to the last key of a path.  Between the first and the last key only tables made by
dotted keys may be changed. -/
def assign (path : List String) (key : String) (value : Value) (entries : Entries) :
    Option Entries :=
  descend .dotted (fun origin entries =>
    if (origin = .dotted ↔ path = []) ∨ (entries.lookup key).isSome then none
    else some (entries.set key (.leaf value))) path .header entries

/-- Open the table with the last key of a path.  It must be new, or have been a step only. -/
def openTable (path : List String) (key : String) (entries : Entries) : Option Entries :=
  descend .implied (fun _ entries =>
    match entries.lookup key with
    | none => some (entries.set key (.table .header []))
    | some (.table .implied sub) => some (entries.set key (.table .header sub))
    | _ => none) path .header entries

/-- Append a table to those with the last key of a path. -/
def appendTable (path : List String) (key : String) (entries : Entries) : Option Entries :=
  descend .implied (fun _ entries =>
    match entries.lookup key with
    | none => some (entries.set key (.tables [[]]))
    | some (.tables items) => some (entries.set key (.tables (items ++ [[]])))
    | _ => none) path .header entries

mutual

/-- The finished value. -/
def Node.toValue : Node → Value
  | .leaf value => value
  | .table _ entries => .table (Node.toEntries entries)
  | .tables items => .array (Node.toTables items)

/-- The finished entries of a table. -/
def Node.toEntries : List (String × Node) → List (String × Value)
  | [] => []
  | (key, node) :: rest => (key, node.toValue) :: Node.toEntries rest

/-- The finished tables of a list. -/
def Node.toTables : List (List (String × Node)) → List Value
  | [] => []
  | entries :: rest => .table (Node.toEntries entries) :: Node.toTables rest

end

end Delegation.Toml
