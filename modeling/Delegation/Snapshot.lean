import Delegation.Java.ClassName.Order
import Delegation.Snapshot.Conversion
import Delegation.Symbol.Table

/-!
# Snapshots

The types of a compilation over all its rounds.  A type is visible from its first round on, and
generated classes join as they come.  A superclass clause means what is visible at the time, so all
clauses are read again whenever visibility changes.

## Main Definitions

* `Snapshot` — the types, found by name, and the current round.
* `Snapshot.ofDefinition` — a snapshot in round 1.
* `Snapshot.setRound`, `Snapshot.register` — go to a round; add a generated class.
* `Snapshot.table` — the symbol table of the current round.
* `Snapshot.annotatedIn`, `Snapshot.hasLaterRounds` — what a round has to process, and whether
  types are still to come.
-/

namespace Delegation

open Java

/-- The types of a compilation and the round it is in. -/
structure Snapshot where
  options : Options
  /-- The types, in the order of their declaration. -/
  entries : Array Entry
  /-- The position of each type. -/
  index : ClassMap Nat
  /-- The current round, counted from 1. -/
  round : Nat

namespace Snapshot

/-- No types, in round 1. -/
def empty (options : Options) : Snapshot := ⟨options, #[], ∅, 1⟩

/-- The entry of a name, visible or not. -/
def entry? (snapshot : Snapshot) (name : ClassName) : Option Entry :=
  snapshot.index[name]?.bind fun position => snapshot.entries[position]?

/-- Whether a type is visible in the current round. -/
def isVisible (snapshot : Snapshot) (entry : Entry) : Bool := entry.round ≤ snapshot.round

/-- The declaration of a name, if it is visible in the current round. -/
def lookup (snapshot : Snapshot) (name : ClassName) : Option TypeDecl :=
  ((snapshot.entry? name).filter snapshot.isVisible).map (·.decl)

/-- The symbol table of the current round. -/
def table (snapshot : Snapshot) : SymbolTable where
  lookup := snapshot.lookup
  root := .object
  names := snapshot.index.keys
  mem_names name visible := by
    rw [Std.TreeMap.mem_keys, Std.TreeMap.mem_iff_isSome_getElem?]
    cases present : snapshot.index[name]? with
    | some _ => rfl
    | none => simp [lookup, entry?, present] at visible

/-- The meaning of an entry's superclass clause in the current round. -/
def superclassOf (snapshot : Snapshot) (entry : Entry) : Superclass :=
  if entry.decl.kind ≠ .class_ || entry.name = .object then .absent
  else
    match entry.extends? with
    | none => .resolved .object
    | some text =>
      match ClassName.ofDotted? text with
      | some name => if (snapshot.lookup name).isSome then .resolved name else .unresolved text
      | none => .unresolved text

/-- Read every superclass clause again. -/
def refresh (snapshot : Snapshot) : Snapshot :=
  { snapshot with
    entries := snapshot.entries.map fun entry =>
      { entry with decl := { entry.decl with superclass := snapshot.superclassOf entry } } }

/-- Add an entry, whose name must be new. -/
def insert (snapshot : Snapshot) (entry : Entry) : Option Snapshot :=
  if snapshot.index.contains entry.name then none
  else some { snapshot with
    entries := snapshot.entries.push entry
    index := snapshot.index.insert entry.name snapshot.entries.size }

/-- Add the entry of a definition. -/
def declare (snapshot : Snapshot) (definition : TypeDefinition) : Except Fault Snapshot := do
  let entry ← definition.toEntry
  match snapshot.insert entry with
  | some snapshot => return snapshot
  | none => throw (.badSnapshot (.declaredTwice entry.name))

/-- Add the root class, unless it is declared. -/
def withObject (snapshot : Snapshot) : Snapshot := (snapshot.insert .object).getD snapshot

/-- The snapshot of some types, in round 1. -/
def ofTypes (types : List TypeDefinition) (options : Options) : Except Fault Snapshot := do
  let snapshot ← types.foldlM declare (empty options)
  return snapshot.withObject.refresh

/-- The snapshot that is written down, in round 1. -/
def ofDefinition (definition : SnapshotDefinition) : Except Fault Snapshot :=
  ofTypes definition.types definition.options

/-- Go to a round, forwards or backwards. -/
def setRound (snapshot : Snapshot) (round : Nat) : Snapshot :=
  { snapshot with round := max round 1 }.refresh

/-- Add a generated class, visible from the current round on.  Its name must be new. -/
def register (snapshot : Snapshot) (base : BaseClass) : Except Fault Snapshot :=
  match snapshot.insert (.ofBase base snapshot.round) with
  | some snapshot => .ok snapshot.refresh
  | none => .error (.duplicateOutput base.name.qualified)

/-- Whether types are still to come after the current round. -/
def hasLaterRounds (snapshot : Snapshot) : Bool :=
  snapshot.entries.any (snapshot.round < ·.round)

/-- The annotated types that are first visible in `round`, in the order of their declaration. -/
def annotatedIn (snapshot : Snapshot) (round : Nat) : List ClassName :=
  (snapshot.entries.toList.filter fun entry =>
    entry.decl.request?.isSome && entry.startsIn round).map Entry.name

end Snapshot

end Delegation
