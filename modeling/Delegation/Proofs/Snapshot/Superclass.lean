import Delegation.Proofs.Snapshot.Order

/-!
# What a class extends

A superclass clause names a class, and a class without a clause means the root class; which class
that is never changes.  What changes from round to round is whether the class is there, and only
then the clause is resolved.  So the resolved references of a snapshot can be read off what is
written in it.

## Main Definitions

* `Entry.clause?` — the class that an entry is written to extend.
* `Snapshot.Extends` — a class that is visible extends another one, as far as its clause is resolved.

## Main Statements

* `Snapshot.Reached.lookup_eq_some_iff` — what a name denotes, given what is written.
* `Snapshot.superclassOf_eq_resolved_iff` — when a clause is resolved.
* `Snapshot.Reached.extends_iff` — both together.
-/

namespace Delegation

open Java

/-! ## What is written -/

/-- The class that an entry is written to extend: the one that its clause names, or the root class
if it has no clause.  The root class extends nothing, and neither does what is no class. -/
def Entry.clause? (entry : Entry) : Option ClassName :=
  if entry.decl.kind ≠ .class_ ∨ entry.name = .object then none
  else
    match entry.extends? with
    | none => some .object
    | some text => ClassName.ofDotted? text

namespace Snapshot

variable {snapshot : Snapshot}

/-- A class that is visible extends another one: its superclass clause is resolved. -/
def Extends (snapshot : Snapshot) (class_ superclass : ClassName) : Prop :=
  ∃ decl, snapshot.lookup class_ = some decl ∧ decl.superclass = .resolved superclass

/-! ## What it means in a round -/

/-- A name is written once. -/
theorem Reached.eq_of_name_eq (reached : snapshot.Reached) {entry other : Entry}
    (mem : entry ∈ snapshot.written) (otherMem : other ∈ snapshot.written)
    (same : entry.name = other.name) : entry = other := by
  have nodup := reached.wellFormed.nodup_entryNames
  rw [← map_name_written] at nodup
  exact List.inj_on_of_nodup_map nodup mem otherMem same

/-- A name denotes the entry that is written under it, once its round has come, with the meaning
that its superclass clause has then. -/
theorem Reached.lookup_eq_some_iff (reached : snapshot.Reached) {name : ClassName}
    {decl : TypeDecl} : snapshot.lookup name = some decl ↔
      ∃ entry ∈ snapshot.written, entry.name = name ∧ entry.round ≤ snapshot.round ∧
        (snapshot.reread entry).decl = decl := by
  rw [reached.wellFormed.lookup_eq_some_iff, reached.entries_eq]
  simp only [List.mem_map, exists_exists_and_eq_and]
  rfl

/-- A clause is resolved when the class that it names is visible.  The root class need not be: a
class without a clause extends it in any case. -/
theorem superclassOf_eq_resolved_iff {entry : Entry} {superclass : ClassName} :
    snapshot.superclassOf entry = .resolved superclass ↔
      entry.clause? = some superclass ∧
        (entry.extends? = none ∨ (snapshot.lookup superclass).isSome) := by
  unfold superclassOf Entry.clause?
  simp only [Bool.or_eq_true, decide_eq_true_eq]
  split
  · simp
  · cases entry.extends? with
    | none => simp
    | some text =>
        cases read : ClassName.ofDotted? text with
        | none => simp [read]
        | some name =>
            simp only [read]
            constructor
            · intro resolved
              split at resolved
              · rename_i visible
                cases resolved
                exact ⟨rfl, .inr visible⟩
              · cases resolved
            · rintro ⟨same, none_written | visible⟩
              · cases none_written
              · cases same
                rw [if_pos visible]

/-- What the clause of a class means: the class that it names if that is visible, else nothing. -/
theorem superclassOf_of_clause (snapshot : Snapshot) {entry : Entry} {clause : String}
    (isClass : entry.decl.kind = .class_) (proper : entry.name ≠ .object)
    (said : entry.extends? = some clause) :
    snapshot.superclassOf entry =
      match ClassName.ofDotted? clause with
      | some name => if (snapshot.lookup name).isSome then .resolved name else .unresolved clause
      | none => .unresolved clause := by
  cases names : ClassName.ofDotted? clause with
  | none => simp [superclassOf, isClass, proper, said, names]
  | some name => simp [superclassOf, isClass, proper, said, names]

/-- A class extends the class that it is written to extend, once both are visible. -/
theorem Reached.extends_iff (reached : snapshot.Reached) {class_ superclass : ClassName} :
    snapshot.Extends class_ superclass ↔
      ∃ entry ∈ snapshot.written, entry.name = class_ ∧ entry.round ≤ snapshot.round ∧
        entry.clause? = some superclass ∧
        (entry.extends? = none ∨ (snapshot.lookup superclass).isSome) := by
  constructor
  · rintro ⟨decl, found, resolved⟩
    obtain ⟨entry, mem, named, appeared, rfl⟩ := reached.lookup_eq_some_iff.mp found
    exact ⟨entry, mem, named, appeared, superclassOf_eq_resolved_iff.mp resolved⟩
  · rintro ⟨entry, mem, named, appeared, resolved⟩
    exact ⟨_, reached.lookup_eq_some_iff.mpr ⟨entry, mem, named, appeared, rfl⟩,
      superclassOf_eq_resolved_iff.mpr resolved⟩

end Snapshot

end Delegation
