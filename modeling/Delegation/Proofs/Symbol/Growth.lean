import Delegation.Proofs.Acceptance
import Delegation.Proofs.Symbol.Reach

/-!
# Tables that grow

From round to round a symbol table gets more declarations, and more superclass clauses are resolved.
Nothing else about a declaration changes.  So whatever does not depend on superclasses and does not
ask for something to be missing stays as it is; in particular, what a name denotes and what a type
inherits through its interfaces.

## Main Definitions

* `SymbolTable.GrowsTo` — a table becomes another one.
* `SymbolTable.Closed` — everything that a type inherits from is visible.
* `SymbolTable.Denotes` — an entry of a list of delegates stands for an interface.

## Main Statements

* `SymbolTable.missingParent?_eq_none_iff` — the search for a missing parent finds what is missing.
* `SymbolTable.GrowsTo.closed`, `SymbolTable.GrowsTo.denotes` — what stays.
-/

namespace Delegation

open Java

namespace SymbolTable

/-- A table becomes another one: what is visible stays visible and unchanged, except that more may be
known about its superclass. -/
def GrowsTo (table later : SymbolTable) : Prop :=
  ∀ name decl, table.lookup name = some decl →
    ∃ superclass, later.lookup name = some { decl with superclass }

/-- Every interface that a type inherits from, through whatever chain, is visible. -/
def Closed (table : SymbolTable) (decl : TypeDecl) : Prop :=
  ∀ ancestor, table.Inherits decl ancestor → ∀ parent ∈ ancestor.interfaces, table.isVisible parent

/-- An entry of a list of delegates asks for no field name and stands for an interface, and nothing
that this inherits from is missing. -/
structure Denotes (table : SymbolTable) (asked : DelegateEntry) (interface : ClassName) : Prop where
  unnamed : asked.fieldName? = none
  declared : ∃ decl, table.resolve asked.interface = .declared decl ∧ decl.name = interface ∧
    decl.kind = .interface ∧ table.Closed decl

variable {table later : SymbolTable}

/-- No parent of a visible type is missing exactly when everything that it inherits from is
visible. -/
theorem missingParent?_eq_none_iff {decl : TypeDecl}
    (visible : table.lookup decl.name = some decl) :
    table.missingParent? decl = none ↔ table.Closed decl := by
  rw [missingParent?, List.find?_eq_none]
  simp only [Bool.not_eq_true', Bool.not_eq_false]
  constructor
  · intro all ancestor inherits parent listed
    exact all parent (List.mem_flatMap.mpr ⟨ancestor, inherits.mem_reach visible, listed⟩)
  · intro closed parent listed
    obtain ⟨ancestor, reached, among⟩ := List.mem_flatMap.mp listed
    rcases List.mem_cons.mp reached with rfl | reached
    · exact closed ancestor .self parent among
    · obtain ⟨name, extended, next, found, inherits⟩ := inherits_of_mem_reach reached
      exact closed ancestor (.ofParent extended found inherits) parent among

namespace GrowsTo

/-- What is visible stays visible. -/
theorem isVisible (grows : table.GrowsTo later) {name : ClassName} (visible : table.isVisible name) :
    later.isVisible name := by
  obtain ⟨decl, found⟩ := Option.isSome_iff_exists.mp visible
  obtain ⟨superclass, foundLater⟩ := grows name decl found
  exact Option.isSome_iff_exists.mpr ⟨_, foundLater⟩

/-- Where nothing is missing, a type goes on to inherit from the same interfaces, with the same
interfaces each. -/
theorem exists_inherits (grows : table.GrowsTo later) {decl grown : TypeDecl}
    (same : grown.interfaces = decl.interfaces) (closed : table.Closed decl) {ancestor : TypeDecl}
    (inherits : later.Inherits grown ancestor) :
    ∃ before, table.Inherits decl before ∧ ancestor.interfaces = before.interfaces := by
  induction inherits with
  | self => exact ⟨decl, .self, same⟩
  | @parent middle ancestor name _ listed found ih =>
      obtain ⟨before, inherits, sameMiddle⟩ := ih
      rw [sameMiddle] at listed
      obtain ⟨next, foundBefore⟩ :=
        Option.isSome_iff_exists.mp (closed before inherits name listed)
      obtain ⟨superclass, foundLater⟩ := grows name next foundBefore
      rw [found] at foundLater
      refine ⟨next, .parent inherits listed foundBefore, ?_⟩
      rw [Option.some.inj foundLater]

/-- Where nothing is missing, nothing will be. -/
theorem closed (grows : table.GrowsTo later) {decl grown : TypeDecl}
    (same : grown.interfaces = decl.interfaces) (closed : table.Closed decl) :
    later.Closed grown := by
  intro ancestor inherits parent listed
  obtain ⟨before, inheritsBefore, sameInterfaces⟩ := grows.exists_inherits same closed inherits
  rw [sameInterfaces] at listed
  exact grows.isVisible (closed before inheritsBefore parent listed)

/-- What an entry stands for, it goes on to stand for. -/
theorem denotes (grows : table.GrowsTo later) {asked : DelegateEntry} {interface : ClassName}
    (denotes : table.Denotes asked interface) : later.Denotes asked interface := by
  obtain ⟨unnamed, decl, resolved, named, isInterface, closed⟩ := denotes
  obtain ⟨name, read, found⟩ := resolve_eq_declared_iff.mp resolved
  obtain ⟨superclass, foundLater⟩ := grows name decl found
  have stillClosed : later.Closed { decl with superclass } :=
    grows.closed (show _ = decl.interfaces from rfl) closed
  exact ⟨unnamed, _, resolve_eq_declared_iff.mpr ⟨name, read, foundLater⟩, named, isInterface,
    stillClosed⟩

end GrowsTo

end SymbolTable

end Delegation
