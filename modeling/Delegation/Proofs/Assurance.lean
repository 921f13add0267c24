import Delegation.Proofs.Snapshot.WellFormed
import Delegation.Proofs.Validation.Survey

/-!
# What an accepted plan assures

A plan is accepted after everything that the request names has been looked up, and the synthesis
looks it up again in the same table.  So the second look finds what the first one found, and the
plan is not contradicted.  There is one exception: the root class enters the plan of a request that
names no class to extend, and then nobody has looked for it before.

## Main Definitions

* `Snapshot.RootUnfit` — the root class cannot be extended, and how a plan is told so.

## Main Statements

* `superclass_of_validate` — what the first look has found to extend.
* `Snapshot.contradicted_iff` — an accepted plan is contradicted exactly when it extends the root
  class for want of another and that cannot be extended, unless it is put off before.
-/

namespace Delegation

open Java Synthesis Validation

/-! ## The first look -/

variable {table : SymbolTable} {decl : TypeDecl} {plan : Plan}

/-- An accepted plan extends a visible class, or else the root class because the request does not
say what to extend. -/
theorem superclass_of_validate (lawful : table.Lawful)
    (accepted : validate table decl = .accepted plan) :
    (decl.request.extend? = none ∧ plan.superclass = table.root) ∨
      (decl.request.extend? ≠ none ∧
        ∃ parent, table.lookup plan.superclass = some parent ∧ parent.kind = .class_) := by
  obtain ⟨survey, superclass, -, found, -, -, -, -, rfl⟩ := validate_eq_accepted_iff.mp accepted
  cases said : decl.request.extend? with
  | none =>
      rw [said] at found
      cases found
      exact .inl ⟨rfl, rfl⟩
  | some value =>
      rw [said, superclassOf_some_eq_iff lawful] at found
      exact .inr ⟨Option.some_ne_none value, found.2⟩

/-! ## The second look -/

/-- A delegate with a visible interface contradicts nothing. -/
theorem Synthesis.delegateDecl_ne_contradicts {delegate : Delegate} {interface : TypeDecl}
    (found : table.lookup delegate.interface = some interface)
    (isInterface : interface.kind = .interface) (contradiction : Contradiction) :
    delegateDecl table delegate ≠ .error (.contradicts contradiction) := by
  intro contradicted
  simp only [delegateDecl, found, if_pos isInterface] at contradicted
  cases missing : table.missingParent? interface <;> rw [missing] at contradicted <;>
    cases contradicted

/-- If all delegates have visible interfaces, a plan is contradicted exactly when no parent of these
is awaited and the superclass has no declaration. -/
theorem synthesise_eq_contradicts_iff
    (visible : ∀ delegate ∈ plan.delegates,
      ∃ decl, table.lookup delegate.interface = some decl ∧ decl.kind = .interface)
    {contradiction : Contradiction} :
    synthesise table plan = .error (.contradicts contradiction) ↔
      (∀ delegate ∈ plan.delegates, ∀ decl, table.lookup delegate.interface = some decl →
        table.missingParent? decl = none) ∧
      superclassDecl table plan.superclass = .error (.contradicts contradiction) := by
  have looked : synthesise table plan = .error (.contradicts contradiction) ↔
      (∃ decls, plan.delegates.mapM (delegateDecl table) = .ok decls) ∧
        superclassDecl table plan.superclass = .error (.contradicts contradiction) := by
    rw [synthesise, bind_eq_error_iff]
    constructor
    · rintro (failed | ⟨decls, all, failed⟩)
      · obtain ⟨delegate, mem, contradicted⟩ := exists_of_mapM_eq_error failed
        obtain ⟨interface, found, isInterface⟩ := visible delegate mem
        exact absurd contradicted (delegateDecl_ne_contradicts found isInterface contradiction)
      · rcases bind_eq_error_iff.mp failed with extended | ⟨superclass, -, failed⟩
        · exact ⟨⟨decls, all⟩, extended⟩
        · cases failed
    · rintro ⟨⟨decls, all⟩, failed⟩
      exact .inr ⟨decls, all, bind_eq_error_iff.mpr (.inl failed)⟩
  rw [looked]
  refine and_congr_left fun _ =>
    ⟨fun ⟨decls, all⟩ delegate mem interface found => ?_, fun all => ?_⟩
  · obtain ⟨declared, -, known⟩ := exists_of_forall₂_of_mem (mapM_eq_ok_iff.mp all).flip mem
    obtain ⟨same, -, complete⟩ := delegateDecl_eq_ok_iff.mp known
    rw [found] at same
    cases same
    exact complete
  · refine exists_mapM_eq_ok fun delegate mem => ?_
    obtain ⟨interface, found, isInterface⟩ := visible delegate mem
    exact ⟨interface, delegateDecl_eq_ok_iff.mpr
      ⟨found, isInterface, all delegate mem interface found⟩⟩

/-! ## The root class -/

namespace Snapshot

variable {snapshot : Snapshot}

/-- The root class cannot be extended in the current round, with what a plan is told then. -/
inductive RootUnfit (snapshot : Snapshot) : Contradiction → Prop
  /-- It is yet to come. -/
  | unseen (missing : snapshot.lookup .object = none) :
      RootUnfit snapshot (.superclassNotVisible .object)
  /-- It is declared as something else than a class. -/
  | noClass {root : TypeDecl} (found : snapshot.lookup .object = some root)
      (other : root.kind ≠ .class_) : RootUnfit snapshot (.superclassNotClass .object)

/-- Looking the root class up fails when it cannot be extended. -/
theorem superclassDecl_object_eq_error_iff {contradiction : Contradiction} :
    superclassDecl snapshot.table .object = .error (.contradicts contradiction) ↔
      snapshot.RootUnfit contradiction := by
  constructor
  · intro failed
    unfold superclassDecl at failed
    split at failed
    · rename_i missing
      cases failed
      exact .unseen missing
    · rename_i root found
      split at failed
      · cases failed
      · rename_i other
        cases failed
        exact .noClass found other
  · rintro (missing | ⟨found, other⟩)
    · simp only [superclassDecl, table, missing]
    · simp only [superclassDecl, table, found, if_neg other]

/-- **An accepted plan is contradicted only by the root class.**  This happens exactly when the
request does not say what to extend, the root class cannot be extended, and no delegate is waiting
for one of its parents. -/
theorem contradicted_iff (reached : snapshot.Reached) {decl : TypeDecl} {plan : Plan}
    (accepted : validate snapshot.table decl = .accepted plan) {contradiction : Contradiction} :
    synthesise snapshot.table plan = .error (.contradicts contradiction) ↔
      decl.request.extend? = none ∧ snapshot.RootUnfit contradiction ∧
        ∀ delegate ∈ plan.delegates, ∀ interface,
          snapshot.lookup delegate.interface = some interface →
            snapshot.table.missingParent? interface = none := by
  have lawful := reached.wellFormed.lawful
  rw [synthesise_eq_contradicts_iff fun delegate mem => interface_of_validate lawful accepted mem]
  rcases superclass_of_validate lawful accepted with ⟨unsaid, root⟩ | ⟨said, parent, found, isClass⟩
  · rw [root, show snapshot.table.root = .object from rfl, superclassDecl_object_eq_error_iff]
    exact ⟨fun ⟨complete, unfit⟩ => ⟨unsaid, unfit, complete⟩,
      fun ⟨_, unfit, complete⟩ => ⟨complete, unfit⟩⟩
  · have extended := superclassDecl_eq_ok_iff.mpr ⟨found, isClass⟩
    refine ⟨fun ⟨_, failed⟩ => ?_, fun ⟨unsaid, _⟩ => absurd unsaid said⟩
    rw [extended] at failed
    cases failed

/-- A class with an empty request, and the root class, which is still to come. -/
def rootToCome : List TypeDefinition :=
  [{ name := "java.lang.Object", kind := .class_, round := 2 },
   { name := "foo.C", kind := .class_, extends? := some "foo.AutoDelegate_C"
     request? := some .empty }]

/-- The request is accepted, and then its plan is contradicted. -/
theorem contradicted_rootToCome :
    let snapshot := sample rootToCome
    let decl := (snapshot.lookup ⟨"foo", "C", []⟩).getD default
    let plan : Plan := ⟨⟨"foo", "C", []⟩, ⟨"foo", "AutoDelegate_C", []⟩, .object, []⟩
    ofTypes rootToCome .standard = .ok snapshot ∧
    snapshot.lookup ⟨"foo", "C", []⟩ = some decl ∧
    validate snapshot.table decl = .accepted plan ∧
    synthesise snapshot.table plan = .error (.contradicts (.superclassNotVisible .object)) := by
  intro snapshot decl plan
  have read : ofTypes rootToCome .standard = .ok snapshot := ofTypes_sample (by decide +kernel)
  have accepted : validate snapshot.table decl = .accepted plan := by decide +kernel
  refine ⟨read, by decide +kernel, accepted, ?_⟩
  refine (contradicted_iff (.read read) accepted).mpr ⟨by decide +kernel, ?_, nofun⟩
  exact .unseen (by decide +kernel)

end Snapshot

end Delegation
