import Delegation.Proofs.Keyed
import Delegation.Proofs.Snapshot.WellFormed
import Delegation.Proofs.Synthesis.Gathering

/-!
# Coverage

A base class should forward every method that its delegates bring along: each method that the
interface of a delegate declares or inherits, unless the method is static, private, or one of the
root class.  The members of an interface are picked by signature before static and private ones are
left out, so a method can be lost behind a declaration that is not forwarded itself; and the search
for members goes on to the interfaces of the root class.  These are the only two ways in which a
base class fails to cover its delegates.

## Main Definitions

* `Brings` — a delegate brings a method along.
* `Covers` — a base class forwards what its delegates bring along, and nothing else.
* `Undisturbed` — no signature is lost behind another one, and the root class adds none.

## Main Statements

* `covers_iff` — a base class covers its delegates exactly when they are undisturbed.
-/

namespace Delegation

open Java Synthesis

/-! ## What a base class should forward -/

/-- A delegate brings a method along when a type other than the root class declares the method, the
interface of the delegate inherits from that type, and the method is neither static nor private. -/
def Brings (table : SymbolTable) (delegate : Delegate) (method : Method) : Prop :=
  ∃ decl ancestor, table.lookup delegate.interface = some decl ∧ table.Inherits decl ancestor ∧
    method ∈ ancestor.methods ∧ ancestor.name ≠ table.root ∧
    method.isStatic = false ∧ method.isPrivate = false

/-- A base class forwards every signature that its delegates bring along, exactly once and to a
delegate that brings it along, and forwards no other signature. -/
structure Covers (table : SymbolTable) (plan : Plan) (base : BaseClass) : Prop where
  once : ∀ delegate ∈ plan.delegates, ∀ method, Brings table delegate method →
    ∃ forwarder, base.methods.filter (·.signature = method.signature) = [forwarder] ∧
      ∃ chosen ∈ plan.delegates, forwarder.field = chosen.field ∧
        ∃ brought, Brings table chosen brought ∧ brought.signature = method.signature
  only : ∀ forwarder ∈ base.methods, ∃ delegate ∈ plan.delegates, ∃ method,
    Brings table delegate method ∧ method.signature = forwarder.signature

/-! ## What may come between -/

/-- A delegate hides a signature when the first declaration of it along the lineage of the
delegate's interface cannot be forwarded. -/
def Hides (table : SymbolTable) (delegate : Delegate) (signature : Signature) : Prop :=
  ∃ decl first, table.lookup delegate.interface = some decl ∧
    (table.declared decl).find? (·.signature = signature) = some first ∧
    isForwardable table.root first = false

/-- A method comes from the root class or from a type that the root class inherits from. -/
def ThroughRoot (table : SymbolTable) (method : Method) : Prop :=
  ∃ root ancestor, table.lookup table.root = some root ∧ table.Inherits root ancestor ∧
    method ∈ ancestor.methods

/-- Nothing comes between the delegates of a plan and its base class. -/
structure Undisturbed (table : SymbolTable) (plan : Plan) : Prop where
  /-- A signature that one delegate brings along but hides, some delegate presents. -/
  unhidden : ∀ delegate ∈ plan.delegates, ∀ method, Brings table delegate method →
    Hides table delegate method.signature →
      ∃ other ∈ plan.delegates, ∃ first, Presents table other first ∧
        first.signature = method.signature
  /-- Where the first delegate that presents a signature does so through the root class, its field
  belongs to a delegate that brings the signature along. -/
  rootless : ∀ earlier delegate later, plan.delegates = earlier ++ delegate :: later →
    ∀ method, Presents table delegate method → ThroughRoot table method →
      (∀ other ∈ earlier, ∀ hidden, Presents table other hidden →
        hidden.signature ≠ method.signature) →
      ∃ chosen ∈ plan.delegates, chosen.field = delegate.field ∧
        ∃ brought, Brings table chosen brought ∧ brought.signature = method.signature

/-! ## Delegates in a snapshot -/

section Snapshot

variable {snapshot : Snapshot}

/-- In a snapshot, a method belongs to the root class when the root class declares it. -/
theorem isForwardable_iff (wf : snapshot.WellFormed) {decl ancestor : TypeDecl} {method : Method}
    (visible : snapshot.table.lookup decl.name = some decl)
    (inherits : snapshot.table.Inherits decl ancestor) (mem : method ∈ ancestor.methods) :
    isForwardable snapshot.table.root method ↔ ancestor.name ≠ snapshot.table.root ∧
      method.isStatic = false ∧ method.isPrivate = false := by
  have found : snapshot.table.lookup ancestor.name = some ancestor := by
    cases inherits with
    | self => exact visible
    | parent _ _ found =>
        rename_i name _
        rwa [wf.lawful _ _ found]
  rw [isForwardable, wf.owner_of_lookup found mem]
  simp only [Bool.and_eq_true, Bool.not_eq_true', bne_iff_ne]
  tauto

/-- What a delegate brings along is declared along the lineage of its interface, and can be
forwarded. -/
theorem Brings.mem_declared (wf : snapshot.WellFormed) {delegate : Delegate} {method : Method}
    (brings : Brings snapshot.table delegate method) :
    ∃ decl, snapshot.table.lookup delegate.interface = some decl ∧
      method ∈ snapshot.table.declared decl ∧ isForwardable snapshot.table.root method := by
  obtain ⟨decl, ancestor, found, inherits, mem, forwarded⟩ := brings
  have visible : snapshot.table.lookup decl.name = some decl := by
    rwa [wf.lawful _ _ found]
  exact ⟨decl, found,
    List.mem_flatMap.mpr ⟨ancestor, inherits.mem_lineage visible List.mem_cons_self, mem⟩,
    (isForwardable_iff wf visible inherits mem).mpr forwarded⟩

/-- What a delegate brings along, it presents or hides. -/
theorem presents_or_hides (wf : snapshot.WellFormed) {delegate : Delegate} {method : Method}
    (brings : Brings snapshot.table delegate method) :
    (∃ first, Presents snapshot.table delegate first ∧ first.signature = method.signature) ∨
      Hides snapshot.table delegate method.signature := by
  obtain ⟨decl, found, declared, -⟩ := brings.mem_declared wf
  cases atFirst : (snapshot.table.declared decl).find? (·.signature = method.signature) with
  | none =>
      rw [List.find?_eq_none] at atFirst
      exact absurd (decide_eq_true rfl) (atFirst method declared)
  | some first =>
      have same : first.signature = method.signature := by simpa using List.find?_some atFirst
      cases forwarded : isForwardable snapshot.table.root first with
      | true => exact .inl ⟨first, ⟨decl, found, same ▸ atFirst, forwarded⟩, same⟩
      | false => exact .inr ⟨decl, first, found, atFirst, forwarded⟩

/-- What a delegate presents, it brings along or has through the root class. -/
theorem brings_or_throughRoot (wf : snapshot.WellFormed) {delegate : Delegate} {method : Method}
    (presents : Presents snapshot.table delegate method) :
    Brings snapshot.table delegate method ∨ ThroughRoot snapshot.table method := by
  obtain ⟨decl, found, first, forwarded⟩ := presents
  have visible : snapshot.table.lookup decl.name = some decl := by
    rwa [wf.lawful _ _ found]
  obtain ⟨ancestor, listed, mem⟩ := List.mem_flatMap.mp (List.mem_of_find?_eq_some first)
  rcases (SymbolTable.mem_lineage_iff visible).mp listed with inherits | ⟨root, atRoot, inherits⟩
  · exact .inl ⟨decl, ancestor, found, inherits, mem,
      (isForwardable_iff wf visible inherits mem).mp forwarded⟩
  · exact .inr ⟨root, ancestor, atRoot, inherits, mem⟩

/-- A method that is presented through the root class is not one of the root class itself. -/
theorem not_throughRoot (wf : snapshot.WellFormed) {delegate : Delegate} {method : Method}
    (presents : Presents snapshot.table delegate method)
    (bare : ∀ root, snapshot.table.lookup snapshot.table.root = some root → root.interfaces = []) :
    ¬ ThroughRoot snapshot.table method := by
  rintro ⟨root, ancestor, found, inherits, mem⟩
  obtain ⟨-, -, -, forwarded⟩ := presents
  have noParent : ∀ middle, snapshot.table.Inherits root middle → middle = root := by
    intro middle inherits
    induction inherits with
    | self => rfl
    | parent _ listed _ ih =>
        rw [ih, bare root found] at listed
        cases listed
  rw [noParent ancestor inherits] at mem
  rw [isForwardable, wf.owner_of_lookup found mem] at forwarded
  simp at forwarded

/-- Where delegates are undisturbed, methods are forwarded to delegates that bring them along. -/
theorem Undisturbed.brought (wf : snapshot.WellFormed) {plan : Plan} {result : Synthesised}
    (undisturbed : Undisturbed snapshot.table plan)
    (ok : synthesise snapshot.table plan = .ok result) {forwarder : Forwarder}
    (listed : forwarder ∈ result.base.methods) :
    ∃ chosen ∈ plan.delegates, forwarder.field = chosen.field ∧
      ∃ brought, Brings snapshot.table chosen brought ∧
        brought.signature = forwarder.signature := by
  obtain ⟨delegate, method, presents, rfl, earlier, later, split, first⟩ :=
    (mem_methods_of_synthesise_iff ok).mp listed
  rcases brings_or_throughRoot wf presents with brings | throughRoot
  · exact ⟨delegate, by simp [split], rfl, method, brings, rfl⟩
  · obtain ⟨chosen, mem, field, brought⟩ :=
      undisturbed.rootless earlier delegate later split method presents throughRoot first
    exact ⟨chosen, mem, field.symm, brought⟩

/-- Delegates are undisturbed when the root class has no interfaces and, along the lineage of each
interface, the first declaration of a signature can be forwarded if any other can. -/
theorem undisturbed_of_agreement (wf : snapshot.WellFormed) {plan : Plan}
    (bare : ∀ root, snapshot.table.lookup snapshot.table.root = some root → root.interfaces = [])
    (agree : ∀ delegate ∈ plan.delegates, ∀ decl,
      snapshot.table.lookup delegate.interface = some decl →
      ∀ method ∈ snapshot.table.declared decl, isForwardable snapshot.table.root method →
        ((snapshot.table.declared decl).find? (·.signature = method.signature)).all
          (isForwardable snapshot.table.root)) :
    Undisturbed snapshot.table plan where
  unhidden delegate mem method brings := by
    rintro ⟨decl, first, found, atFirst, lost⟩
    obtain ⟨other, foundOther, declared, forwarded⟩ := brings.mem_declared wf
    rw [found] at foundOther
    cases foundOther
    have agreed := agree delegate mem decl found method declared forwarded
    rw [atFirst, Option.all_some, lost] at agreed
    cases agreed
  rootless _ _ _ _ _ presents throughRoot := absurd throughRoot (not_throughRoot wf presents bare)

/-- **A base class covers its delegates exactly when they are undisturbed.**  In every snapshot, in
every round and for every plan that a base class is synthesised for, no signature is forwarded
twice; and the methods are exactly those that the delegates bring along, unless a delegate's
signature is lost behind a declaration that is not forwarded, or first comes in through the root
class. -/
theorem covers_iff (reached : snapshot.Reached) {plan : Plan} {result : Synthesised}
    (ok : synthesise snapshot.table plan = .ok result) :
    (result.base.methods.map Forwarder.signature).Nodup ∧
      (Covers snapshot.table plan result.base ↔ Undisturbed snapshot.table plan) := by
  have wf := reached.wellFormed
  have nodup := nodup_signatures_of_synthesise ok
  refine ⟨nodup, fun covers => ⟨?_, ?_⟩, fun undisturbed => ⟨?_, ?_⟩⟩
  -- A signature that is forwarded is presented by some delegate, so none is lost.
  · intro delegate mem method brings _
    obtain ⟨forwarder, only, -⟩ := covers.once delegate mem method brings
    refine (exists_mem_methods_iff ok).mp ⟨forwarder, ?_⟩
    have listed : forwarder ∈ result.base.methods.filter (·.signature = method.signature) := by
      simp [only]
    simpa using List.mem_filter.mp listed
  -- The method at hand is the one that is forwarded, so it is the one that `covers.once` is about.
  · intro earlier delegate later split method presents _ first
    have forwarded := (mem_methods_of_synthesise_iff ok).mpr
      ⟨delegate, method, presents, rfl, earlier, later, split, first⟩
    obtain ⟨other, mem, brought, brings, same⟩ := covers.only _ forwarded
    obtain ⟨forwarder, only, chosen, listed, field, rest⟩ := covers.once other mem brought brings
    have this : forward delegate.field method ∈
        result.base.methods.filter (·.signature = brought.signature) :=
      List.mem_filter.mpr ⟨forwarded, decide_eq_true same.symm⟩
    rw [only, List.mem_singleton] at this
    obtain ⟨found, bringsFound, sameFound⟩ := rest
    exact ⟨chosen, listed, by rw [← field, ← this]; rfl, found, bringsFound, sameFound.trans same⟩
  · intro delegate mem method brings
    have presented : ∃ other ∈ plan.delegates, ∃ first, Presents snapshot.table other first ∧
        first.signature = method.signature := by
      rcases presents_or_hides wf brings with ⟨first, presents, same⟩ | hides
      · exact ⟨delegate, mem, first, presents, same⟩
      · exact undisturbed.unhidden delegate mem method brings hides
    obtain ⟨forwarder, listed, same⟩ := (exists_mem_methods_iff ok).mpr presented
    refine ⟨forwarder, by rw [← same]; exact filter_eq_singleton nodup listed, ?_⟩
    rw [← same]
    exact undisturbed.brought wf ok listed
  · intro forwarder listed
    obtain ⟨chosen, mem, -, brought⟩ := undisturbed.brought wf ok listed
    exact ⟨chosen, mem, brought⟩

end Snapshot

/-! ## Two hierarchies -/

/-- A class that delegates to an interface `I`. -/
def delegatesToI : TypeDefinition :=
  { name := "foo.C", kind := .class_, extends? := some "foo.AutoDelegate_C"
    request? := some ⟨[⟨"foo.I", some "i"⟩], none⟩ }

/-- The plan for the class. -/
def planToI : Plan :=
  ⟨⟨"foo", "C", []⟩, ⟨"foo", "AutoDelegate_C", []⟩, .object, [⟨⟨"foo", "I", []⟩, "i"⟩]⟩

/-- `I` inherits a method `m` from both of its interfaces, and `n` from the second one. -/
def sharedMethod : List TypeDefinition :=
  [{ name := "foo.A", kind := .interface, methods := [{ name := "m" }] },
   { name := "foo.B", kind := .interface, methods := [{ name := "m" }, { name := "n" }] },
   { name := "foo.I", kind := .interface, interfaces := ["foo.A", "foo.B"] },
   delegatesToI]

/-- `I` inherits a static method `m` from its first interface, and another one from the second. -/
def staticMethodFirst : List TypeDefinition :=
  [{ name := "foo.A", kind := .interface, methods := [{ name := "m", modifiers := [.static] }] },
   { name := "foo.B", kind := .interface, methods := [{ name := "m" }] },
   { name := "foo.I", kind := .interface, interfaces := ["foo.A", "foo.B"] },
   delegatesToI]

/-- A method that is inherited twice is forwarded once. -/
theorem covers_sharedMethod :
    let table := (Snapshot.sample sharedMethod).table
    (Snapshot.sample sharedMethod).Reached ∧
    (table.lookup ⟨"foo", "C", []⟩).map (validate table) = some (.accepted planToI) ∧
    ∃ result, synthesise table planToI = .ok result ∧ Covers table planToI result.base ∧
      result.base.methods.map (·.name) = ["m", "n"] := by
  intro table
  have reached : (Snapshot.sample sharedMethod).Reached :=
    .read (Snapshot.ofTypes_sample (by decide +kernel))
  have methods : (synthesise table planToI).toOption.map (·.base.methods.map (·.name)) =
      some ["m", "n"] := by decide +kernel
  have undisturbed : Undisturbed table planToI := by
    refine undisturbed_of_agreement reached.wellFormed ?_ ?_
    · have bare : (table.lookup .object).all (·.interfaces.isEmpty) := by decide +kernel
      intro root found
      rw [show table.lookup .object = some root from found] at bare
      simpa using bare
    · have agree : (table.lookup ⟨"foo", "I", []⟩).all fun decl =>
          (table.declared decl).all fun method => isForwardable .object method →
            ((table.declared decl).find? (·.signature = method.signature)).all
              (isForwardable .object) := by decide +kernel
      intro delegate mem decl found
      obtain rfl : delegate = ⟨⟨"foo", "I", []⟩, "i"⟩ := by simpa [planToI] using mem
      rw [show table.lookup ⟨"foo", "I", []⟩ = some decl from found, Option.all_some] at agree
      intro method declared
      exact of_decide_eq_true (List.all_eq_true.mp agree method declared)
  cases ok : synthesise table planToI with
  | error obstacle => simp [ok, Except.toOption] at methods
  | ok result =>
      simp only [ok, Except.toOption, Option.map_some, Option.some.injEq] at methods
      exact ⟨reached, by decide +kernel, result, rfl, (covers_iff reached ok).2.mpr undisturbed,
        methods⟩

/-- A static method takes the method with it that it hides. -/
theorem not_covers_staticMethodFirst :
    let table := (Snapshot.sample staticMethodFirst).table
    (Snapshot.sample staticMethodFirst).Reached ∧
    (table.lookup ⟨"foo", "C", []⟩).map (validate table) = some (.accepted planToI) ∧
    ∃ result, synthesise table planToI = .ok result ∧ ¬ Covers table planToI result.base := by
  intro table
  have methods : (synthesise table planToI).toOption.map (·.base.methods) = some [] := by
    decide +kernel
  have brought : ∃ method, Brings table ⟨⟨"foo", "I", []⟩, "i"⟩ method := by
    have inherits : (table.lookup ⟨"foo", "I", []⟩).map (·.interfaces) =
        some [⟨"foo", "A", []⟩, ⟨"foo", "B", []⟩] := by decide +kernel
    have declares : (table.lookup ⟨"foo", "B", []⟩).any fun decl => decl.name ≠ table.root &&
        decl.methods.any fun method => !method.isStatic && !method.isPrivate := by decide +kernel
    obtain ⟨decl, found, interfaces⟩ := Option.map_eq_some_iff.mp inherits
    obtain ⟨ancestor, foundAncestor, declares⟩ := (Option.any_eq_true _ _).mp declares
    simp only [ne_eq, Bool.and_eq_true, decide_eq_true_eq, List.any_eq_true,
      Bool.not_eq_true'] at declares
    obtain ⟨different, method, mem, instance_, public_⟩ := declares
    have listed : (⟨"foo", "B", []⟩ : ClassName) ∈ decl.interfaces := by simp [interfaces]
    exact ⟨method, decl, ancestor, found, .parent .self listed foundAncestor, mem, different,
      instance_, public_⟩
  cases ok : synthesise table planToI with
  | error obstacle => simp [ok, Except.toOption] at methods
  | ok result =>
      simp only [ok, Except.toOption, Option.map_some, Option.some.injEq] at methods
      refine ⟨.read (Snapshot.ofTypes_sample (by decide +kernel)), by decide +kernel, result, rfl,
        ?_⟩
      intro covers
      obtain ⟨method, brings⟩ := brought
      obtain ⟨forwarder, only, -⟩ := covers.once _ List.mem_cons_self method brings
      simp [methods] at only

end Delegation
