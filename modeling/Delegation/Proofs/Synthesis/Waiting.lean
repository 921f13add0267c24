import Delegation.Proofs.Assurance
import Delegation.Proofs.Compilation.Links
import Delegation.Proofs.Symbol.Gaps

/-!
# Waiting for parents

A class with an accepted plan waits while one of its delegates has a gap in its hierarchy.  When it
is generated, there is no gap, and so its delegates inherit all that they ever will.

## Main Statements

* `exists_awaits_iff` — a plan waits when a parent of a delegate is missing.
* `SymbolTable.Lawful.waits_and_settles` — when a class waits, and what it gets when it does not.
-/

namespace Delegation

open Java Synthesis

variable {table : SymbolTable} {plan : Plan}

/-- If all delegates have visible interfaces, a plan waits when a parent of one of these is missing. -/
theorem exists_awaits_iff
    (visible : ∀ delegate ∈ plan.delegates,
      ∃ decl, table.lookup delegate.interface = some decl ∧ decl.kind = .interface) :
    (∃ parent, synthesise table plan = .error (.awaits parent)) ↔
      ∃ delegate ∈ plan.delegates, ∃ interface,
        table.lookup delegate.interface = some interface ∧
          (table.missingParent? interface).isSome := by
  constructor
  · rintro ⟨parent, awaits⟩
    obtain ⟨delegate, mem, interface, found, missing⟩ := exists_missingParent_of_synthesise awaits
    exact ⟨delegate, mem, interface, found, missing ▸ rfl⟩
  · rintro ⟨delegate, mem, interface, found, missing⟩
    have incomplete : table.missingParent? interface ≠ none := by
      rwa [← Option.isSome_iff_ne_none]
    cases outcome : synthesise table plan with
    | ok result =>
        obtain ⟨decls, -, read, -, -⟩ := synthesise_eq_ok_iff.mp outcome
        obtain ⟨decl, -, known⟩ := exists_of_forall₂_of_mem (mapM_eq_ok_iff.mp read).flip mem
        obtain ⟨foundToo, -, complete⟩ := delegateDecl_eq_ok_iff.mp known
        rw [found] at foundToo
        cases foundToo
        exact absurd complete incomplete
    | error obstacle =>
        cases obstacle with
        | awaits parent => exact ⟨parent, rfl⟩
        | contradicts contradiction =>
            obtain ⟨complete, -⟩ := (synthesise_eq_contradicts_iff visible).mp outcome
            exact absurd (complete delegate mem interface found) incomplete

/-- The delegates of a class that is generated have no gaps. -/
theorem closed_of_synthesise (lawful : table.Lawful) {result : Synthesised}
    (ok : synthesise table plan = .ok result) {delegate : Delegate}
    (mem : delegate ∈ plan.delegates) : ∃ interface,
      table.lookup delegate.interface = some interface ∧
      table.lookup interface.name = some interface ∧ table.Closed interface := by
  obtain ⟨decls, -, read, -, -⟩ := synthesise_eq_ok_iff.mp ok
  obtain ⟨interface, -, known⟩ := exists_of_forall₂_of_mem (mapM_eq_ok_iff.mp read).flip mem
  obtain ⟨found, -, complete⟩ := delegateDecl_eq_ok_iff.mp known
  have visible : table.lookup interface.name = some interface := by rwa [lawful _ _ found]
  exact ⟨interface, found, visible, (SymbolTable.missingParent?_eq_none_iff visible).mp complete⟩

namespace SymbolTable

/-- **When a class waits, and what it gets when it does not.**  An accepted plan waits exactly when a
chain of interfaces leads from one of its delegates to a name that is not visible.  The search for
such a name looks at the ancestry of a delegate; whatever the hierarchy is like, it ends, as it goes
to each name at most once, and a search with a stack that stops at the first such name agrees with
it.  When the class is generated, each of its delegates has all that it will ever inherit. -/
theorem Lawful.waits_and_settles (lawful : table.Lawful) {decl : TypeDecl}
    (accepted : validate table decl = .accepted plan) :
    ((∃ parent, synthesise table plan = .error (.awaits parent)) ↔
      ∃ delegate ∈ plan.delegates, ∃ interface,
        table.lookup delegate.interface = some interface ∧
        ∃ name, table.LeadsTo interface name ∧ table.lookup name = none) ∧
    (∀ interface, table.lookup interface.name = some interface →
      table.missingParent? interface =
        ((table.ancestry interface).flatMap (·.interfaces)).find? (!table.isVisible ·) ∧
      ((table.ancestry interface).map (·.name)).Nodup ∧
      (table.ancestry interface).length ≤ table.names.length ∧
      ((table.firstGap? [] [interface.name]).isSome ↔
        (table.missingParent? interface).isSome)) ∧
    ∀ result, synthesise table plan = .ok result → ∀ delegate ∈ plan.delegates, ∃ interface,
      table.lookup delegate.interface = some interface ∧ table.Settled interface := by
  refine ⟨?_, fun interface visible => ?_, fun result ok delegate mem => ?_⟩
  · rw [exists_awaits_iff fun delegate mem => interface_of_validate lawful accepted mem]
    refine exists_congr fun delegate => and_congr_right fun _ => exists_congr fun interface =>
      and_congr_right fun found => ?_
    exact isSome_missingParent?_iff (by rwa [lawful _ _ found])
  · obtain ⟨different, bounded⟩ := lawful.length_ancestry_le visible
    exact ⟨rfl, different, bounded, isSome_firstGap? visible⟩
  · obtain ⟨interface, found, visible, closed⟩ := closed_of_synthesise lawful ok mem
    exact ⟨interface, found, lawful.settled_of_closed visible closed⟩

/-- `I` and `A` inherit from each other.  `J` inherits from both of them, and from `B`, a parent of
which is still to come.  `C` delegates to `I`, and `D` delegates to `I` and `J`. -/
def gapBesideCircle : List TypeDefinition :=
  [{ name := "foo.I", kind := .interface, interfaces := ["foo.A"] },
   { name := "foo.A", kind := .interface, interfaces := ["foo.I"], methods := [{ name := "m" }] },
   { name := "foo.J", kind := .interface, interfaces := ["foo.B", "foo.I"] },
   { name := "foo.B", kind := .interface, interfaces := ["foo.Late"] },
   { name := "foo.Late", kind := .interface, interfaces := ["foo.I"], round := 2 },
   { name := "foo.C", kind := .class_, extends? := some "foo.AutoDelegate_C"
     request? := some ⟨[⟨"foo.I", some "i"⟩], none⟩ },
   { name := "foo.D", kind := .class_, extends? := some "foo.AutoDelegate_D"
     request? := some ⟨[⟨"foo.I", some "i"⟩, ⟨"foo.J", some "j"⟩], none⟩ }]

/-- In the first round `D` waits, while `C` is generated; the second round adds nothing to it. -/
theorem waits_and_settles_gapBesideCircle :
    let table := (Snapshot.sample gapBesideCircle).table
    let later := ((Snapshot.sample gapBesideCircle).setRound 2).table
    let interface := (table.lookup ⟨"foo", "I", []⟩).getD default
    let planOfC : Plan :=
      ⟨⟨"foo", "C", []⟩, ⟨"foo", "AutoDelegate_C", []⟩, .object, [⟨⟨"foo", "I", []⟩, "i"⟩]⟩
    let planOfD : Plan := ⟨⟨"foo", "D", []⟩, ⟨"foo", "AutoDelegate_D", []⟩, .object,
      [⟨⟨"foo", "I", []⟩, "i"⟩, ⟨⟨"foo", "J", []⟩, "j"⟩]⟩
    table.Lawful ∧ table.lookup ⟨"foo", "I", []⟩ = some interface ∧
    (table.lookup ⟨"foo", "C", []⟩).map (validate table) = some (.accepted planOfC) ∧
    (table.lookup ⟨"foo", "D", []⟩).map (validate table) = some (.accepted planOfD) ∧
    (∃ parent, synthesise table planOfD = .error (.awaits parent)) ∧
    (∃ delegate ∈ planOfD.delegates, ∃ interface,
      table.lookup delegate.interface = some interface ∧
      ∃ name, table.LeadsTo interface name ∧ table.lookup name = none) ∧
    (table.ancestry interface).length ≤ table.names.length ∧
    ∃ result, synthesise table planOfC = .ok result ∧ table.Settled interface ∧
      later.Lawful ∧ table.GrowsTo later ∧ ∃ grown inherited rest restLater,
        later.lookup interface.name = some grown ∧
        table.members interface = inherited ++ rest ∧
        later.members grown = inherited ++ restLater ∧
        ∀ signature, signature ∈ inherited.map Method.signature ↔
          ∃ ancestor, later.Inherits grown ancestor ∧ ancestor.Declares signature := by
  intro table later interface planOfC planOfD
  have reached : (Snapshot.sample gapBesideCircle).Reached :=
    .read (Snapshot.ofTypes_sample (by decide +kernel))
  have reachedLater : ((Snapshot.sample gapBesideCircle).setRound 2).Reached := .moved reached 2
  have lawful : table.Lawful := reached.wellFormed.lawful
  have lawfulLater : later.Lawful := reachedLater.wellFormed.lawful
  have found : table.lookup ⟨"foo", "I", []⟩ = some interface := by decide +kernel
  have grows : table.GrowsTo later := by
    refine reached.growsTo reachedLater fun entry mem => ?_
    rw [Snapshot.written_setRound]
    have early : ∀ entry ∈ (Snapshot.sample gapBesideCircle).written, entry.round ≤ 2 := by
      decide +kernel
    exact ⟨mem, early entry mem⟩
  have askedC : (table.lookup ⟨"foo", "C", []⟩).map (validate table) =
      some (.accepted planOfC) := by decide +kernel
  have askedD : (table.lookup ⟨"foo", "D", []⟩).map (validate table) =
      some (.accepted planOfD) := by decide +kernel
  obtain ⟨declC, -, acceptedC⟩ := Option.map_eq_some_iff.mp askedC
  obtain ⟨declD, -, acceptedD⟩ := Option.map_eq_some_iff.mp askedD
  have awaits : ∃ parent, synthesise table planOfD = .error (.awaits parent) :=
    ⟨⟨"foo", "Late", []⟩, by decide +kernel⟩
  have generated : (synthesise table planOfC).toOption.isSome := by decide +kernel
  obtain ⟨result, ok⟩ := exists_of_isSome generated
  obtain ⟨waits_iff, search, -⟩ := lawful.waits_and_settles acceptedD
  obtain ⟨-, -, settles⟩ := lawful.waits_and_settles acceptedC
  obtain ⟨same, foundSame, settled⟩ := settles result ok _ List.mem_cons_self
  obtain rfl : same = interface := Option.some.inj (foundSame.symm.trans found)
  have visible : table.lookup interface.name = some interface := by rwa [lawful _ _ found]
  obtain ⟨superclass, foundLater⟩ := grows interface.name interface visible
  obtain ⟨inherited, rest, restLater, members⟩ := settled.stays lawfulLater grows foundLater
  exact ⟨lawful, found, askedC, askedD, awaits, waits_iff.mp awaits,
    (search interface visible).2.2.1, result, ok, settled, lawfulLater, grows, _, inherited, rest, restLater, foundLater, members⟩

end SymbolTable

end Delegation
