import Delegation.Proofs.Acceptance
import Delegation.Proofs.Compilation.History
import Delegation.Proofs.Compilation.Medium
import Delegation.Proofs.Snapshot.Superclass

/-!
# Completed snapshots

A compilation that ends well and without errors has generated a base class for every annotated class
of its snapshot, and in the end all of them are there to be seen, with everything that was declared.
What a base class extends was there before it, and it is what the request of its class names.

## Main Definitions

* `Snapshot.Completed` — a snapshot to which base classes for all its annotated classes have joined.

## Main Statements

* `Compilation.exists_completed` — a compilation without errors completes its snapshot.
* `Making.Justified.exists_request`, `Making.Justified.exists_clause` — what was there when a base
  class was generated.
* `Snapshot.Completed.extends_iff` — what extends what in the end.
-/

namespace Delegation

open Java

/-- No base class is the root class. -/
theorem Java.ClassName.generated_ne_object (type : ClassName) : type.generated ≠ .object := by
  intro same
  have outermost := congrArg (fun name => name.outermost.toList.head?) same
  simp [ClassName.generated, ClassName.peer, ClassName.generatedPrefix, ClassName.object] at outermost

/-! ## Completed snapshots -/

/-- Base classes have joined a snapshot: one for every annotated class, each justified by what was
there before, and all rounds have come. -/
structure Snapshot.Completed (initial : Snapshot) (makings : List Making) (final : Snapshot) :
    Prop where
  reached : final.Reached
  written : final.written = initial.written ++ makings.map Making.entry
  complete : ∀ entry ∈ final.written, entry.round ≤ final.round
  annotated : ∀ making ∈ makings, making.type ∈ initial.annotated
  generated : ∀ type ∈ initial.annotated, ∃ making ∈ makings, making.type = type
  justified : ∀ making ∈ makings, making.Justified initial (Making.before makings making.round)

/-- **A compilation that ends well and without errors completes its snapshot.** -/
theorem Compilation.exists_completed {σ : Type} (compilation : Compilation) {output : Output σ}
    {store : σ} (reached : compilation.snapshot.Reached) {summary : Summary}
    (finished : (compilation.run output store).outcome = .ok summary)
    (clean : Diagnostic.hasErrors (compilation.run output store).diagnostics = false) :
    ∃ makings, compilation.snapshot.Completed makings
      (compilation.run output store).compilation.snapshot := by
  cases ran : compilation.lastRun output store with
  | mk outcome final =>
      rw [run_eq ran] at finished clean ⊢
      obtain rfl : outcome = .ok summary := finished
      have done : ∀ type ∈ compilation.snapshot.annotated, type ∈ final.progress.emitted :=
        (clean_iff_mem_emitted reached ran).mp clean
      obtain ⟨makings, report, before, last, lastRound, history, settled, -, rfl⟩ :=
        Run.exists_history_of_rounds reached ran
      refine ⟨makings, history.reached, history.written, ?_, ?_, ?_, history.justified⟩
      · intro entry mem
        simp only [Run.isSettled, Bool.and_eq_true, Bool.not_eq_true', ← Bool.not_eq_true,
          Snapshot.hasLaterRounds_iff] at settled
        exact Nat.le_of_not_lt fun later => settled.2 ⟨entry, mem, later⟩
      · intro making made
        rw [Snapshot.annotated_eq]
        exact history.annotated _
          (.inr ((history.emitted_iff _).mpr (List.mem_map_of_mem made)))
      · intro type annotated
        exact List.mem_map.mp ((history.emitted_iff type).mp (done type annotated))

/-! ## The references of a base class -/

/-- When a base class was justified, its class was there and its request named the superclass, and
the superclass was there as well. -/
theorem Making.Justified.exists_request {initial : Snapshot} {earlier : List Making}
    {making : Making} (justified : making.Justified initial earlier) :
    (∃ owner ∈ initial.written ++ earlier.map Making.entry, owner.name = making.type ∧
      owner.decl.request.superclass? = some making.base.superclass) ∧
    ∃ parent ∈ initial.written ++ earlier.map Making.entry,
      parent.name = making.base.superclass ∧ parent.round ≤ making.round := by
  obtain ⟨reached, now, written, found, judged, base⟩ := justified
  obtain ⟨wanted, parent, visible, -⟩ := superclass_of_judge reached.wellFormed.lawful rfl judged
  rw [base] at wanted visible
  obtain ⟨owner, ownerMem, ownerNamed, -, rfl⟩ := reached.lookup_eq_some_iff.mp found
  obtain ⟨other, otherMem, otherNamed, appeared, -⟩ := reached.lookup_eq_some_iff.mp visible
  rw [written] at ownerMem otherMem
  rw [now] at appeared
  exact ⟨⟨owner, ownerMem, ownerNamed, wanted⟩, other, otherMem, otherNamed, appeared⟩

/-- A base class that was justified is written to extend its superclass. -/
theorem Making.Justified.clause?_entry {initial : Snapshot} {earlier : List Making}
    {making : Making} (justified : making.Justified initial earlier) :
    making.entry.clause? = some making.base.superclass := by
  obtain ⟨⟨owner, -, -, wanted⟩, -⟩ := justified.exists_request
  have proper : making.entry.name ≠ .object := by
    rw [Making.name_entry, justified.name_base]
    exact making.type.generated_ne_object
  rw [Entry.clause?, if_neg (by simpa using ⟨rfl, proper⟩)]
  exact Request.ofDotted?_qualified wanted

/-- What a base class is found to extend, in whatever round, is its superclass. -/
theorem Making.Justified.superclass_of_extends {initial : Snapshot} {earlier : List Making}
    {making : Making} (justified : making.Justified initial earlier) {now : Snapshot}
    (reached : now.Reached) (here : making.entry ∈ now.written) {superclass : ClassName}
    (extended : now.Extends making.base.name superclass) : making.base.superclass = superclass := by
  obtain ⟨entry, mem, named, -, names, -⟩ := reached.extends_iff.mp extended
  obtain rfl : entry = making.entry := reached.eq_of_name_eq mem here named
  rw [justified.clause?_entry] at names
  exact Option.some.inj names

/-- A base class that another one extends came in an earlier round: it was there to be seen when the
other one was generated, and it has its name to itself. -/
theorem Making.Justified.round_lt {initial : Snapshot} {makings : List Making}
    {making other : Making} (justified : making.Justified initial (before makings making.round))
    (otherMade : other ∈ makings) (extended : making.base.superclass = other.base.name)
    (nodup : ((initial.written ++ makings.map entry).map Entry.name).Nodup) :
    other.round < making.round := by
  obtain ⟨-, parent, parentMem, parentNamed, -⟩ := justified.exists_request
  rw [extended] at parentNamed
  rw [List.map_append, List.nodup_append] at nodup
  obtain ⟨-, distinct, apart⟩ := nodup
  have otherListed := List.mem_map_of_mem (f := entry) otherMade
  rcases List.mem_append.mp parentMem with declared | joined
  · exact absurd parentNamed
      (apart _ (List.mem_map_of_mem declared) _ (List.mem_map_of_mem otherListed))
  · obtain ⟨same, earlier, rfl⟩ := List.mem_map.mp joined
    obtain ⟨made, before⟩ := mem_before_iff.mp earlier
    have sameEntry : same.entry = other.entry :=
      List.inj_on_of_nodup_map distinct (List.mem_map_of_mem made) otherListed parentNamed
    have sameRound : same.round = other.round := congrArg Entry.round sameEntry
    rwa [← sameRound]

/-- When a base class was justified, its class was written to extend something, and that was the base
class or it was not there yet. -/
theorem Making.Justified.exists_clause {initial : Snapshot} {earlier : List Making}
    {making : Making} (justified : making.Justified initial earlier) {owner : Entry}
    (mem : owner ∈ initial.written ++ earlier.map Making.entry) (named : owner.name = making.type)
    (proper : owner.name ≠ .object) :
    owner.decl.kind = .class_ ∧ ∃ clause, owner.extends? = some clause ∧
      ∀ name, ClassName.ofDotted? clause = some name → name ≠ owner.name.generated →
        ∀ other ∈ initial.written ++ earlier.map Making.entry, other.name = name →
          making.round < other.round := by
  obtain @⟨snapshot, decl, result, reached, now, written, found, judged, -⟩ := justified
  rw [← written] at mem ⊢
  obtain ⟨entry, listed, sameName, -, rfl⟩ := reached.lookup_eq_some_iff.mp found
  obtain rfl : entry = owner := reached.eq_of_name_eq listed mem (sameName.trans named.symm)
  obtain ⟨kind, only⟩ := clause_of_judge judged
  have only : ∀ found, snapshot.superclassOf entry = .resolved found →
      found = entry.name.generated := only
  have isClass : entry.decl.kind = .class_ := kind
  have means : ∀ found, entry.clause? = some found →
      (entry.extends? = none ∨ (snapshot.lookup found).isSome) → found = entry.name.generated :=
    fun found names visible => only found (Snapshot.superclassOf_eq_resolved_iff.mpr
      ⟨names, visible⟩)
  have plain : ¬ (entry.decl.kind ≠ .class_ ∨ entry.name = .object) := by simp [isClass, proper]
  simp only [Entry.clause?, if_neg plain] at means
  refine ⟨isClass, ?_⟩
  cases said : entry.extends? with
  | none =>
      simp only [said, true_or, forall_const, Option.some.injEq] at means
      exact absurd (means _ rfl).symm entry.name.generated_ne_object
  | some clause =>
      simp only [said, reduceCtorEq, false_or] at means
      refine ⟨clause, rfl, fun name names different other otherMem otherNamed => ?_⟩
      by_contra appeared
      refine different (means name names ?_)
      rw [reached.wellFormed.isSome_lookup_iff]
      exact ⟨other, otherMem, otherNamed, now ▸ Nat.le_of_not_lt appeared⟩

/-! ## The references in the end -/

namespace Snapshot.Completed

variable {initial final : Snapshot} {makings : List Making} {making other : Making}
variable {class_ superclass : ClassName}

theorem declared_mem (completed : initial.Completed makings final) {entry : Entry}
    (mem : entry ∈ initial.written) : entry ∈ final.written := by
  rw [completed.written]
  exact List.mem_append_left _ mem

theorem made_mem (completed : initial.Completed makings final) (made : making ∈ makings) :
    making.entry ∈ final.written := by
  rw [completed.written]
  exact List.mem_append_right _ (List.mem_map_of_mem made)

theorem earlier_mem (completed : initial.Completed makings final) {round : Nat} {entry : Entry}
    (mem : entry ∈ initial.written ++ (Making.before makings round).map Making.entry) :
    entry ∈ final.written := by
  rcases List.mem_append.mp mem with declared | joined
  · exact completed.declared_mem declared
  · obtain ⟨making, earlier, rfl⟩ := List.mem_map.mp joined
    exact completed.made_mem (Making.mem_before_iff.mp earlier).1

/-- In the end, everything that is written is visible. -/
theorem isSome_lookup_iff (completed : initial.Completed makings final) :
    (final.lookup class_).isSome ↔ ∃ entry ∈ final.written, entry.name = class_ := by
  rw [completed.reached.wellFormed.isSome_lookup_iff]
  constructor
  · rintro ⟨entry, mem, named, -⟩
    exact ⟨entry, mem, named⟩
  · rintro ⟨entry, mem, named⟩
    exact ⟨entry, mem, named, completed.complete entry mem⟩

/-- In the end, a class extends what it is written to extend, if that is there at all. -/
theorem extends_iff (completed : initial.Completed makings final) :
    final.Extends class_ superclass ↔ ∃ entry ∈ final.written, entry.name = class_ ∧
      entry.clause? = some superclass ∧
      (entry.extends? = none ∨ ∃ parent ∈ final.written, parent.name = superclass) := by
  rw [completed.reached.extends_iff]
  simp only [completed.isSome_lookup_iff]
  refine exists_congr fun entry => and_congr_right fun mem => and_congr_right fun _ => ?_
  exact and_iff_right (completed.complete entry mem)

/-- The request of the class that a base class belongs to. -/
theorem exists_request (completed : initial.Completed makings final) (made : making ∈ makings) :
    ∃ entry ∈ initial.annotations, entry.name = making.type ∧
      entry.decl.request.superclass? = some making.base.superclass := by
  obtain ⟨⟨owner, mem, named, wanted⟩, -⟩ := (completed.justified making made).exists_request
  have annotated := completed.annotated making made
  rw [annotated_eq] at annotated
  obtain ⟨entry, listed, sameName⟩ := List.mem_map.mp annotated
  have here : entry ∈ final.written := completed.declared_mem (List.mem_of_mem_filter listed)
  obtain rfl : owner = entry := completed.reached.eq_of_name_eq (completed.earlier_mem mem) here
    (named.trans sameName.symm)
  exact ⟨owner, listed, named, wanted⟩

/-- A base class is written to extend its superclass. -/
theorem clause?_entry (completed : initial.Completed makings final) (made : making ∈ makings) :
    making.entry.clause? = some making.base.superclass :=
  (completed.justified making made).clause?_entry

end Snapshot.Completed

end Delegation
