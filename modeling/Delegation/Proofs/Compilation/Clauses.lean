import Delegation.Proofs.Compilation.Completion

/-!
# Superclass clauses after a compilation

An annotated class is supposed to extend its base class.  Its superclass clause is looked at once, in
the round in which the base class is generated, and a clause that is not resolved then passes.  So a
clause that names something else goes unnoticed as long as that comes late enough, or not at all;
but there is no other way around the base class.

## Main Definitions

* `Entry.CameAfter` — a class that was not there yet when a base class was generated.

## Main Statements

* `Compilation.extends_generated` — what the annotated classes extend in the end.
* `Compilation.not_extends_generated` — it is not always the base class.
-/

namespace Delegation

open Java

/-- A class that was not there yet when a base class was generated: it was declared for a later round,
or it is a base class itself and was generated in the same round or a later one. -/
def Entry.CameAfter (initial : Snapshot) (base other : Entry) : Prop :=
  base.round ≤ other.round ∧ (other ∈ initial.written → base.round < other.round)

namespace Snapshot.Completed

variable {initial final : Snapshot} {makings : List Making}

/-- The clause of an annotated class names its base class, or something that came after the base
class. -/
theorem exists_clause (completed : initial.Completed makings final) {entry : Entry}
    (listed : entry ∈ initial.annotations) (proper : entry.name ≠ .object) :
    entry.decl.kind = .class_ ∧ ∃ clause, entry.extends? = some clause ∧
      ∃ base ∈ final.written, base.name = entry.name.generated ∧
        ∀ other ∈ final.written, ClassName.ofDotted? clause = some other.name →
          other.name ≠ entry.name.generated → Entry.CameAfter initial base other := by
  have declared : entry ∈ initial.written := List.mem_of_mem_filter listed
  have annotated : entry.name ∈ initial.annotated := by
    rw [annotated_eq]
    exact List.mem_map_of_mem listed
  obtain ⟨making, made, same⟩ := completed.generated _ annotated
  have justified := completed.justified making made
  obtain ⟨isClass, clause, said, late⟩ := justified.exists_clause
    (List.mem_append_left _ declared) same.symm proper
  refine ⟨isClass, clause, said, making.entry, completed.made_mem made, ?_, ?_⟩
  · rw [Making.name_entry, justified.name_base, same]
  · intro other mem names different
    have declaredLater : other ∈ initial.written → making.round < other.round := fun here =>
      late other.name names different other (List.mem_append_left _ here) rfl
    refine ⟨?_, declaredLater⟩
    rw [completed.written] at mem
    rcases List.mem_append.mp mem with here | joined
    · exact Nat.le_of_lt (declaredLater here)
    · obtain ⟨maker, otherMade, rfl⟩ := List.mem_map.mp joined
      by_contra before
      rw [Making.round_entry, Making.round_entry, Nat.not_le] at before
      have seen : maker ∈ Making.before makings making.round :=
        Making.mem_before_iff.mpr ⟨otherMade, before⟩
      have after := late _ names different _
        (List.mem_append_right _ (List.mem_map_of_mem seen)) rfl
      exact Nat.lt_asymm before after

end Snapshot.Completed

namespace Compilation

/-- **An annotated class extends its base class, or something that came too late to be noticed.**
When a compilation ends well and without errors, every annotated class but the root class has a
superclass clause.  If the clause names the base class, the class extends the base class in the end.
Otherwise the clause names nothing that is there in the end, or the class extends what it names, and
that was not there yet when the base class was generated. -/
theorem extends_generated {σ : Type} {snapshot : Snapshot} (reached : snapshot.Reached)
    (config : Options) {output : Output σ} {store : σ} {summary : Summary}
    (finished : (run ⟨snapshot, config⟩ output store).outcome = .ok summary)
    (clean : Diagnostic.hasErrors (run ⟨snapshot, config⟩ output store).diagnostics = false) :
    let final := (run ⟨snapshot, config⟩ output store).compilation.snapshot
    ∀ type ∈ snapshot.annotated, type ≠ .object →
      ∃ entry ∈ snapshot.written, ∃ base ∈ final.written, ∃ clause decl,
        entry.name = type ∧ entry.extends? = some clause ∧ base.name = type.generated ∧
        final.lookup type = some decl ∧
        (decl.superclass = .resolved type.generated ↔
          ClassName.ofDotted? clause = some type.generated) ∧
        (decl.superclass = .resolved type.generated ∨
          (decl.superclass = .unresolved clause ∧
            ∀ name, ClassName.ofDotted? clause = some name → final.lookup name = none) ∨
          ∃ other ∈ final.written, decl.superclass = .resolved other.name ∧
            ClassName.ofDotted? clause = some other.name ∧
            Entry.CameAfter snapshot base other) := by
  intro final type annotated proper
  obtain ⟨makings, completed⟩ := exists_completed ⟨snapshot, config⟩ reached finished clean
  rw [Snapshot.annotated_eq] at annotated
  obtain ⟨entry, listed, rfl⟩ := List.mem_map.mp annotated
  obtain ⟨isClass, clause, said, base, baseMem, baseNamed, late⟩ :=
    completed.exists_clause listed proper
  have declared : entry ∈ snapshot.written := List.mem_of_mem_filter listed
  have here : entry ∈ final.written := completed.declared_mem declared
  have found : final.lookup entry.name = some (final.reread entry).decl :=
    completed.reached.lookup_eq_some_iff.mpr ⟨entry, here, rfl, completed.complete entry here, rfl⟩
  have superclass : (final.reread entry).decl.superclass = final.superclassOf entry := rfl
  have baseVisible : (final.lookup entry.name.generated).isSome :=
    completed.isSome_lookup_iff.mpr ⟨base, baseMem, baseNamed⟩
  refine ⟨entry, declared, base, baseMem, clause, _, rfl, said, baseNamed, found, ?_⟩
  have means := final.superclassOf_of_clause isClass proper said
  rw [superclass]
  cases names : ClassName.ofDotted? clause with
  | none =>
      simp only [names] at means
      simp [means]
  | some name =>
      simp only [names] at means
      by_cases visible : (final.lookup name).isSome
      · rw [if_pos visible] at means
        refine ⟨by simp [means], ?_⟩
        by_cases own : name = entry.name.generated
        · exact .inl (own ▸ means)
        · obtain ⟨other, otherMem, rfl⟩ := completed.isSome_lookup_iff.mp visible
          exact .inr (.inr ⟨other, otherMem, means, rfl, late other otherMem names own⟩)
      · rw [if_neg visible] at means
        have foreign : name ≠ entry.name.generated := by
          rintro rfl
          exact visible baseVisible
        refine ⟨by simpa [means] using foreign, .inr (.inl ⟨means, ?_⟩)⟩
        rintro _ ⟨⟩
        simpa using visible

/-- A class that extends its base class, one that extends a class of the second round, and one that
extends a class that never appears. -/
def threeClauses : List TypeDefinition :=
  [{ name := "foo.A", kind := .class_, extends? := some "foo.AutoDelegate_A"
     request? := some .empty },
   { name := "foo.B", kind := .class_, extends? := some "foo.Late", request? := some .empty },
   { name := "foo.C", kind := .class_, extends? := some "foo.Never", request? := some .empty },
   { name := "foo.Late", kind := .class_, round := 2 }]

/-- Their compilation is free of errors and leaves the three clauses with different meanings. -/
theorem run_threeClauses :
    let result := run ⟨.sample threeClauses, .standard⟩ MemoryStore.output .empty
    let superclass type := (result.compilation.snapshot.lookup type).map (·.superclass)
    result.outcome = .ok ⟨[⟨"foo", "AutoDelegate_A", []⟩, ⟨"foo", "AutoDelegate_B", []⟩,
      ⟨"foo", "AutoDelegate_C", []⟩], 2⟩ ∧
    Diagnostic.hasErrors result.diagnostics = false ∧
    superclass ⟨"foo", "A", []⟩ = some (.resolved ⟨"foo", "AutoDelegate_A", []⟩) ∧
    superclass ⟨"foo", "B", []⟩ = some (.resolved ⟨"foo", "Late", []⟩) ∧
    superclass ⟨"foo", "C", []⟩ = some (.unresolved "foo.Never") := by
  decide +kernel

/-- What the second one extends in the end came after its base class. -/
theorem extends_generated_threeClauses :
    let snapshot := Snapshot.sample threeClauses
    let result := run ⟨snapshot, .standard⟩ MemoryStore.output .empty
    let final := result.compilation.snapshot
    snapshot.Reached ∧ (∃ summary, result.outcome = .ok summary) ∧
    Diagnostic.hasErrors result.diagnostics = false ∧
    ∃ base ∈ final.written, ∃ other ∈ final.written, base.name = ⟨"foo", "AutoDelegate_B", []⟩ ∧
      other.name = ⟨"foo", "Late", []⟩ ∧ Entry.CameAfter snapshot base other := by
  intro snapshot result final
  have reached : snapshot.Reached := .read (Snapshot.ofTypes_sample (by decide +kernel))
  obtain ⟨finished, clean, -, late, -⟩ := run_threeClauses
  refine ⟨reached, ⟨_, finished⟩, clean, ?_⟩
  obtain ⟨entry, -, base, baseMem, clause, decl, -, -, baseNamed, found, -, means⟩ :=
    extends_generated reached .standard finished clean ⟨"foo", "B", []⟩ (by decide +kernel)
      (by decide)
  have superclass : decl.superclass = .resolved ⟨"foo", "Late", []⟩ :=
    Option.some.inj ((congrArg (Option.map TypeDecl.superclass) found).symm.trans late)
  rw [superclass] at means
  rcases means with own | ⟨missing, -⟩ | ⟨other, otherMem, same, -, after⟩
  · exact absurd own (by decide)
  · cases missing
  · exact ⟨base, baseMem, other, otherMem, baseNamed, (Superclass.resolved.inj same).symm, after⟩

/-- So a compilation without errors does not make every annotated class extend its base class. -/
theorem not_extends_generated :
    let snapshot := Snapshot.sample threeClauses
    let result := run ⟨snapshot, .standard⟩ MemoryStore.output .empty
    Snapshot.ofTypes threeClauses .standard = .ok snapshot ∧
    (∃ summary, result.outcome = .ok summary) ∧
    Diagnostic.hasErrors result.diagnostics = false ∧
    ¬ ∀ type ∈ snapshot.annotated, type ≠ .object →
      ∃ decl, result.compilation.snapshot.lookup type = some decl ∧
        decl.superclass = .resolved type.generated := by
  intro snapshot result
  obtain ⟨finished, clean, -, late, -⟩ := run_threeClauses
  refine ⟨Snapshot.ofTypes_sample (by decide +kernel), ⟨_, finished⟩, clean, ?_⟩
  intro all
  obtain ⟨decl, found, own⟩ := all ⟨"foo", "B", []⟩ (by decide +kernel) (by decide)
  have superclass : decl.superclass = .resolved ⟨"foo", "Late", []⟩ :=
    Option.some.inj ((congrArg (Option.map TypeDecl.superclass) found).symm.trans late)
  rw [own] at superclass
  exact absurd superclass (by decide)

end Compilation

end Delegation
