import Delegation.Proofs.Compilation.Generations

/-!
# Circles of inheritance

Every base class that is generated brings two references into the hierarchy: its own superclass,
which is what the request of its class names, and the clause of that class, which is resolved now.
Neither is looked at together with the rest of the hierarchy.  The superclass of a base class was
there before the base class, so base classes alone never form a circle; but a circle that runs
through classes that are declared is not noticed.  It is found in the end exactly when it was written
in the beginning.

## Main Definitions

* `Snapshot.Refers` — the references that are written, in clauses and in requests.

## Main Statements

* `Snapshot.Completed.exists_declared_of_circle` — base classes alone form no circle.
* `Compilation.circle_iff_written` — inheritance runs in a circle in the end exactly when it was
  written so.
-/

namespace Delegation

open Java

namespace Snapshot

/-- The references to superclasses that are written: every class refers to the class that its clause
names, and the base class of every annotated class to the class that the request names. -/
inductive Refers (snapshot : Snapshot) : ClassName → ClassName → Prop
  | clause {entry : Entry} {superclass : ClassName} (mem : entry ∈ snapshot.written)
      (names : entry.clause? = some superclass) : Refers snapshot entry.name superclass
  | request {entry : Entry} {superclass : ClassName} (mem : entry ∈ snapshot.annotations)
      (names : entry.decl.request.superclass? = some superclass) :
      Refers snapshot entry.name.generated superclass

namespace Completed

variable {initial final : Snapshot} {makings : List Making} {making other : Making}
variable {class_ superclass : ClassName}

/-! ## What was written is what is found -/

/-- Every reference that is resolved in the end was written in the beginning. -/
theorem refers_of_extends (completed : initial.Completed makings final)
    (extended : final.Extends class_ superclass) : initial.Refers class_ superclass := by
  obtain ⟨entry, mem, rfl, names, -⟩ := completed.extends_iff.mp extended
  rw [completed.written] at mem
  rcases List.mem_append.mp mem with declared | joined
  · exact .clause declared names
  · obtain ⟨making, made, rfl⟩ := List.mem_map.mp joined
    obtain ⟨entry, listed, named, wanted⟩ := completed.exists_request made
    rw [completed.clause?_entry made] at names
    rw [Making.name_entry, (completed.justified making made).name_base, ← named]
    exact .request listed (wanted.trans names)

/-- What a reference starts from is there in the end. -/
theorem exists_of_refers (completed : initial.Completed makings final)
    (refers : initial.Refers class_ superclass) : ∃ entry ∈ final.written, entry.name = class_ := by
  cases refers with
  | clause mem names => exact ⟨_, completed.declared_mem mem, rfl⟩
  | @request entry _ mem names =>
      have annotated : entry.name ∈ initial.annotated := by
        rw [annotated_eq]
        exact List.mem_map_of_mem mem
      obtain ⟨making, made, same⟩ := completed.generated _ annotated
      refine ⟨making.entry, completed.made_mem made, ?_⟩
      rw [Making.name_entry, (completed.justified making made).name_base, same]

/-- A reference that was written is resolved in the end, if it leads to a class that refers to
something in turn. -/
theorem extends_of_refers (completed : initial.Completed makings final) {next : ClassName}
    (refers : initial.Refers class_ superclass) (onwards : initial.Refers superclass next) :
    final.Extends class_ superclass := by
  have parent := completed.exists_of_refers onwards
  rw [completed.extends_iff]
  cases refers with
  | clause mem names => exact ⟨_, completed.declared_mem mem, rfl, names, .inr parent⟩
  | @request entry _ mem names =>
      have annotated : entry.name ∈ initial.annotated := by
        rw [annotated_eq]
        exact List.mem_map_of_mem mem
      obtain ⟨making, made, same⟩ := completed.generated _ annotated
      refine ⟨making.entry, completed.made_mem made, ?_, ?_, .inr parent⟩
      · rw [Making.name_entry, (completed.justified making made).name_base, same]
      · obtain ⟨owner, listed, named, wanted⟩ := completed.exists_request made
        obtain rfl : owner = entry := completed.reached.eq_of_name_eq
          (completed.declared_mem (List.mem_of_mem_filter listed))
          (completed.declared_mem (List.mem_of_mem_filter mem)) (named.trans same)
        rw [completed.clause?_entry made, ← wanted, names]

/-! ## Circles -/

/-- A base class extends only base classes of earlier rounds, besides what was declared. -/
theorem round_lt (completed : initial.Completed makings final) (made : making ∈ makings)
    (otherMade : other ∈ makings) (extended : final.Extends making.base.name other.base.name) :
    other.round < making.round := by
  have justified := completed.justified making made
  refine justified.round_lt otherMade ?_ ?_
  · exact justified.superclass_of_extends completed.reached (completed.made_mem made) extended
  · rw [← completed.written, map_name_written]
    exact completed.reached.wellFormed.nodup_entryNames

/-- A circle runs through a class that is declared. -/
theorem exists_declared_of_circle (completed : initial.Completed makings final)
    (made : making ∈ makings)
    (circle : Relation.TransGen final.Extends making.base.name making.base.name) :
    ∃ name ∈ initial.entryNames, Relation.TransGen final.Extends name name := by
  -- From a base class the circle goes on to a class of an earlier round or to a declared one.
  induction rounds : making.round using Nat.strongRecOn generalizing making with
  | _ round ih =>
      obtain ⟨next, extended, onwards⟩ := Relation.TransGen.head'_iff.mp circle
      have nextCircle : Relation.TransGen final.Extends next next :=
        Relation.TransGen.tail' onwards extended
      obtain ⟨entry, mem, named⟩ : ∃ entry ∈ final.written, entry.name = next := by
        obtain ⟨after, further, -⟩ := Relation.TransGen.head'_iff.mp nextCircle
        obtain ⟨entry, mem, named, -⟩ := completed.extends_iff.mp further
        exact ⟨entry, mem, named⟩
      rw [completed.written] at mem
      rcases List.mem_append.mp mem with declared | joined
      · refine ⟨next, ?_, nextCircle⟩
        rw [← map_name_written, ← named]
        exact List.mem_map_of_mem declared
      · obtain ⟨other, otherMade, rfl⟩ := List.mem_map.mp joined
        subst named
        have earlier := completed.round_lt made otherMade extended
        exact ih other.round (rounds ▸ earlier) otherMade nextCircle rfl

/-- Inheritance runs in a circle in the end when the references that are written do, through a class
that is declared. -/
theorem cyclic_iff (completed : initial.Completed makings final) :
    (∃ name, Relation.TransGen final.Extends name name) ↔
      ∃ name ∈ initial.entryNames, Relation.TransGen initial.Refers name name := by
  constructor
  · rintro ⟨name, circle⟩
    have declared : ∃ name ∈ initial.entryNames, Relation.TransGen final.Extends name name := by
      obtain ⟨next, extended, -⟩ := Relation.TransGen.head'_iff.mp circle
      obtain ⟨entry, mem, rfl, -⟩ := completed.extends_iff.mp extended
      rw [completed.written] at mem
      rcases List.mem_append.mp mem with declared | joined
      · rw [← map_name_written]
        exact ⟨entry.name, List.mem_map_of_mem declared, circle⟩
      · obtain ⟨making, made, rfl⟩ := List.mem_map.mp joined
        exact completed.exists_declared_of_circle made circle
    obtain ⟨name, mem, circle⟩ := declared
    have found : final.Extends ≤ initial.Refers := fun _ _ extended =>
      completed.refers_of_extends extended
    exact ⟨name, mem, Relation.TransGen.mono found name name circle⟩
  · rintro ⟨name, -, circle⟩
    -- Every class on the circle refers to the next one, so all its references are resolved.
    have resolved : ∀ {last : ClassName}, Relation.TransGen initial.Refers name last →
        (∃ next, initial.Refers last next) → Relation.TransGen final.Extends name last := by
      intro last path
      induction path with
      | single refers =>
          rintro ⟨next, onwards⟩
          exact .single (completed.extends_of_refers refers onwards)
      | tail _ refers ih =>
          rintro ⟨next, onwards⟩
          exact .tail (ih ⟨_, refers⟩) (completed.extends_of_refers refers onwards)
    obtain ⟨next, refers, -⟩ := Relation.TransGen.head'_iff.mp circle
    exact ⟨name, resolved circle ⟨next, refers⟩⟩

end Completed

/-- A rank that every reference lowers excludes circles. -/
theorem no_circle_of_rank {snapshot : Snapshot} (rank : ClassName → Nat)
    (lowers : ∀ {class_ superclass}, snapshot.Refers class_ superclass →
      rank superclass < rank class_) (name : ClassName) :
    ¬ Relation.TransGen snapshot.Refers name name :=
  not_transGen_of_rank rank (fun _ _ => lowers) name

end Snapshot

namespace Compilation

/-- **Inheritance runs in a circle in the end exactly when it was written so.**  When a compilation
ends well and without errors, the resolved references of its last snapshot lead from some class back
to the class if and only if the references that are written in the beginning, those of superclass
clauses and those of requests, do so for a class that is declared. -/
theorem circle_iff_written {σ : Type} {snapshot : Snapshot} (reached : snapshot.Reached)
    (config : Options) {output : Output σ} {store : σ} {summary : Summary}
    (finished : (run ⟨snapshot, config⟩ output store).outcome = .ok summary)
    (clean : Diagnostic.hasErrors (run ⟨snapshot, config⟩ output store).diagnostics = false) :
    (∃ name, Relation.TransGen
      (run ⟨snapshot, config⟩ output store).compilation.snapshot.Extends name name) ↔
      ∃ name ∈ snapshot.entryNames, Relation.TransGen snapshot.Refers name name := by
  obtain ⟨makings, completed⟩ := exists_completed ⟨snapshot, config⟩ reached finished clean
  exact completed.cyclic_iff

/-- Two classes of which the second delegates with the base class of the first behind it extend each
other in no circle. -/
theorem no_circle_chainOfTwo :
    let snapshot := Snapshot.sample chainOfTwo
    let result := run ⟨snapshot, .standard⟩ MemoryStore.output .empty
    snapshot.Reached ∧
    result.outcome =
      .ok ⟨[⟨"foo.bar", "AutoDelegate_C", []⟩, ⟨"baz.qux", "AutoDelegate_C", []⟩], 3⟩ ∧
    Diagnostic.hasErrors result.diagnostics = false ∧
    ¬ ∃ name, Relation.TransGen result.compilation.snapshot.Extends name name := by
  have reached : (Snapshot.sample chainOfTwo).Reached := .read (Snapshot.ofTypes_sample (by
    decide +kernel))
  have ended : let result := run ⟨Snapshot.sample chainOfTwo, .standard⟩ MemoryStore.output .empty
      result.outcome =
        .ok ⟨[⟨"foo.bar", "AutoDelegate_C", []⟩, ⟨"baz.qux", "AutoDelegate_C", []⟩], 3⟩ ∧
      Diagnostic.hasErrors result.diagnostics = false := by
    decide +kernel
  obtain ⟨finished, clean⟩ := ended
  refine ⟨reached, finished, clean, ?_⟩
  rw [circle_iff_written reached .standard finished clean]
  let order : List ClassName := [.object, ⟨"foo.bar", "AutoDelegate_C", []⟩, ⟨"foo.bar", "C", []⟩,
    ⟨"baz.qux", "AutoDelegate_C", []⟩, ⟨"baz.qux", "C", []⟩]
  have clauses : ∀ entry ∈ (Snapshot.sample chainOfTwo).written,
      ∀ superclass ∈ entry.clause?, order.idxOf superclass < order.idxOf entry.name := by
    decide +kernel
  have requests : ∀ entry ∈ (Snapshot.sample chainOfTwo).annotations,
      ∀ superclass ∈ entry.decl.request.superclass?,
        order.idxOf superclass < order.idxOf entry.name.generated := by
    decide +kernel
  rintro ⟨name, -, circle⟩
  refine Snapshot.no_circle_of_rank order.idxOf ?_ name circle
  rintro _ _ (⟨mem, names⟩ | ⟨mem, names⟩)
  · exact clauses _ mem _ names
  · exact requests _ mem _ names

/-- A class that asks for a base class that extends the class itself. -/
def circular : List TypeDefinition :=
  [{ name := "foo.C", kind := .class_, extends? := some "foo.AutoDelegate_C"
     request? := some ⟨[], some "foo.C"⟩ }]

/-- Nothing stops it: before anything is generated, nothing extends anything, and in the end the
class and its base class extend each other. -/
theorem circle_of_circular :
    let snapshot := Snapshot.sample circular
    let result := run ⟨snapshot, .standard⟩ MemoryStore.output .empty
    Snapshot.ofTypes circular .standard = .ok snapshot ∧
    (∀ round name, ¬ Relation.TransGen (snapshot.setRound round).Extends name name) ∧
    result.outcome = .ok ⟨[⟨"foo", "AutoDelegate_C", []⟩], 2⟩ ∧
    Diagnostic.hasErrors result.diagnostics = false ∧
    ∃ name, Relation.TransGen result.compilation.snapshot.Extends name name := by
  intro snapshot result
  have read : Snapshot.ofTypes circular .standard = .ok snapshot :=
    Snapshot.ofTypes_sample (by decide +kernel)
  have reached : snapshot.Reached := .read read
  have ended : result.outcome = .ok ⟨[⟨"foo", "AutoDelegate_C", []⟩], 2⟩ ∧
      Diagnostic.hasErrors result.diagnostics = false ∧
      (result.compilation.snapshot.lookup ⟨"foo", "C", []⟩).map (·.superclass) =
        some (.resolved ⟨"foo", "AutoDelegate_C", []⟩) ∧
      (result.compilation.snapshot.lookup ⟨"foo", "AutoDelegate_C", []⟩).map (·.superclass) =
        some (.resolved ⟨"foo", "C", []⟩) := by
    decide +kernel
  obtain ⟨finished, clean, upwards, back⟩ := ended
  refine ⟨read, ?_, finished, clean, ?_⟩
  · intro round name circle
    have moved : (snapshot.setRound round).Reached := .moved reached round
    have nothing : ∀ entry ∈ snapshot.written, ∀ superclass ∈ entry.clause?,
        entry.extends? ≠ none ∧ superclass ∉ snapshot.entryNames := by
      decide +kernel
    obtain ⟨superclass, extended, -⟩ := Relation.TransGen.head'_iff.mp circle
    obtain ⟨entry, mem, -, -, names, visible⟩ := moved.extends_iff.mp extended
    rw [Snapshot.written_setRound] at mem
    obtain ⟨written, absent⟩ := nothing entry mem superclass names
    rw [moved.wellFormed.isSome_lookup_iff, Snapshot.written_setRound] at visible
    rcases visible with unwritten | ⟨parent, parentMem, rfl, -⟩
    · exact written unwritten
    · refine absent ?_
      rw [← Snapshot.map_name_written]
      exact List.mem_map_of_mem parentMem
  · exact ⟨⟨"foo", "C", []⟩, .tail (.single (Option.map_eq_some_iff.mp upwards))
      (Option.map_eq_some_iff.mp back)⟩

end Compilation

end Delegation
