import Delegation.Proofs.Compilation.Completion
import Delegation.Proofs.Compilation.Limit
import Mathlib.Logic.Relation

/-!
# The order of generation

A base class can extend another one, but only one that is there to be seen, and a base class is to
be seen from the round after its own.  So the order in which base classes are generated is an order
by inheritance: what a base class extends comes before it, in an earlier round.  Requests may ask
for base classes that extend each other in a circle, and then none of these is ever generated.

## Main Definitions

* `Compilation.generations` — the base classes that a compilation generates, with their rounds.
* `Snapshot.EverExtends` — a class extends another one at some time.

## Main Statements

* `Run.History.exists_generations` — the history of a compilation holds its generations in order.
* `Compilation.generated_after_superclass` — a base class comes after the one that it extends.
-/

namespace Delegation

open Java

/-- A rank that goes down along a relation excludes circles. -/
theorem not_transGen_of_rank {α : Type} {related : α → α → Prop} (rank : α → Nat)
    (lower : ∀ a b, related a b → rank b < rank a) (a : α) : ¬ Relation.TransGen related a a := by
  intro circle
  have less : Relation.TransGen (· > ·) (rank a) (rank a) := circle.lift rank lower
  rw [Relation.transGen_eq_self] at less
  exact Nat.lt_irrefl _ less

/-- A class extends another one in the current round or in any other. -/
def Snapshot.EverExtends (snapshot : Snapshot) (class_ superclass : ClassName) : Prop :=
  snapshot.Extends class_ superclass ∨
    ∃ round, (snapshot.setRound round).Extends class_ superclass

namespace Run

variable {σ : Type} {options : Options} {output : Output σ}

/-! ## Round by round -/

/-- The base classes that are generated in the rounds to come, as far as these end well, each with
its round and in the order in which they are written. -/
def generations (options : Options) (output : Output σ) : Nat → Run σ → List (Nat × BaseClass)
  | 0, _ => []
  | left + 1, run =>
    match run.round options output with
    | (.error _, _) => []
    | (.ok report, next) =>
      (run.pass options output).2.written.map (next.summary.rounds, ·) ++
        if next.isSettled report then [] else generations options output left next

namespace History

variable {initial : Snapshot} {makings : List Making} {run final : Run σ}

/-- What is reported in the end is no part of the history. -/
theorem finish (history : run.History initial makings) : run.finish.History initial makings :=
  ⟨history.reached, history.written, history.nodup, history.emitted_iff, history.annotated,
    history.generated, history.past, history.justified⟩

/-- Rounds that end well add to the history what is generated in them, and the history stays sorted
by rounds. -/
theorem exists_generations (history : run.History initial makings)
    (sorted : makings.Pairwise fun first second => first.round ≤ second.round) {left : Nat}
    {summary : Summary} (ran : rounds options output left run = (.ok summary, final)) :
    ∃ new : List Making, final.History initial (makings ++ new) ∧ summary = final.summary ∧
      (makings ++ new).Pairwise (fun first second => first.round ≤ second.round) ∧
      generations options output left run = new.map fun making => (making.round, making.base) := by
  induction left generalizing run makings with
  | zero => cases ran
  | succ left ih =>
      rw [rounds] at ran
      split at ran
      · cases ran
      · rename_i report next first
        obtain ⟨new, inRound, written, -, extended⟩ := history.round first
        have counted : next.summary.rounds = run.summary.rounds + 1 := by
          obtain ⟨-, -, -, -, -, rfl⟩ := round_eq_ok_iff.mp first
          rfl
        have bases : (run.pass options output).2.written.map (next.summary.rounds, ·) =
            new.map fun making => (making.round, making.base) := by
          rw [written, List.map_map]
          refine List.map_congr_left fun making mem => ?_
          rw [inRound making mem]
          rfl
        have stillSorted : (makings ++ new).Pairwise
            fun first second => first.round ≤ second.round := by
          refine List.pairwise_append.mpr ⟨sorted, ?_, fun old oldMem recent mem => ?_⟩
          · refine List.pairwise_of_forall_mem_list fun one oneMem other otherMem => ?_
            rw [inRound one oneMem, inRound other otherMem]
          · have := (history.past old oldMem).2
            rw [inRound recent mem]
            omega
        rw [generations, first]
        simp only [bases]
        split at ran
        · rename_i settled
          cases ran
          refine ⟨new, extended.finish, rfl, stillSorted, ?_⟩
          rw [if_pos settled, List.append_nil]
        · rename_i goesOn
          obtain ⟨more, whole, same, allSorted, later⟩ := ih extended stillSorted ran
          rw [List.append_assoc] at whole allSorted
          refine ⟨new ++ more, whole, same, allSorted, ?_⟩
          rw [if_neg goesOn, later, List.map_append]

/-- Base classes have different names. -/
theorem nodup_generated (history : run.History initial makings) :
    (makings.map (·.base.name)).Nodup := by
  have nodup := history.reached.wellFormed.nodup_entryNames
  rw [← Snapshot.map_name_written, history.written, List.map_append, List.map_map,
    List.nodup_append] at nodup
  exact nodup.2.1

/-- A base class that another one extends came in an earlier round. -/
theorem round_lt (history : run.History initial makings) {making other : Making}
    (made : making ∈ makings) (otherMade : other ∈ makings)
    (extended : making.base.superclass = other.base.name) : other.round < making.round := by
  refine (history.justified making made).round_lt otherMade extended ?_
  rw [← history.written, Snapshot.map_name_written]
  exact history.reached.wellFormed.nodup_entryNames

/-- What a base class is found to extend, in whatever round, is its superclass. -/
theorem superclass_of_everExtends (history : run.History initial makings) {making : Making}
    (made : making ∈ makings) {superclass : ClassName}
    (extended : run.snapshot.EverExtends making.base.name superclass) :
    making.base.superclass = superclass := by
  have justified := history.justified making made
  have here : making.entry ∈ run.snapshot.written := by
    rw [history.written]
    exact List.mem_append_right _ (List.mem_map_of_mem made)
  rcases extended with extended | ⟨round, extended⟩
  · exact justified.superclass_of_extends history.reached here extended
  · rw [← Snapshot.written_setRound run.snapshot round] at here
    exact justified.superclass_of_extends (.moved history.reached round) here extended

end History

end Run

namespace Compilation

variable {σ : Type}

/-- The base classes that a compilation generates, each with its round and in the order in which
they are written. -/
def generations (compilation : Compilation) (output : Output σ) (store : σ) :
    List (Nat × BaseClass) :=
  (Run.start compilation.snapshot store).generations compilation.options output
    compilation.options.maxRounds

/-- **A base class comes after the base class that it extends.**  When a compilation ends well and a
base class has another one as its superclass, or is found to extend another one in whatever round,
then that one was generated in an earlier round and comes first in the summary.  So base classes
alone never form a circle, whatever the requests ask for. -/
theorem generated_after_superclass {snapshot : Snapshot} (reached : snapshot.Reached)
    (config : Options) {output : Output σ} {store : σ} {summary : Summary}
    (finished : (run ⟨snapshot, config⟩ output store).outcome = .ok summary) :
    let final := (run ⟨snapshot, config⟩ output store).compilation.snapshot
    let generations := generations ⟨snapshot, config⟩ output store
    summary.generated = generations.map (·.2.name) ∧ summary.generated.Nodup ∧
    (∀ later base earlier superclass, (later, base) ∈ generations →
      (earlier, superclass) ∈ generations →
      base.superclass = superclass.name ∨ final.EverExtends base.name superclass.name →
      earlier < later ∧
        summary.generated.idxOf superclass.name < summary.generated.idxOf base.name) ∧
    ∀ name, ¬ Relation.TransGen (fun class_ superclass => class_ ∈ summary.generated ∧
      superclass ∈ summary.generated ∧ final.EverExtends class_ superclass) name name := by
  cases ran : lastRun ⟨snapshot, config⟩ output store with
  | mk outcome last =>
      rw [run_eq ran] at finished ⊢
      obtain rfl : outcome = .ok summary := finished
      obtain ⟨makings, history, rfl, sorted, made⟩ :=
        (Run.history_start reached store).exists_generations List.Pairwise.nil ran
      rw [List.nil_append] at history sorted
      have listed : generations ⟨snapshot, config⟩ output store =
          makings.map fun making => (making.round, making.base) := made
      have nodup := history.nodup_generated
      have ordered : ∀ making ∈ makings, ∀ other ∈ makings,
          making.base.superclass = other.base.name ∨
            last.snapshot.EverExtends making.base.name other.base.name →
          other.round < making.round ∧ last.summary.generated.idxOf other.base.name <
            last.summary.generated.idxOf making.base.name := by
        intro making here other otherHere extended
        have superclass : making.base.superclass = other.base.name :=
          extended.elim id (history.superclass_of_everExtends here)
        have earlier := history.round_lt here otherHere superclass
        rw [history.generated]
        exact ⟨earlier, idxOf_lt_idxOf_of_lt (·.base.name) sorted nodup otherHere here
          earlier⟩
      refine ⟨?_, history.generated ▸ nodup, ?_, ?_⟩
      · rw [listed, history.generated, List.map_map]
        rfl
      · rw [listed]
        intro later base earlier superclass mem otherMem extended
        obtain ⟨making, here, same⟩ := List.mem_map.mp mem
        obtain ⟨other, otherHere, otherSame⟩ := List.mem_map.mp otherMem
        cases same
        cases otherSame
        exact ordered making here other otherHere extended
      · -- along a circle the place in the summary would become less and less
        apply not_transGen_of_rank last.summary.generated.idxOf
        rintro class_ superclass ⟨mem, superclassMem, extended⟩
        rw [history.generated] at mem superclassMem
        obtain ⟨making, here, rfl⟩ := List.mem_map.mp mem
        obtain ⟨other, otherHere, rfl⟩ := List.mem_map.mp superclassMem
        exact (ordered making here other otherHere (.inr extended)).2

/-- Of two classes, the second extends the base class of the first; so this base class is generated
in an earlier round than that of the second. -/
theorem generated_after_superclass_chainOfTwo :
    let snapshot := Snapshot.sample chainOfTwo
    snapshot.Reached ∧
    (run ⟨snapshot, .standard⟩ MemoryStore.output .empty).outcome =
      .ok ⟨[⟨"foo.bar", "AutoDelegate_C", []⟩, ⟨"baz.qux", "AutoDelegate_C", []⟩], 3⟩ ∧
    ∃ earlier superclass later base,
      generations ⟨snapshot, .standard⟩ MemoryStore.output .empty =
        [(earlier, superclass), (later, base)] ∧
      base.superclass = superclass.name ∧ earlier < later := by
  have reached : (Snapshot.sample chainOfTwo).Reached := .read (Snapshot.ofTypes_sample (by
    decide +kernel))
  have finished : (run ⟨.sample chainOfTwo, .standard⟩ MemoryStore.output .empty).outcome =
      .ok ⟨[⟨"foo.bar", "AutoDelegate_C", []⟩, ⟨"baz.qux", "AutoDelegate_C", []⟩], 3⟩ := by
    decide +kernel
  have superclasses : (generations ⟨.sample chainOfTwo, .standard⟩ MemoryStore.output .empty).map
      (fun generation => (generation.2.name, generation.2.superclass)) =
        [(⟨"foo.bar", "AutoDelegate_C", []⟩, .object),
          (⟨"baz.qux", "AutoDelegate_C", []⟩, ⟨"foo.bar", "AutoDelegate_C", []⟩)] := by
    decide +kernel
  obtain ⟨-, -, ordered, -⟩ := generated_after_superclass reached .standard finished
  obtain ⟨⟨earlier, superclass⟩, rest, all, first, others⟩ := List.map_eq_cons_iff.mp superclasses
  obtain ⟨⟨later, base⟩, rfl, second⟩ := List.map_eq_singleton_iff.mp others
  have extended : base.superclass = superclass.name :=
    (congrArg Prod.snd second).trans (congrArg Prod.fst first).symm
  have before := ordered later base earlier superclass (by simp [all]) (by simp [all])
    (.inl extended)
  exact ⟨reached, finished, earlier, superclass, later, base, all, extended, before.1⟩

/-- Two classes that ask for each other's base class wait for each other. -/
example : (run ⟨.sample
    [{ name := "foo.A", kind := .class_, extends? := some "foo.AutoDelegate_A"
       request? := some ⟨[], some "foo.AutoDelegate_B"⟩ },
     { name := "foo.B", kind := .class_, extends? := some "foo.AutoDelegate_B"
       request? := some ⟨[], some "foo.AutoDelegate_A"⟩ }], .standard⟩
    MemoryStore.output .empty).outcome = .ok ⟨[], 1⟩ := by
  decide +kernel

end Compilation

end Delegation
