import Delegation.Proofs.Compilation.Endings
import Delegation.Proofs.Pass.Order
import Delegation.Proofs.Snapshot.Order

/-!
# Where the classes go

What a compilation generates and reports does not depend on where the classes go: an output can
stop it, but an output that does not stop it decides nothing.  So a compilation that ends well with
any output goes the same way in memory.  The store in memory has a reason of its own to stop, a name
that it holds already, but with such a name the class could not have joined the snapshot either.

## Main Definitions

* `Run.Mirrors` — a run in memory that has gone the same way.

## Main Statements

* `Run.Mirrors.round`, `Run.Mirrors.rounds` — it goes on the same way.
* `Compilation.clean_iff_mem_emitted` — there are no errors exactly when every annotated class is
  generated, whatever the output.
-/

namespace Delegation

open Java

/-- The names of the classes that have joined come after the names that were there. -/
theorem Snapshot.Reached.entryNames_registerAll {snapshot snapshot' : Snapshot}
    (reached : snapshot.Reached) {bases : List BaseClass}
    (joined : snapshot.registerAll bases = (none, snapshot')) :
    snapshot'.entryNames = snapshot.entryNames ++ bases.map (·.name) := by
  obtain ⟨-, -, written⟩ := reached.of_registerAll joined
  rw [← map_name_written, written, List.map_append, List.map_map, map_name_written]
  rfl

/-- A pass that ends well with an output ends well in memory and does the same, if the names of its
base classes are different from each other and from those in the store. -/
theorem Pass.exists_run_in_memory {σ : Type} {options : Options} {output : Output σ}
    {table : SymbolTable} {progress : Progress} {annotated : List ClassName} {store : σ}
    {pass : Pass σ} (ran : run options output table progress annotated store = (none, pass))
    {memory : MemoryStore} (nodup : (pass.written.map (·.name)).Nodup)
    (fresh : ∀ base ∈ pass.written, base.name ∉ memory.files) :
    run options MemoryStore.output table progress annotated memory =
      (none, { pass with store := memory.withAll options pass.written }) := by
  obtain ⟨sound, store', -, rfl⟩ := processAll_eq_none_iff.mp ran
  refine processAll_eq_none_iff.mpr ⟨sound, _, MemoryStore.writeAll_eq_none_iff.mpr ⟨?_, ?_, rfl⟩,
    rfl⟩
  · exact nodup
  · exact fresh

namespace Run

variable {σ : Type} {options : Options} {output : Output σ}

/-- A run in memory that has gone the same way as a run with another output.  What its store holds
has joined the snapshot. -/
structure Mirrors (run : Run σ) (memory : Run MemoryStore) : Prop where
  snapshot : memory.snapshot = run.snapshot
  progress : memory.progress = run.progress
  diagnostics : memory.diagnostics = run.diagnostics
  summary : memory.summary = run.summary
  joined : ∀ name ∈ memory.store.files, name ∈ run.snapshot.entryNames

/-- Before the first round, nothing has gone anywhere. -/
theorem mirrors_start (snapshot : Snapshot) (store : σ) :
    (start snapshot store).Mirrors (start snapshot MemoryStore.empty) where
  snapshot := rfl
  progress := rfl
  diagnostics := rfl
  summary := rfl
  joined _ held := absurd held Std.TreeMap.not_mem_emptyc

namespace Mirrors

variable {run run' final : Run σ} {memory : Run MemoryStore}

/-- A round that ends well ends well in memory, with the same report. -/
theorem round (mirrors : run.Mirrors memory) (reached : run.snapshot.Reached) {report : PassReport}
    (ran : run.round options output = (.ok report, run')) :
    ∃ memory', memory.round options MemoryStore.output = (.ok report, memory') ∧
      run'.Mirrors memory' := by
  obtain ⟨pass, snapshot', passed, joined, rfl, rfl⟩ := round_eq_ok_iff.mp ran
  have moved : (run.snapshot.setRound (run.summary.rounds + 1)).Reached := .moved reached _
  have names := moved.entryNames_registerAll joined
  rw [Snapshot.entryNames_setRound] at names
  -- The snapshot has taken all new names, so they are new to the store as well.
  have nodup := (moved.of_registerAll joined).1.wellFormed.nodup_entryNames
  rw [names] at nodup
  obtain ⟨-, different, apart⟩ := List.nodup_append.mp nodup
  have fresh : ∀ base ∈ pass.written, base.name ∉ memory.store.files := fun base mem held =>
    apart _ (mirrors.joined _ held) _ (List.mem_map_of_mem mem) rfl
  have passed' := Pass.exists_run_in_memory passed different fresh
  refine ⟨_, round_eq_ok_iff.mpr ⟨{ pass with
    store := memory.store.withAll options pass.written }, snapshot', ?_, ?_, rfl, rfl⟩, ?_⟩
  · rw [mirrors.snapshot, mirrors.progress, mirrors.summary]
    exact passed'
  · rw [mirrors.snapshot, mirrors.summary]
    exact joined
  · constructor
    · rfl
    · rfl
    · exact congrArg (· ++ pass.diagnostics) mirrors.diagnostics
    · show (⟨memory.summary.generated ++ _, memory.summary.rounds + 1⟩ : Summary) = _
      rw [mirrors.summary]
    · intro name held
      show name ∈ snapshot'.entryNames
      rw [names, List.mem_append]
      simp only [MemoryStore.withAll, Std.TreeMap.mem_insertMany_list, List.map_map] at held
      rcases held with old | new
      · exact .inl (mirrors.joined name old)
      · right
        rw [List.contains_eq_mem, decide_eq_true_eq] at new
        exact new

/-- Rounds that end well end well in memory, with the same summary. -/
theorem rounds (mirrors : run.Mirrors memory) (reached : run.snapshot.Reached) {left : Nat}
    {summary : Summary} (ran : rounds options output left run = (.ok summary, final)) :
    ∃ final', Run.rounds options MemoryStore.output left memory = (.ok summary, final') ∧
      final.Mirrors final' := by
  induction left generalizing run memory with
  | zero => cases ran
  | succ left ih =>
      rw [Run.rounds] at ran ⊢
      split at ran
      · cases ran
      · rename_i report next first
        obtain ⟨next', first', same⟩ := mirrors.round reached first
        have settled : next'.isSettled report = next.isSettled report := by
          rw [isSettled, isSettled, same.snapshot]
        rw [first']
        show ∃ final', (if next'.isSettled report = true then _ else _) = _ ∧ _
        rw [settled]
        split at ran
        · rename_i last
          cases ran
          refine ⟨next'.finish, ?_, ⟨same.snapshot, same.progress, ?_, same.summary, same.joined⟩⟩
          · rw [if_pos last, same.summary]
          · show next'.diagnostics ++ undefinedDiagnostics _ _ = _
            rw [same.diagnostics, same.snapshot, same.progress]
            rfl
        · rename_i more
          rw [if_neg more]
          exact ih same (reached_of_round reached first) ran

end Mirrors

end Run

namespace Compilation

variable {σ : Type} {output : Output σ} {store : σ}

/-- A compilation that ends well goes the same way in memory. -/
theorem exists_mirror {compilation : Compilation} (reached : compilation.snapshot.Reached)
    {summary : Summary} {final : Run σ}
    (ran : compilation.lastRun output store = (.ok summary, final)) :
    ∃ final', compilation.lastRun MemoryStore.output .empty = (.ok summary, final') ∧
      final.Mirrors final' :=
  (Run.mirrors_start compilation.snapshot store).rounds reached ran

/-- **There are no errors exactly when every annotated class is generated.** -/
theorem clean_iff_mem_emitted {compilation : Compilation}
    (reached : compilation.snapshot.Reached) {summary : Summary} {final : Run σ}
    (ran : compilation.lastRun output store = (.ok summary, final)) :
    Diagnostic.hasErrors final.diagnostics = false ↔
      ∀ type ∈ compilation.snapshot.annotated, type ∈ final.progress.emitted := by
  obtain ⟨final', ran', mirrors⟩ := exists_mirror reached ran
  obtain ⟨last, sound, paired, complete, -, rfl⟩ := exists_sound_of_lastRun reached ran'
  rw [← mirrors.diagnostics, ← mirrors.progress, Snapshot.annotated_eq]
  have fate : ∀ type ∈ compilation.snapshot.annotations.map Entry.name, ∃ fate : Fate, fate.Holds
      last.progress.emitted last.summary last.store last.finish.diagnostics type := by
    intro type annotated
    obtain ⟨entry, mem, rfl⟩ := List.mem_map.mp annotated
    exact sound.exists_fate paired mem (complete entry mem)
  constructor
  · intro clean type annotated
    obtain ⟨fate, holds⟩ := fate type annotated
    have generated := holds.generated_of_clean fun diagnostic told => by
      simpa using List.any_eq_false.mp clean diagnostic (List.mem_of_mem_filter told)
    exact generated.1
  · intro all
    refine List.any_eq_false.mpr fun diagnostic told => ?_
    -- an error would be about a class that is generated, and there is none about such a class
    have annotated := sound.annotated_of_mem told
    obtain ⟨fate, holds⟩ := fate _ annotated
    obtain ⟨-, -, -, -, quiet⟩ := holds.generated_of_mem (all _ annotated)
    rw [quiet diagnostic (List.mem_filter.mpr ⟨told, decide_eq_true rfl⟩)]
    exact Bool.false_ne_true

end Compilation

end Delegation
