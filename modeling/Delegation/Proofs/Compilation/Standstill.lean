import Delegation.Proofs.Compilation.Endings
import Delegation.Proofs.Compilation.History
import Delegation.Proofs.Pass.Single
import Delegation.Proofs.Snapshot.Order
import Delegation.Proofs.Stuck

/-!
# Standing still

A compilation that ends well ends with a round in which nothing was generated and after which no
types are to come.  So the symbols that the last pass saw are those that there are in the end: every
class that it put off is stuck there, the message about the class names what is missing there, and
neither another pass over such classes nor another round would bring anything.

## Main Definitions

* `Run.Still` — a run in which nothing can happen any more.
* `Pass.Idle` — a pass that has done nothing but put classes off.

## Main Statements

* `Run.still_of_round` — the last round leaves a run still.
* `Pass.idle_of_defer`, `Run.Still.round` — another pass, another round.
* `Compilation.undefined_stuck` — a class that is reported as undefined is stuck.
-/

namespace Delegation

open Java

/-! ## Symbols that stay -/

/-- When no types are to come, a later round has the same symbols. -/
theorem Snapshot.Reached.table_setRound {snapshot : Snapshot} (reached : snapshot.Reached)
    (complete : snapshot.hasLaterRounds = false) {round : Nat} (le : snapshot.round ≤ round) :
    (snapshot.setRound round).table = snapshot.table := by
  have appeared := Snapshot.hasLaterRounds_eq_false_iff.mp complete
  have same : (snapshot.setRound round).ShowsSame snapshot := by
    refine ⟨.moved reached round, reached, .of_eq (Snapshot.written_setRound ..), ?_⟩
    intro entry mem
    rw [Snapshot.written_setRound] at mem
    have now := appeared entry mem
    rw [Snapshot.round_setRound]
    omega
  exact same.table

/-! ## Passes that put off -/

namespace Pass

variable {σ : Type} {options : Options} {output : Output σ} {table : SymbolTable}
variable {progress : Progress} {annotated : List ClassName} {store : σ} {pass : Pass σ}

/-- What a pass that ends well leaves put off, it has judged so by its symbols. -/
theorem exists_of_mem_deferred (lawful : table.Lawful)
    (ran : run options output table progress annotated store = (none, pass)) {type : ClassName}
    (pending : type ∈ pass.progress.deferred) :
    ∃ decl, table.lookup type = some decl ∧ judge table decl = .defer := by
  obtain ⟨-, store', -, rfl⟩ := processAll_eq_none_iff.mp ran
  simp only [mem_deferred_settled, notMem_deferred_start, false_or] at pending
  obtain ⟨decl, listed, rfl⟩ := List.mem_map.mp pending
  obtain ⟨candidate, putOff⟩ := List.mem_filter.mp listed
  refine ⟨decl, lookup_of_mem_candidates lawful candidate, ?_⟩
  cases judged : judge table decl with
  | defer => rfl
  | _ => simp [judged] at putOff

/-- A pass that ends well without progress has written nothing. -/
theorem written_eq_nil (ran : run options output table progress annotated store = (none, pass))
    (noProgress : pass.report.madeProgress = false) : pass.written = [] := by
  obtain ⟨-, store', -, rfl⟩ := processAll_eq_none_iff.mp ran
  simpa [PassReport.madeProgress, settled, start, PassReport.empty] using noProgress

/-- A pass has done nothing but put classes off: nothing was generated, rejected or reported, and
the store is as it was. -/
structure Idle (pass : Pass σ) (store : σ) : Prop where
  generated : pass.report.generated = []
  invalid : pass.report.invalid = []
  written : pass.written = []
  diagnostics : pass.diagnostics = []
  store : pass.store = store

/-- A pass over classes that are all put off ends well and does nothing else. -/
theorem idle_of_defer (options : Options) (output : Output σ) (store : σ)
    (deferred : ∀ decl ∈ candidates progress annotated table, judge table decl = .defer) :
    ∃ pass, run options output table progress annotated store = (none, pass) ∧ pass.Idle store := by
  obtain ⟨-, -, bases, quiet⟩ := among_of_defer deferred
  have sound : ∀ decl ∈ candidates progress annotated table, (judge table decl).isSound := by
    intro decl mem
    rw [deferred decl mem]
    rfl
  have rejected : rejectedAmong table (candidates progress annotated table) = [] := by
    refine List.map_eq_nil_iff.mpr (List.filter_eq_nil_iff.mpr fun decl mem => ?_)
    rw [deferred decl mem]
    exact Bool.false_ne_true
  refine ⟨_, processAll_eq_none_iff.mpr ⟨sound, store, by rw [bases]; rfl, rfl⟩, ?_⟩
  constructor
  · exact congrArg (List.map (·.name)) bases
  · exact rejected
  · exact bases
  · exact quiet
  · rfl

end Pass

/-! ## The last round -/

namespace Run

variable {σ : Type} {options : Options} {output : Output σ}

/-- A run in which nothing can happen any more: no types are to come, and the symbols that there are
put off every class that is put off. -/
structure Still (run : Run σ) : Prop where
  reached : run.snapshot.Reached
  counted : run.snapshot.round = run.summary.rounds
  complete : run.snapshot.hasLaterRounds = false
  deferred : ∀ type ∈ run.progress.deferred, ∃ decl, run.snapshot.table.lookup type = some decl ∧
    judge run.snapshot.table decl = .defer

/-- **The last round leaves a run still.** -/
theorem still_of_round {before last : Run σ} {report : PassReport}
    (reached : before.snapshot.Reached) (ran : before.round options output = (.ok report, last))
    (settled : last.isSettled report) : last.Still := by
  have counted := round_snapshot ran
  obtain ⟨pass, snapshot', passed, joined, rfl, rfl⟩ := round_eq_ok_iff.mp ran
  simp only [isSettled, Bool.and_eq_true, Bool.not_eq_true'] at settled
  obtain ⟨noProgress, complete⟩ := settled
  -- nothing was generated, so nothing has joined since the pass
  rw [Pass.written_eq_nil passed noProgress] at joined
  obtain rfl : before.snapshot.setRound (before.summary.rounds + 1) = snapshot' :=
    congrArg Prod.snd joined
  have moved : (before.snapshot.setRound (before.summary.rounds + 1)).Reached := .moved reached _
  exact ⟨moved, counted, complete, fun type pending =>
    Pass.exists_of_mem_deferred moved.wellFormed.lawful passed pending⟩

/-- In the end, only the classes that are still put off are reported as undefined. -/
theorem Quiet.filter_undefined {run : Run σ} (quiet : run.Quiet) :
    run.finish.diagnostics.filter (·.code = .undefined) =
      undefinedDiagnostics run.snapshot.table run.progress := by
  have silent : run.diagnostics.filter (·.code = .undefined) = [] := by
    refine List.filter_eq_nil_iff.mpr fun diagnostic told => ?_
    simpa using (quiet diagnostic told).1
  have all : (undefinedDiagnostics run.snapshot.table run.progress).filter (·.code = .undefined) =
      undefinedDiagnostics run.snapshot.table run.progress := by
    refine List.filter_eq_self.mpr fun diagnostic told => ?_
    obtain ⟨type, -, rfl⟩ := List.mem_map.mp told
    exact decide_eq_true rfl
  rw [finish, List.filter_append, silent, all, List.nil_append]

namespace Still

variable {run : Run σ}

/-- A pass over classes that are put off does nothing but put them off again. -/
theorem idle (still : run.Still) {σ' : Type} (options : Options) (output : Output σ') (store : σ')
    (progress : Progress) (annotated : List ClassName)
    (pending : ∀ type, type ∈ progress.deferred ∨ type ∈ annotated →
      type ∈ run.progress.deferred) :
    ∃ pass, Pass.run options output run.snapshot.table progress annotated store = (none, pass) ∧
      pass.Idle store := by
  have lawful := still.reached.wellFormed.lawful
  refine Pass.idle_of_defer options output store fun decl candidate => ?_
  have known := (Pass.mem_map_name_candidates_iff lawful).mp (List.mem_map_of_mem candidate)
  obtain ⟨other, found, putOff⟩ := still.deferred decl.name (pending _ known.2.2)
  rw [Pass.lookup_of_mem_candidates lawful candidate] at found
  cases found
  exact putOff

/-- What is reported in the end moves nothing. -/
theorem finish (still : run.Still) : run.finish.Still :=
  ⟨still.reached, still.counted, still.complete, still.deferred⟩

/-- No class is new in the round after the last one. -/
theorem annotatedIn_eq_nil (still : run.Still) :
    (run.snapshot.setRound (run.summary.rounds + 1)).annotatedIn (run.summary.rounds + 1) = [] := by
  refine List.eq_nil_iff_forall_not_mem.mpr fun type new => ?_
  have moved : (run.snapshot.setRound (run.summary.rounds + 1)).Reached := .moved still.reached _
  obtain ⟨entry, mem, -, starts⟩ := (moved.mem_annotatedIn_iff (Nat.succ_pos _)).mp new
  rw [Snapshot.annotations_setRound] at mem
  have appeared := Snapshot.round_le_of_not_hasLaterRounds still.complete mem
  rw [still.counted, starts] at appeared
  omega

/-- **Another round does nothing**, and is the last one again. -/
theorem round (still : run.Still) (options : Options) (output : Output σ) :
    ∃ report next, run.round options output = (.ok report, next) ∧ report.generated = [] ∧
      report.invalid = [] ∧ next.isSettled report ∧
      next.snapshot.table = run.snapshot.table ∧ next.store = run.store ∧
      next.diagnostics = run.diagnostics := by
  have later : run.snapshot.round ≤ run.summary.rounds + 1 := by
    rw [still.counted]
    exact Nat.le_succ _
  have same := still.reached.table_setRound still.complete later
  obtain ⟨pass, passed, idle⟩ := still.idle options output run.store run.progress []
    fun type pending => pending.elim id nofun
  refine ⟨_, _, round_eq_ok_iff.mpr ⟨pass, run.snapshot.setRound (run.summary.rounds + 1), ?_, ?_,
    rfl, rfl⟩, idle.generated, idle.invalid, ?_, same, idle.store, ?_⟩
  · rw [same, still.annotatedIn_eq_nil]
    exact passed
  · rw [idle.written]
    rfl
  · have complete : (run.snapshot.setRound (run.summary.rounds + 1)).hasLaterRounds = false := by
      rw [Snapshot.hasLaterRounds_eq_false_iff, Snapshot.written_setRound]
      intro entry mem
      have appeared := Snapshot.hasLaterRounds_eq_false_iff.mp still.complete entry mem
      exact Nat.le_trans appeared (Nat.le_trans later (Nat.le_max_left ..))
    simp [isSettled, PassReport.madeProgress, idle.generated, complete]
  · show run.diagnostics ++ pass.diagnostics = _
    rw [idle.diagnostics, List.append_nil]

end Still

end Run

namespace Compilation

variable {σ : Type}

/-- A compilation that ends well leaves a run still, and no class has been reported as undefined
until the end. -/
theorem exists_still_of_lastRun {compilation : Compilation} {output : Output σ} {store : σ}
    (reached : compilation.snapshot.Reached) {summary : Summary} {final : Run σ}
    (ran : compilation.lastRun output store = (.ok summary, final)) :
    ∃ last : Run σ, last.Still ∧ last.Quiet ∧ final = last.finish := by
  obtain ⟨before, report, last, ⟨reachedBefore, -⟩, lastRound, ⟨-, quiet⟩, settled, -, rfl⟩ :=
    Run.exists_of_rounds (fun run : Run σ => run.snapshot.Reached ∧ run.Quiet)
      (fun ⟨reached, quiet⟩ ran => ⟨Run.reached_of_round reached ran, quiet.round ran⟩)
      ⟨reached, Run.quiet_start _ _⟩ ran
  exact ⟨last, Run.still_of_round reachedBefore lastRound settled, quiet, rfl⟩

/-- **A class that is reported as undefined is stuck.**  When a compilation ends well, what a class
that is reported as undefined waits for is missing in the final snapshot: values of its request name
missing types, and the message lists all of them, or there are none, and the message is the general
one.  No other pass over such classes brings anything, and neither does another round. -/
theorem undefined_stuck {snapshot : Snapshot} (reached : snapshot.Reached) (config : Options)
    {output : Output σ} {store : σ} {summary : Summary}
    (finished : (run ⟨snapshot, config⟩ output store).outcome = .ok summary) :
    let result := run ⟨snapshot, config⟩ output store
    let table := result.compilation.snapshot.table
    let undefined := result.diagnostics.filter (·.code = .undefined)
    (∀ diagnostic ∈ undefined, ∃ decl values,
      table.lookup decl.name = some decl ∧ diagnostic.location = .type decl.name ∧
      diagnostic.isError ∧ table.Stuck decl ∧ table.Misses decl.request values ∧
      (diagnostic.message = "@AutoDelegate references types that were never generated" ↔
        values = []) ∧
      (values ≠ [] → diagnostic.message =
        "@AutoDelegate references undefined types: " ++ ", ".intercalate values)) ∧
    (∀ (σ' : Type) (options : Options) (output' : Output σ') (store' : σ') (progress : Progress)
      (annotated : List ClassName),
      (∀ type, type ∈ progress.deferred ∨ type ∈ annotated →
        type ∈ undefined.map (·.location.typeName)) →
      ∃ pass, Pass.run options output' table progress annotated store' = (none, pass) ∧
        pass.Idle store') ∧
    ∃ report next, (lastRun ⟨snapshot, config⟩ output store).2.round config output =
        (.ok report, next) ∧ report.generated = [] ∧ next.isSettled report ∧
      next.snapshot.table = table ∧ next.store = result.store := by
  cases ran : lastRun ⟨snapshot, config⟩ output store with
  | mk outcome final =>
      rw [run_eq ran] at finished ⊢
      obtain rfl : outcome = .ok summary := finished
      obtain ⟨last, still, quiet, rfl⟩ := exists_still_of_lastRun reached ran
      simp only [quiet.filter_undefined]
      refine ⟨fun diagnostic told => ?_, fun σ' options output' store' progress annotated pending =>
        ?_, ?_⟩
      · obtain ⟨type, listed, rfl⟩ := List.mem_map.mp told
        obtain ⟨decl, found, putOff⟩ := still.deferred type (Std.TreeSet.mem_toList.mp listed)
        obtain rfl : decl.name = type := still.reached.wellFormed.lawful type decl found
        obtain ⟨values, misses, general, listing⟩ := exists_misses_of_undefinedDiagnostic found
        exact ⟨decl, values, found, rfl, rfl, stuck_of_judge putOff, misses, general, listing⟩
      · refine still.idle options output' store' progress annotated fun type known => ?_
        obtain ⟨diagnostic, told, rfl⟩ := List.mem_map.mp (pending type known)
        obtain ⟨type, listed, rfl⟩ := List.mem_map.mp told
        exact Std.TreeSet.mem_toList.mp listed
      · obtain ⟨report, next, another, generated, -, settled, same, stored, -⟩ :=
          still.finish.round config output
        exact ⟨report, next, another, generated, settled, same, stored⟩

/-- Two classes that wait to the end: one for a parent of its delegate, the other one for types that
its request names. -/
def waiting : List TypeDefinition :=
  [{ name := "foo.I", kind := .interface, interfaces := ["foo.Gone"] },
   { name := "foo.A", kind := .class_, extends? := some "foo.AutoDelegate_A"
     request? := some ⟨[⟨"foo.I", none⟩], none⟩ },
   { name := "foo.B", kind := .class_, extends? := some "foo.AutoDelegate_B"
     request? := some ⟨[⟨"foo.X", none⟩, ⟨"foo.I", none⟩, ⟨"foo.X", none⟩], some "foo.Y"⟩ }]

/-- The message about the second one lists the two types. -/
theorem undefined_stuck_waiting :
    let snapshot := Snapshot.sample waiting
    let result := run ⟨snapshot, .standard⟩ MemoryStore.output .empty
    snapshot.Reached ∧ result.outcome = .ok ⟨[], 1⟩ ∧
    result.diagnostics.map (fun diagnostic => (diagnostic.location, diagnostic.message)) =
      [(.type ⟨"foo", "A", []⟩, "@AutoDelegate references types that were never generated"),
        (.type ⟨"foo", "B", []⟩, "@AutoDelegate references undefined types: foo.X, foo.Y")] ∧
    ∀ diagnostic ∈ result.diagnostics.filter (·.code = .undefined),
      ∃ decl, diagnostic.location = .type decl.name ∧
        result.compilation.snapshot.table.Stuck decl := by
  have reached : (Snapshot.sample waiting).Reached := .read (Snapshot.ofTypes_sample (by
    decide +kernel))
  have finished : (run ⟨.sample waiting, .standard⟩ MemoryStore.output .empty).outcome =
      .ok ⟨[], 1⟩ := by decide +kernel
  obtain ⟨stuck, -⟩ := undefined_stuck reached .standard finished
  refine ⟨reached, finished, by decide +kernel, fun diagnostic told => ?_⟩
  obtain ⟨decl, values, -, located, -, waits, -⟩ := stuck diagnostic told
  exact ⟨decl, located, waits⟩

end Compilation

end Delegation
