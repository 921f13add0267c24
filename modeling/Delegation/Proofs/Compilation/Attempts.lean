import Delegation.Proofs.Compilation.Endings
import Delegation.Proofs.Pass.Attempts

/-!
# What a compilation tries to write

A compilation hands its base classes to an output, round by round, and the answers are all that it
learns from the output.  So its result, its diagnostics and the classes themselves are the same with
every output that gives the same answers, and the store in the end is what these classes make of the
store in the beginning.

## Main Definitions

* `Compilation.attempts` — the base classes that a compilation tries to write, in order.
* `Run.withStore` — the same run with another store.

## Main Statements

* `Compilation.lastRun_of_answers` — with the same answers, another output takes the compilation the
  same way.
* `Compilation.store_run` — what becomes of the store.
* `Compilation.outcome_of_answer` — an answer that is a fault is how the compilation ends.
* `Compilation.exists_of_mem_attempts` — the classes are base classes of annotated types.
-/

namespace Delegation

open Java

namespace Run

variable {σ τ : Type} {options : Options} {output : Output σ} {other : Output τ}
variable {run : Run σ} {store : τ}

/-- The same run with another store. -/
def withStore (run : Run σ) (store : τ) : Run τ :=
  ⟨run.snapshot, run.progress, store, run.diagnostics, run.summary, run.log⟩

/-! ## One round -/

/-- The base classes that the next round tries to write. -/
def roundAttempts (options : Options) (output : Output σ) (run : Run σ) : List BaseClass :=
  (Pass.start run.progress run.store).attempts options output run.nextSnapshot.table
    (Pass.candidates run.progress (run.nextSnapshot.annotatedIn (run.summary.rounds + 1))
      run.nextSnapshot.table)

/-- With the same answers, another output takes the pass of the round the same way. -/
theorem pass_withStore
    (same : other.answers options store (run.roundAttempts options output) =
      output.answers options run.store (run.roundAttempts options output)) :
    (run.withStore store).pass options other =
      ((run.pass options output).1, (run.pass options output).2.withStore
        (other.after options store (run.roundAttempts options output))) := by
  have begun : (Pass.start run.progress run.store).withStore store =
      Pass.start run.progress store := rfl
  have passed := Pass.processAll_withStore same
  rwa [begun] at passed

/-- How a round goes on after its pass: the generated classes join, unless there is a fault. -/
def conclude (run : Run σ) (ended : Option Fault × Pass σ) : Except Fault PassReport × Run σ :=
  let next : Run σ :=
    ⟨run.nextSnapshot, ended.2.progress, ended.2.store, run.diagnostics ++ ended.2.diagnostics,
      run.summary, run.log ++ ended.2.log⟩
  match ended.1 with
  | some fault => (.error fault, next)
  | none =>
    match run.nextSnapshot.registerAll ended.2.written with
    | (some fault, snapshot) => (.error fault, { next with snapshot })
    | (none, snapshot) =>
      (.ok ended.2.report, { next with
        snapshot
        summary := ⟨run.summary.generated ++ ended.2.report.generated, run.summary.rounds + 1⟩ })

theorem round_eq_conclude (options : Options) (output : Output σ) (run : Run σ) :
    run.round options output = run.conclude (run.pass options output) := rfl

theorem conclude_withStore (run : Run σ) (ended : Option Fault × Pass σ) (store later : τ) :
    (run.withStore store).conclude (ended.1, ended.2.withStore later) =
      ((run.conclude ended).1, (run.conclude ended).2.withStore later) := by
  have joins : (run.withStore store).nextSnapshot.registerAll (ended.2.withStore later).written =
      run.nextSnapshot.registerAll ended.2.written := rfl
  unfold conclude
  cases ended.1 with
  | some fault => rfl
  | none =>
      simp only [joins]
      cases run.nextSnapshot.registerAll ended.2.written with
      | mk fault? snapshot => cases fault? <;> rfl

/-- With the same answers, another output takes the round the same way. -/
theorem round_withStore
    (same : other.answers options store (run.roundAttempts options output) =
      output.answers options run.store (run.roundAttempts options output)) :
    (run.withStore store).round options other =
      ((run.round options output).1, (run.round options output).2.withStore
        (other.after options store (run.roundAttempts options output))) := by
  rw [round_eq_conclude, round_eq_conclude, pass_withStore same, conclude_withStore]

/-- What becomes of the store in a round. -/
theorem store_round (options : Options) (output : Output σ) (run : Run σ) :
    (run.round options output).2.store =
      output.after options run.store (run.roundAttempts options output) := by
  have itself : run.round options output =
      ((run.round options output).1, (run.round options output).2.withStore
        (output.after options run.store (run.roundAttempts options output))) := round_withStore rfl
  exact congrArg (fun ended => ended.2.store) itself

/-- An answer that is a fault ends the round. -/
theorem round_of_answer {fault : Fault} (answered : .error fault ∈
    output.answers options run.store (run.roundAttempts options output)) :
    (run.round options output).1 = .error fault := by
  have stopped : (run.pass options output).1 = some fault :=
    Pass.fault_of_answer answered
  rw [round_eq_conclude, conclude, stopped]

/-! ## All rounds -/

/-- The base classes that a number of rounds try to write. -/
def attempts (options : Options) (output : Output σ) : Nat → Run σ → List BaseClass
  | 0, _ => []
  | left + 1, run =>
    run.roundAttempts options output ++
      match run.round options output with
      | (.error _, _) => []
      | (.ok report, next) => if next.isSettled report then [] else attempts options output left next

/-- With the same answers, another output takes the rounds the same way. -/
theorem rounds_withStore {left : Nat}
    (same : other.answers options store (attempts options output left run) =
      output.answers options run.store (attempts options output left run)) :
    rounds options other left (run.withStore store) =
      ((rounds options output left run).1, (rounds options output left run).2.withStore
        (other.after options store (attempts options output left run))) := by
  induction left generalizing run store with
  | zero => rfl
  | succ left ih =>
      rw [attempts] at same ⊢
      obtain ⟨head, tail⟩ := Output.answers_append_inj same
      rw [Output.after_append, rounds, rounds, round_withStore head]
      rw [← store_round options output run] at tail
      cases ended : run.round options output with
      | mk outcome next =>
          rw [ended] at tail
          cases outcome with
          | error fault => rfl
          | ok report =>
              show (if next.isSettled report = true then _ else _) = _
              by_cases settled : next.isSettled report
              · simp only [if_pos settled]
                rfl
              · simp only [if_neg settled] at tail ⊢
                exact ih tail

/-- An answer that is a fault is how the rounds end. -/
theorem rounds_of_answer {left : Nat} {fault : Fault} (answered : .error fault ∈
    output.answers options run.store (attempts options output left run)) :
    (rounds options output left run).1 = .error fault := by
  induction left generalizing run with
  | zero => cases answered
  | succ left ih =>
      rw [attempts, Output.answers_append, ← store_round options output run,
        List.mem_append] at answered
      rw [rounds]
      cases ended : run.round options output with
      | mk outcome next =>
          rw [ended] at answered
          rcases answered with here | later
          · have stopped := round_of_answer here
            rw [ended] at stopped
            cases stopped
            rfl
          · cases outcome with
            | error other => cases later
            | ok report =>
                by_cases settled : next.isSettled report
                · simp only [if_pos settled] at later
                  cases later
                · simp only [if_neg settled] at later ⊢
                  exact ih later

/-! ## The classes -/

/-- The annotated types of a run stay the same, and only such types are put off. -/
structure Tracks (annotations : List Entry) (run : Run σ) : Prop where
  reached : run.snapshot.Reached
  annotated : run.snapshot.annotations = annotations
  pending : ∀ type ∈ run.progress.deferred, type ∈ annotations.map Entry.name

variable {annotations : List Entry}

theorem tracks_start {snapshot : Snapshot} (reached : snapshot.Reached) (store : σ) :
    (start snapshot store).Tracks snapshot.annotations where
  reached := reached
  annotated := rfl
  pending _ mem := absurd mem Std.TreeSet.not_mem_emptyc

/-- What the pass of the next round looks at is annotated. -/
theorem Tracks.annotated_of_mem_candidates (tracks : run.Tracks annotations) {decl : TypeDecl}
    (candidate : decl ∈ Pass.candidates run.progress
      (run.nextSnapshot.annotatedIn (run.summary.rounds + 1)) run.nextSnapshot.table) :
    decl.name ∈ annotations.map Entry.name := by
  have moved : run.nextSnapshot.Reached := .moved tracks.reached _
  have known := (Pass.mem_map_name_candidates_iff moved.wellFormed.lawful).mp
    (List.mem_map_of_mem candidate)
  rcases known.2.2 with pending | new
  · exact tracks.pending _ pending
  · obtain ⟨entry, mem, named, -⟩ := (moved.mem_annotatedIn_iff (Nat.succ_pos _)).mp new
    rw [nextSnapshot, Snapshot.annotations_setRound, tracks.annotated] at mem
    exact named ▸ List.mem_map_of_mem mem

/-- A round keeps it so. -/
theorem Tracks.round (tracks : run.Tracks annotations) {report : PassReport} {next : Run σ}
    (ran : run.round options output = (.ok report, next)) : next.Tracks annotations := by
  obtain ⟨pass, snapshot, passed, joined, -, rfl⟩ := round_eq_ok_iff.mp ran
  refine ⟨reached_of_round tracks.reached ran, ?_, fun type pending => ?_⟩
  · rw [Snapshot.annotations_registerAll joined, Snapshot.annotations_setRound, tracks.annotated]
  · obtain ⟨-, store, -, rfl⟩ := Pass.processAll_eq_none_iff.mp passed
    rw [Pass.mem_deferred_settled] at pending
    obtain ⟨decl, mem, rfl⟩ :=
      List.mem_map.mp (pending.resolve_left (Pass.notMem_deferred_start _ _ type))
    exact tracks.annotated_of_mem_candidates (List.mem_of_mem_filter mem)

/-- What the rounds try to write are base classes of annotated types. -/
theorem Tracks.exists_of_mem_attempts (tracks : run.Tracks annotations) {left : Nat}
    {base : BaseClass} (mem : base ∈ attempts options output left run) :
    ∃ type ∈ annotations.map Entry.name, type.generated = base.name := by
  induction left generalizing run with
  | zero => cases mem
  | succ left ih =>
      rw [attempts] at mem
      rcases List.mem_append.mp mem with now | later
      · have named := List.mem_map_of_mem (f := (·.name)) (Pass.mem_basesAmong_of_mem_attempts now)
        rw [map_name_basesAmong] at named
        obtain ⟨type, among, same⟩ := List.mem_map.mp named
        obtain ⟨decl, listed, rfl⟩ := List.mem_map.mp among
        exact ⟨_, tracks.annotated_of_mem_candidates (List.mem_of_mem_filter listed), same⟩
      · cases ended : run.round options output with
        | mk outcome next =>
            rw [ended] at later
            cases outcome with
            | error fault => cases later
            | ok report =>
                by_cases settled : next.isSettled report
                · simp only [if_pos settled] at later
                  cases later
                · simp only [if_neg settled] at later
                  exact ih (tracks.round ended) later

end Run

/-! ## A whole compilation -/

namespace Compilation

variable {σ τ : Type} {output : Output σ} {other : Output τ} {store : σ} {store' : τ}
variable {compilation : Compilation}

/-- The base classes that a compilation tries to write, in order. -/
def attempts (compilation : Compilation) (output : Output σ) (store : σ) : List BaseClass :=
  (Run.start compilation.snapshot store).attempts compilation.options output
    compilation.options.maxRounds

/-- **With the same answers, another output takes the compilation the same way.** -/
theorem lastRun_of_answers
    (same : other.answers compilation.options store' (compilation.attempts output store) =
      output.answers compilation.options store (compilation.attempts output store)) :
    compilation.lastRun other store' =
      ((compilation.lastRun output store).1, (compilation.lastRun output store).2.withStore
        (other.after compilation.options store' (compilation.attempts output store))) :=
  Run.rounds_withStore same

/-- So it leaves the same behind, except for the store. -/
theorem run_of_answers
    (same : other.answers compilation.options store' (compilation.attempts output store) =
      output.answers compilation.options store (compilation.attempts output store)) :
    compilation.run other store' =
      ⟨(compilation.run output store).outcome, (compilation.run output store).compilation,
        other.after compilation.options store' (compilation.attempts output store),
        (compilation.run output store).diagnostics, (compilation.run output store).log⟩ := by
  exact run_eq (lastRun_of_answers same)

/-- What becomes of the store. -/
theorem store_run (compilation : Compilation) (output : Output σ) (store : σ) :
    (compilation.run output store).store =
      output.after compilation.options store (compilation.attempts output store) := by
  have itself : compilation.run output store = ⟨(compilation.run output store).outcome,
      (compilation.run output store).compilation,
      output.after compilation.options store (compilation.attempts output store),
      (compilation.run output store).diagnostics, (compilation.run output store).log⟩ :=
    run_of_answers rfl
  exact congrArg CompilationResult.store itself

/-- **An answer that is a fault is how the compilation ends.** -/
theorem outcome_of_answer {fault : Fault} (answered : .error fault ∈
    output.answers compilation.options store (compilation.attempts output store)) :
    (compilation.run output store).outcome = .error fault :=
  Run.rounds_of_answer answered

/-- **What a compilation tries to write are base classes of annotated types.** -/
theorem exists_of_mem_attempts (reached : compilation.snapshot.Reached) {base : BaseClass}
    (mem : base ∈ compilation.attempts output store) :
    ∃ type ∈ compilation.snapshot.annotated, type.generated = base.name := by
  rw [Snapshot.annotated_eq]
  exact (Run.tracks_start reached store).exists_of_mem_attempts mem

end Compilation

end Delegation
