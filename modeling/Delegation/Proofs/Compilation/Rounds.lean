import Delegation.Compilation
import Delegation.Proofs.Pass.Ledger
import Delegation.Proofs.Snapshot.WellFormed

/-!
# Rounds

What one round of a compilation does when no fault stops it, and how to reason about all of them: a
compilation that ends well has gone from round to round, each of them ending well, up to one that
was the last.  The annotated types are the same in every round; only which of them are new differs.

## Main Definitions

* `Snapshot.annotations` — the annotated types of a snapshot as they are written.
* `Run.pass` — the pass of the next round, over the snapshot as that round begins with it.
* `Run.Quiet` — neither a fault nor a class that refers to what never appeared has been reported.

## Main Statements

* `Run.round_eq_ok_iff` — a round that ends well.
* `Run.exists_of_rounds` — what every round keeps holds in the end.
-/

namespace Delegation

open Java

namespace Snapshot

/-! ## Annotated types -/

/-- The annotated types, visible or not, as they are written. -/
def annotations (snapshot : Snapshot) : List Entry :=
  snapshot.written.filter (·.decl.request?.isSome)

@[simp] theorem annotations_setRound (snapshot : Snapshot) (round : Nat) :
    (snapshot.setRound round).annotations = snapshot.annotations := by
  rw [annotations, written_setRound, annotations]

/-- A generated class is not annotated. -/
theorem annotations_register {snapshot snapshot' : Snapshot} {base : BaseClass}
    (joined : snapshot.register base = .ok snapshot') :
    snapshot'.annotations = snapshot.annotations := by
  rw [annotations, written_register joined, List.filter_append]
  exact List.append_nil _

/-- The names of the types that are new in a round. -/
theorem annotatedIn_eq (snapshot : Snapshot) (round : Nat) :
    snapshot.annotatedIn round =
      (snapshot.annotations.filter (·.startsIn round)).map Entry.name := by
  rw [annotatedIn, annotations, written, List.filter_map, List.filter_map, List.map_map,
    List.filter_filter]
  congr 1
  refine List.filter_congr fun entry _ => ?_
  exact Bool.and_comm ..

/-- Where no types are still to come, all annotated types have come. -/
theorem round_le_of_not_hasLaterRounds {snapshot : Snapshot}
    (settled : snapshot.hasLaterRounds = false) {entry : Entry}
    (mem : entry ∈ snapshot.annotations) : entry.round ≤ snapshot.round := by
  obtain ⟨original, listed, rfl⟩ := List.mem_map.mp (List.mem_of_mem_filter mem)
  simp only [hasLaterRounds, Array.any_eq_false', decide_eq_true_eq] at settled
  exact Nat.le_of_not_lt (settled original (Array.mem_def.mpr listed))

namespace Reached

variable {snapshot : Snapshot}

/-- No two annotated types have one name. -/
theorem nodup_annotations (reached : snapshot.Reached) :
    (snapshot.annotations.map Entry.name).Nodup := by
  have nodup := reached.wellFormed.nodup_entryNames
  rw [← map_name_written] at nodup
  exact nodup.sublist (List.filter_sublist.map _)

/-- No annotated type appears before the first round. -/
theorem one_le_round (reached : snapshot.Reached) {entry : Entry}
    (mem : entry ∈ snapshot.annotations) : 1 ≤ entry.round := by
  obtain ⟨original, listed, rfl⟩ := List.mem_map.mp (List.mem_of_mem_filter mem)
  exact (reached.wellFormed.proper original listed).appears

/-- The types that are new in a round are those annotated for it. -/
theorem mem_annotatedIn_iff (reached : snapshot.Reached) {round : Nat} (begun : 1 ≤ round)
    {type : ClassName} : type ∈ snapshot.annotatedIn round ↔
      ∃ entry ∈ snapshot.annotations, entry.name = type ∧ entry.round = round := by
  rw [annotatedIn_eq, List.mem_map]
  refine exists_congr fun entry => ?_
  rw [List.mem_filter, and_assoc]
  refine and_congr_right fun mem => ?_
  rw [and_comm]
  refine and_congr_right fun _ => ?_
  -- Rounds below the first are read as the first, but no entry is in one.
  have appears := reached.one_le_round mem
  simp only [Entry.startsIn, Bool.or_eq_true, Bool.and_eq_true, beq_iff_eq, decide_eq_true_eq]
  omega

/-- An annotated type is visible from its round on. -/
theorem isVisible_of_round_le (reached : snapshot.Reached) {entry : Entry}
    (mem : entry ∈ snapshot.annotations) (appeared : entry.round ≤ snapshot.round) :
    snapshot.table.isVisible entry.name := by
  obtain ⟨original, listed, rfl⟩ := List.mem_map.mp (List.mem_of_mem_filter mem)
  refine Option.isSome_iff_exists.mpr ⟨original.decl, ?_⟩
  exact reached.wellFormed.lookup_eq_some_iff.mpr ⟨original, listed, rfl, appeared, rfl⟩

end Reached

/-! ## Joining -/

/-- What joining each of some classes keeps, joining them keeps, even if one of them is refused. -/
theorem kept_registerAll (invariant : Snapshot → Prop) {bases : List BaseClass}
    (step : ∀ base ∈ bases, ∀ {before after}, invariant before → before.register base = .ok after →
      invariant after) {snapshot : Snapshot} (start : invariant snapshot) :
    invariant (snapshot.registerAll bases).2 := by
  induction bases generalizing snapshot with
  | nil => exact start
  | cons base rest ih =>
      rw [registerAll]
      split
      · rename_i next ok
        exact ih (fun other mem => step other (List.mem_cons_of_mem _ mem))
          (step base List.mem_cons_self start ok)
      · exact start

/-- What joining one class keeps, joining several keeps. -/
theorem registerAll_induction (invariant : Snapshot → Prop) {bases : List BaseClass}
    {snapshot snapshot' : Snapshot}
    (step : ∀ {before after base}, invariant before → before.register base = .ok after →
      invariant after)
    (start : invariant snapshot) (joined : snapshot.registerAll bases = (none, snapshot')) :
    invariant snapshot' := by
  have kept := kept_registerAll invariant (fun base (_ : base ∈ bases) => step) start
  rwa [joined] at kept

/-- However many classes join, the snapshot is one that can be made. -/
theorem Reached.joinedAll {snapshot : Snapshot} (reached : snapshot.Reached)
    (bases : List BaseClass) :
    (snapshot.registerAll bases).2.Reached :=
  kept_registerAll Reached (fun _ _ _ _ held ok => .joined held ok) reached

/-- Base classes are not annotated. -/
theorem annotations_registerAll {bases : List BaseClass} {snapshot snapshot' : Snapshot}
    (joined : snapshot.registerAll bases = (none, snapshot')) :
    snapshot'.annotations = snapshot.annotations :=
  registerAll_induction (fun after => after.annotations = snapshot.annotations)
    (fun kept ok => (annotations_register ok).trans kept) rfl joined

end Snapshot

/-- The classes that a pass writes, if it ends well, were synthesised from its table. -/
theorem Pass.exists_synthesise_of_mem_written {σ : Type} {options : Options} {output : Output σ}
    {table : SymbolTable} {progress : Progress} {annotated : List ClassName} {store : σ}
    {pass : Pass σ} (ran : run options output table progress annotated store = (none, pass))
    {base : BaseClass} (mem : base ∈ pass.written) :
    ∃ plan result, synthesise table plan = .ok result ∧ result.base = base := by
  obtain ⟨-, store', -, rfl⟩ := processAll_eq_none_iff.mp ran
  have among : base ∈ basesAmong table (candidates progress annotated table) := mem
  obtain ⟨decl, -, made⟩ := List.mem_filterMap.mp among
  obtain ⟨result, generated, same⟩ := Option.map_eq_some_iff.mp made
  cases judged : judge table decl with
  | generate made =>
      rw [judged] at generated
      cases generated
      obtain ⟨plan, -, ok⟩ := judge_eq_generate_iff.mp judged
      exact ⟨plan, result, ok, same⟩
  | _ => simp [judged] at generated

namespace Run

variable {σ : Type} {options : Options} {output : Output σ}

/-! ## One round -/

/-- The snapshot as the next round begins with it. -/
def nextSnapshot (run : Run σ) : Snapshot := run.snapshot.setRound (run.summary.rounds + 1)

/-- The pass of the next round. -/
def pass (options : Options) (output : Output σ) (run : Run σ) : Option Fault × Pass σ :=
  Pass.run options output run.nextSnapshot.table run.progress
    (run.nextSnapshot.annotatedIn (run.summary.rounds + 1)) run.store

/-- A round ends well when its pass does and the generated classes join. -/
theorem round_eq_ok_iff {run run' : Run σ} {report : PassReport} :
    run.round options output = (.ok report, run') ↔
      ∃ pass snapshot',
        Pass.run options output (run.snapshot.setRound (run.summary.rounds + 1)).table run.progress
          ((run.snapshot.setRound (run.summary.rounds + 1)).annotatedIn (run.summary.rounds + 1))
          run.store = (none, pass) ∧
        (run.snapshot.setRound (run.summary.rounds + 1)).registerAll pass.written =
          (none, snapshot') ∧
        report = pass.report ∧
        run' = ⟨snapshot', pass.progress, pass.store, run.diagnostics ++ pass.diagnostics,
          ⟨run.summary.generated ++ pass.report.generated, run.summary.rounds + 1⟩,
          run.log ++ pass.log⟩ := by
  unfold round
  simp only
  generalize (run.snapshot.setRound (run.summary.rounds + 1)).annotatedIn _ = annotated
  split
  · rename_i fault ended
    generalize Pass.run _ _ _ _ _ _ = passed at *
    obtain ⟨fault?, pass⟩ := passed
    cases ended
    simp
  · rename_i ended
    generalize Pass.run _ _ _ _ _ _ = passed at *
    obtain ⟨fault?, pass⟩ := passed
    cases ended
    simp only [Prod.mk.injEq, true_and, exists_and_left, exists_eq_left']
    split
    · rename_i fault snapshot joined
      simp [joined]
    · rename_i snapshot joined
      simp [joined, eq_comm]

/-- After a round the snapshot is in the round that is counted. -/
theorem round_snapshot {run run' : Run σ} {report : PassReport}
    (ran : run.round options output = (.ok report, run')) :
    run'.snapshot.round = run'.summary.rounds := by
  obtain ⟨pass, snapshot', -, joined, -, rfl⟩ := round_eq_ok_iff.mp ran
  refine Snapshot.registerAll_induction
    (fun snapshot => snapshot.round = run.summary.rounds + 1)
    (fun kept ok => (Snapshot.round_register ok).trans kept) ?_ joined
  rw [Snapshot.round_setRound]
  omega

section Kept

variable (invariant : Snapshot → Prop)
  (moved : ∀ {snapshot} round, invariant snapshot → invariant (snapshot.setRound round))
  (joined : ∀ {source snapshot snapshot' plan result}, invariant source →
    synthesise source.table plan = .ok result → invariant snapshot →
    snapshot.register result.base = .ok snapshot' → invariant snapshot')
include moved joined

/-- What moving to a round and joining synthesised classes keep of a snapshot, a round keeps, however
it ends. -/
theorem kept_round (options : Options) (output : Output σ) {run : Run σ}
    (before : invariant run.snapshot) : invariant (run.round options output).2.snapshot := by
  have next : invariant run.nextSnapshot := moved _ before
  cases passed : run.pass options output with
  | mk fault? pass =>
      rw [round, ← nextSnapshot, ← Run.pass, passed]
      cases fault? with
      | some fault => exact next
      | none =>
          have all : invariant (run.nextSnapshot.registerAll pass.written).2 := by
            refine Snapshot.kept_registerAll invariant (fun base mem _ _ held ok => ?_) next
            obtain ⟨plan, result, made, rfl⟩ := Pass.exists_synthesise_of_mem_written passed mem
            exact joined next made held ok
          simp only
          split
          · rename_i refused
            rwa [refused] at all
          · rename_i registered
            rwa [registered] at all

/-- So do all rounds, however they end. -/
theorem kept_rounds {options : Options} {output : Output σ} {left : Nat} {run : Run σ}
    (before : invariant run.snapshot) :
    invariant (rounds options output left run).2.snapshot := by
  induction left generalizing run with
  | zero => exact before
  | succ left ih =>
      have next := kept_round invariant moved joined options output before
      rw [rounds]
      split
      · rename_i fault run' faulty
        rwa [faulty] at next
      · rename_i report run' first
        rw [first] at next
        split
        · exact next
        · exact ih next

end Kept

/-- However a round ends, it leaves a snapshot that can be made. -/
theorem reached_round (options : Options) (output : Output σ) {run : Run σ}
    (reached : run.snapshot.Reached) :
    (run.round options output).2.snapshot.Reached :=
  kept_round Snapshot.Reached (fun round held => .moved held round)
    (fun _ _ held ok => .joined held ok) options output reached

/-- A round that ends well leaves a snapshot that can be made. -/
theorem reached_of_round {run run' : Run σ} {report : PassReport} (reached : run.snapshot.Reached)
    (ran : run.round options output = (.ok report, run')) : run'.snapshot.Reached := by
  have next := reached_round options output reached
  rwa [ran] at next

/-- What writing a class with its own source keeps of a store, a round keeps. -/
theorem preserves_round (invariant : σ → Prop)
    (kept : ∀ store base, invariant store →
      invariant (output.write store base (render base options)).2)
    {run run' : Run σ} {report : PassReport} (before : invariant run.store)
    (ran : run.round options output = (.ok report, run')) : invariant run'.store := by
  obtain ⟨pass, snapshot', passed, -, -, rfl⟩ := round_eq_ok_iff.mp ran
  have stored : invariant (Pass.run options output
      (run.snapshot.setRound (run.summary.rounds + 1)).table run.progress
      ((run.snapshot.setRound (run.summary.rounds + 1)).annotatedIn (run.summary.rounds + 1))
      run.store).2.store := Pass.preserves_run invariant kept before
  rwa [passed] at stored

/-- Nothing has been reported but what is a matter of the annotated classes themselves: no class has
been found to refer to what never appeared, and no fault has been reported. -/
def Quiet (run : Run σ) : Prop :=
  ∀ diagnostic ∈ run.diagnostics,
    diagnostic.code ≠ .undefined ∧ diagnostic.code ≠ .internalException

theorem quiet_start (snapshot : Snapshot) (store : σ) : (start snapshot store).Quiet :=
  fun _ told => absurd told List.not_mem_nil

/-- A round that ends well reports nothing else either. -/
theorem Quiet.round {run run' : Run σ} {report : PassReport} (quiet : run.Quiet)
    (ran : run.round options output = (.ok report, run')) : run'.Quiet := by
  obtain ⟨pass, snapshot', passed, -, -, rfl⟩ := round_eq_ok_iff.mp ran
  intro diagnostic told
  rcases List.mem_append.mp told with before | now
  · exact quiet diagnostic before
  · exact Pass.code_of_run passed now

/-! ## All rounds -/

/-- What every round that ends well keeps holds when the compilation has ended well; the last round
was one after which nothing was to come. -/
theorem exists_of_rounds (invariant : Run σ → Prop) {left : Nat} {run final : Run σ}
    {summary : Summary}
    (step : ∀ {before after report}, invariant before →
      before.round options output = (.ok report, after) → invariant after)
    (start : invariant run) (ran : rounds options output left run = (.ok summary, final)) :
    ∃ before report last, invariant before ∧ before.round options output = (.ok report, last) ∧
      invariant last ∧ last.isSettled report ∧ summary = last.summary ∧ final = last.finish := by
  induction left generalizing run with
  | zero => cases ran
  | succ left ih =>
      rw [rounds] at ran
      split at ran
      · cases ran
      · rename_i report next first
        split at ran
        · rename_i settled
          cases ran
          exact ⟨run, report, next, start, first, step start first, settled, rfl, rfl⟩
        · exact ih (step start first) ran

end Run

end Delegation
