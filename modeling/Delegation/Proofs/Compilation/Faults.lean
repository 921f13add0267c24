import Delegation.Proofs.Compilation.Endings
import Delegation.Proofs.Snapshot.Order

/-!
# Faults and their reports

A fault ends a compilation in one of two places.  Within a pass it arises at the class that is being
processed, and there it is reported before the pass stops.  After a pass it arises when a class that
has been written cannot join the snapshot, because its name is taken; such a fault is handed on
without a report.  This holds for any output, and also when the compilation has run before, well or
not.

## Main Definitions

* `Run.Leads` — a run goes on to another one without an end or a fault in between.
* `Run.StopsAt` — the class at which the pass of the next round stops.
* `Run.Refuses` — the class that cannot join after the pass of the next round.
* `Compilation.After` — a compilation that has run before.

## Main Statements

* `Run.exists_of_round_eq_error` — a round that ends with a fault.
* `Compilation.fault_reported_iff` — a fault has been reported unless a class was kept from joining.
-/

namespace Delegation

open Java

/-! ## Classes that cannot join -/

namespace Snapshot.Reached

variable {snapshot : Snapshot}

/-- Classes join up to the first whose name is taken, by the snapshot or by one of them. -/
theorem exists_taken_of_registerAll (reached : snapshot.Reached) {bases : List BaseClass}
    {fault : Fault} {snapshot' : Snapshot}
    (refused : snapshot.registerAll bases = (some fault, snapshot')) :
    ∃ earlier base later, bases = earlier ++ base :: later ∧
      (snapshot.entryNames ++ earlier.map (·.name)).Nodup ∧
      base.name ∈ snapshot.entryNames ++ earlier.map (·.name) ∧
      fault = .duplicateOutput base.name.qualified := by
  induction bases generalizing snapshot with
  | nil => cases refused
  | cons base rest ih =>
      rw [Snapshot.registerAll] at refused
      split at refused
      · rename_i next ok
        obtain ⟨earlier, other, later, rfl, different, taken, same⟩ :=
          ih (.joined reached ok) refused
        rw [entryNames_register ok, List.append_assoc] at different taken
        exact ⟨base :: earlier, other, later, rfl, different, taken, same⟩
      · rename_i found rejected
        simp only [Prod.mk.injEq, Option.some.injEq] at refused
        obtain ⟨rfl, -⟩ := refused
        have taken : base.name ∈ snapshot.entryNames := by
          by_contra fresh
          obtain ⟨next, joined⟩ := reached.exists_register fresh
          rw [joined] at rejected
          cases rejected
        refine ⟨[], base, rest, rfl, ?_, ?_, fault_of_register rejected⟩
        · rw [List.map_nil, List.append_nil]
          exact reached.wellFormed.nodup_entryNames
        · exact List.mem_append_left _ taken

end Snapshot.Reached

/-! ## Passes that stop -/

namespace Pass

variable {σ : Type} {options : Options} {output : Output σ} {table : SymbolTable}

/-- Classes that are carried out without a fault are followed by the others. -/
theorem processAll_append {pass mid : Pass σ} {done rest : List TypeDecl}
    (before : pass.processAll options output table done = (none, mid)) :
    pass.processAll options output table (done ++ rest) =
      mid.processAll options output table rest := by
  induction done generalizing pass with
  | nil =>
      cases before
      rfl
  | cons decl done ih =>
      rw [processAll] at before
      rw [List.cons_append, processAll]
      split at before
      · exact ih before
      · cases before

/-- A pass stops at a class with a report of the fault. -/
theorem getLast?_diagnostics_of_process {pass pass' : Pass σ} {decl : TypeDecl} {fault : Fault}
    (faulty : pass.process options output table decl = (some fault, pass')) :
    pass'.diagnostics.getLast? = some (fault.diagnostic decl.name) := by
  unfold process at faulty
  split at faulty
  · cases faulty
  · cases faulty
  · cases faulty
    exact List.getLast?_concat
  · simp only [generate] at faulty
    split at faulty
    · cases faulty
    · cases faulty
      exact List.getLast?_concat

end Pass

/-! ## Rounds that end with a fault -/

namespace Run

variable {σ : Type} {options : Options} {output : Output σ}

/-- The pass of the next round carries out some classes and then stops at a fault, when it comes to
this one. -/
inductive StopsAt (options : Options) (output : Output σ) (run : Run σ) (type : ClassName)
    (fault : Fault) : Prop
  | stopped {done rest : List TypeDecl} {decl : TypeDecl} {mid pass : Pass σ}
      (candidates : Pass.candidates run.progress
        (run.nextSnapshot.annotatedIn (run.summary.rounds + 1)) run.nextSnapshot.table =
          done ++ decl :: rest)
      (named : decl.name = type)
      (before : (Pass.start run.progress run.store).processAll options output
        run.nextSnapshot.table done = (none, mid))
      (stop : mid.process options output run.nextSnapshot.table decl = (some fault, pass))

/-- The pass of the next round ends well, but this is one of the base classes that it writes, and
its name is taken: a type of the snapshot has it, visible or not, or an earlier base class of the
pass. -/
inductive Refuses (options : Options) (output : Output σ) (run : Run σ) (base : BaseClass) : Prop
  | taken {pass : Pass σ} {earlier later : List BaseClass}
      (passed : run.pass options output = (none, pass))
      (written : pass.written = earlier ++ base :: later)
      (different : (run.snapshot.entryNames ++ earlier.map (·.name)).Nodup)
      (known : base.name ∈ run.snapshot.entryNames ++ earlier.map (·.name))

/-- After a pass that stops, no class is to join. -/
theorem StopsAt.not_refuses {run : Run σ} {type : ClassName} {fault : Fault}
    (stops : run.StopsAt options output type fault) (base : BaseClass) :
    ¬ run.Refuses options output base := by
  rintro ⟨passed, -, -, -⟩
  obtain ⟨candidates, -, before, stop⟩ := stops
  rw [Run.pass, Pass.run, candidates, Pass.processAll_append before, Pass.processAll,
    stop] at passed
  cases passed

/-- An element whose key is taken comes after no other such element. -/
theorem length_le_of_taken {α κ : Type} {key : α → κ} {known : List κ}
    {earlier later earlier' later' : List α} {a a' : α}
    (same : earlier ++ a :: later = earlier' ++ a' :: later')
    (different : (known ++ earlier'.map key).Nodup) (taken : key a ∈ known ++ earlier.map key) :
    earlier'.length ≤ earlier.length := by
  by_contra longer
  have first : earlier ++ [a] <+: earlier ++ a :: later := ⟨later, by
    rw [List.append_assoc]
    rfl⟩
  have among : earlier ++ [a] <+: earlier' := by
    refine List.prefix_of_prefix_length_le first ⟨a' :: later', same.symm⟩ ?_
    rw [List.length_append, List.length_singleton]
    omega
  obtain ⟨rest, rfl⟩ := among
  rw [List.map_append, List.map_append, List.map_singleton, ← List.append_assoc,
    ← List.append_assoc] at different
  have unlisted := (List.nodup_append.mp (List.nodup_append.mp different).1).2.2
  exact unlisted _ taken _ List.mem_cons_self rfl

/-- Only one base class can be the first whose name is taken. -/
theorem Refuses.unique {run : Run σ} {first second : BaseClass}
    (atFirst : run.Refuses options output first) (atSecond : run.Refuses options output second) :
    first = second := by
  obtain ⟨passed, written, different, known⟩ := atFirst
  obtain ⟨passed', written', different', known'⟩ := atSecond
  rw [passed] at passed'
  cases passed'
  have same := written.symm.trans written'
  have lengths := Nat.le_antisymm (length_le_of_taken same.symm different known')
    (length_le_of_taken same different' known)
  exact (List.cons.inj (List.append_inj same lengths).2).1

/-- **A round ends with a fault where its pass stops or where a base class cannot join.**  In the
first case the fault is what was reported last; in the second one there is no such report. -/
theorem exists_of_round_eq_error {run run' : Run σ} (reached : run.snapshot.Reached) {fault : Fault}
    (ran : run.round options output = (.error fault, run')) :
    (∃ type, run.StopsAt options output type fault ∧
      run'.diagnostics.getLast? = some (fault.diagnostic type)) ∨
    ∃ base, run.Refuses options output base ∧ fault = .duplicateOutput base.name.qualified ∧
      (run.Quiet → run'.Quiet) := by
  have moved : run.nextSnapshot.Reached := .moved reached _
  have names : run.nextSnapshot.entryNames = run.snapshot.entryNames :=
    Snapshot.entryNames_setRound _ _
  cases passed : run.pass options output with
  | mk fault? pass =>
      rw [round, ← nextSnapshot, ← Run.pass, passed] at ran
      cases fault? with
      | some found =>
          cases ran
          obtain ⟨done, decl, rest, mid, candidates, before, stop⟩ :=
            Pass.exists_of_processAll_eq_some passed
          refine .inl ⟨decl.name, .stopped candidates rfl before stop, ?_⟩
          have last := Pass.getLast?_diagnostics_of_process stop
          show (run.diagnostics ++ pass.diagnostics).getLast? = _
          rw [List.getLast?_append, last]
          rfl
      | none =>
          simp only at ran
          split at ran
          · rename_i found snapshot' refused
            cases ran
            obtain ⟨earlier, base, later, written, different, known, same⟩ :=
              moved.exists_taken_of_registerAll refused
            rw [names] at different known
            refine .inr ⟨base, .taken passed written different known, same, ?_⟩
            intro quiet diagnostic told
            rcases List.mem_append.mp told with old | new
            · exact quiet diagnostic old
            · exact Pass.code_of_run passed new
          · cases ran

/-! ## All rounds -/

/-- A run goes on to another one, by rounds that end well and are not the last. -/
inductive Leads (options : Options) (output : Output σ) : Run σ → Run σ → Prop
  | here {run : Run σ} : Leads options output run run
  | round {run next last : Run σ} {report : PassReport}
      (ran : run.round options output = (.ok report, next))
      (unsettled : next.isSettled report = false) (rest : Leads options output next last) :
      Leads options output run last

/-- What every round that ends well keeps still holds wherever a run goes on to. -/
theorem Leads.kept (invariant : Run σ → Prop)
    (step : ∀ {before after report}, invariant before →
      before.round options output = (.ok report, after) → invariant after)
    {run last : Run σ} (leads : run.Leads options output last) (start : invariant run) :
    invariant last := by
  induction leads with
  | here => exact start
  | round ran _ _ ih => exact ih (step start ran)

/-- Rounds that end with a fault have run out, or the fault is that of a round. -/
theorem exists_of_rounds_eq_error {left : Nat} {run final : Run σ} {fault : Fault}
    (ran : rounds options output left run = (.error fault, final)) :
    fault = .roundLimit options.maxRounds ∨
      ∃ before, run.Leads options output before ∧
        before.round options output = (.error fault, final) := by
  induction left generalizing run with
  | zero =>
      cases ran
      exact .inl rfl
  | succ left ih =>
      rw [rounds] at ran
      split at ran
      · rename_i found next faulty
        cases ran
        exact .inr ⟨run, .here, faulty⟩
      · rename_i report next first
        split at ran
        · cases ran
        · rename_i unsettled
          rcases ih ran with hit | ⟨before, leads, faulty⟩
          · exact .inl hit
          · exact .inr ⟨before, .round first (Bool.not_eq_true _ ▸ unsettled) leads, faulty⟩

/-- However rounds end, they leave a snapshot that can be made. -/
theorem reached_after_rounds {left : Nat} {run : Run σ} (reached : run.snapshot.Reached) :
    (rounds options output left run).2.snapshot.Reached :=
  kept_rounds Snapshot.Reached (fun round held => .moved held round)
    (fun _ _ held ok => .joined held ok) reached

end Run

namespace Compilation

variable {σ : Type}

/-- A compilation is what another one has become by any number of runs, whatever they wrote to and
however they ended. -/
inductive After (initial : Compilation) : Compilation → Prop
  | first : After initial initial
  | again {compilation : Compilation} {σ : Type} (after : After initial compilation)
      (output : Output σ) (store : σ) : After initial (compilation.run output store).compilation

/-- Runs leave a snapshot that can be made. -/
theorem After.reached {initial compilation : Compilation} (after : After initial compilation)
    (reached : initial.snapshot.Reached) : compilation.snapshot.Reached := by
  induction after with
  | first => exact reached
  | again _ output store ih => exact Run.reached_after_rounds ih

/-- **A fault has been reported unless a class was kept from joining.**  When a compilation that may
have run before ends with a fault, other than that the rounds ran out, it has gone on to a round
that ended with this fault.  What is reported last is the fault, at the class that was being
processed, unless a base class that the round wrote could not join the snapshot.  Then the fault is
that its name is taken, and no fault at all has been reported. -/
theorem fault_reported_iff {initial compilation : Compilation} (reached : initial.snapshot.Reached)
    (after : After initial compilation) {output : Output σ} {store : σ} {fault : Fault}
    (failed : (compilation.run output store).outcome = .error fault)
    (inTime : fault ≠ .roundLimit compilation.options.maxRounds) :
    let diagnostics := (compilation.run output store).diagnostics
    ∃ last : Run σ,
      (Run.start compilation.snapshot store).Leads compilation.options output last ∧
      (last.round compilation.options output).1 = .error fault ∧
      ((∃ type, last.StopsAt compilation.options output type fault ∧
          diagnostics.getLast? = some ⟨.error, .internalException,
            "@AutoDelegate processing failed: " ++ fault.trace, .type type⟩) ↔
        ¬ ∃ base, last.Refuses compilation.options output base) ∧
      ∀ base, last.Refuses compilation.options output base →
        fault = .duplicateOutput base.name.qualified ∧
        ∀ diagnostic ∈ diagnostics, diagnostic.code ≠ .internalException := by
  cases ran : compilation.lastRun output store with
  | mk outcome final =>
      rw [run_eq ran] at failed ⊢
      obtain rfl : outcome = .error fault := failed
      rcases Run.exists_of_rounds_eq_error ran with hit | ⟨last, leads, faulty⟩
      · exact absurd hit inTime
      · have reachedLast : last.snapshot.Reached :=
          leads.kept (fun run => run.snapshot.Reached) Run.reached_of_round (after.reached reached)
        have quiet : last.Quiet :=
          leads.kept Run.Quiet (fun quiet ran => quiet.round ran) (Run.quiet_start _ _)
        have ended := Run.exists_of_round_eq_error reachedLast faulty
        refine ⟨last, leads, congrArg Prod.fst faulty, ⟨?_, fun joins => ?_⟩,
          fun base refuses => ?_⟩
        · rintro ⟨type, stops, -⟩ ⟨base, refuses⟩
          exact stops.not_refuses base refuses
        · rcases ended with ⟨type, stops, told⟩ | ⟨base, refuses, -, -⟩
          · exact ⟨type, stops, told.trans (congrArg some (Fault.diagnostic_eq type fault))⟩
          · exact absurd ⟨base, refuses⟩ joins
        · rcases ended with ⟨type, stops, -⟩ | ⟨other, refusesOther, same, quietly⟩
          · exact absurd refuses (stops.not_refuses base)
          · rw [refuses.unique refusesOther]
            exact ⟨same, fun diagnostic told => (quietly quiet diagnostic told).2⟩

/-- A class with an empty request. -/
def alone : List TypeDefinition :=
  [{ name := "foo.C", kind := .class_, extends? := some "foo.AutoDelegate_C"
     request? := some .empty }]

/-- When its base class cannot be written, this is reported at the class.  When it is compiled twice,
its base class cannot join a second time, and nothing is reported. -/
theorem fault_reported_iff_alone :
    let first : Compilation := ⟨.sample alone, .standard⟩
    let full := MemoryStore.output.failing (fun _ => true) "disk full"
    let failure : Fault := .unwritable "foo/AutoDelegate_C.java" "disk full"
    let second := (first.run MemoryStore.output .empty).compilation
    first.snapshot.Reached ∧
    ((first.run full .empty).outcome = .error failure ∧
      (first.run full .empty).diagnostics = [⟨.error, .internalException,
        "@AutoDelegate processing failed: failed to write foo/AutoDelegate_C.java: disk full\n" ++
          "  caused by: disk full", .type ⟨"foo", "C", []⟩⟩] ∧
      ∃ last, (Run.start first.snapshot .empty).Leads first.options full last ∧
        last.StopsAt first.options full ⟨"foo", "C", []⟩ failure) ∧
    (After first second ∧
      (second.run MemoryStore.output .empty).outcome =
        .error (.duplicateOutput "foo.AutoDelegate_C") ∧
      (second.run MemoryStore.output .empty).diagnostics = [] ∧
      ∃ last base, (Run.start second.snapshot .empty).Leads second.options MemoryStore.output last ∧
        last.Refuses second.options MemoryStore.output base ∧
        base.name.qualified = "foo.AutoDelegate_C") := by
  intro first full failure second
  have reached : (Snapshot.sample alone).Reached := .read (Snapshot.ofTypes_sample (by
    decide +kernel))
  refine ⟨reached, ?_, ?_⟩
  · have failed : (first.run full .empty).outcome = .error failure := by decide +kernel
    have said : (first.run full .empty).diagnostics = [⟨.error, .internalException,
        "@AutoDelegate processing failed: failed to write foo/AutoDelegate_C.java: disk full\n" ++
          "  caused by: disk full", .type ⟨"foo", "C", []⟩⟩] := by decide +kernel
    obtain ⟨last, leads, -, reported_iff, refused⟩ := fault_reported_iff reached .first failed nofun
    obtain ⟨type, stops, told⟩ := reported_iff.mpr fun ⟨base, refuses⟩ => by
      have taken : Fault.unwritable .. = .duplicateOutput .. := (refused base refuses).1
      cases taken
    rw [said] at told
    obtain rfl : ⟨"foo", "C", []⟩ = type :=
      Location.type.inj (congrArg Diagnostic.location (Option.some.inj told))
    exact ⟨failed, said, last, leads, stops⟩
  · have after : After first second := .again .first MemoryStore.output .empty
    have failed : (second.run MemoryStore.output .empty).outcome =
        .error (.duplicateOutput "foo.AutoDelegate_C") := by decide +kernel
    have silent : (second.run MemoryStore.output .empty).diagnostics = [] := by decide +kernel
    obtain ⟨last, leads, -, reported_iff, refused⟩ := fault_reported_iff reached after failed nofun
    refine ⟨after, failed, silent, ?_⟩
    by_contra none_refused
    -- without a class that could not join, the fault would have been reported
    obtain ⟨type, -, told⟩ := reported_iff.mpr fun ⟨base, refuses⟩ => by
      obtain ⟨same, -⟩ := refused base refuses
      exact none_refused ⟨last, base, leads, refuses, (Fault.duplicateOutput.inj same).symm⟩
    rw [silent] at told
    cases told

/-- A class with an empty request, and a class that has the name of its base class. -/
def nameTaken : List TypeDefinition :=
  alone ++ [{ name := "foo.AutoDelegate_C", kind := .class_ }]

/-- Their compilation ends with a fault that is not reported, in its first run. -/
theorem unreported_nameTaken :
    let result := run ⟨.sample nameTaken, .standard⟩ MemoryStore.output .empty
    Snapshot.ofTypes nameTaken .standard = .ok (.sample nameTaken) ∧
    result.outcome = .error (.duplicateOutput "foo.AutoDelegate_C") ∧
    ¬ ∃ message type, result.diagnostics.getLast? =
      some ⟨.error, .internalException, message, .type type⟩ := by
  have silent :
      (run ⟨.sample nameTaken, .standard⟩ MemoryStore.output .empty).diagnostics = [] := by
    decide +kernel
  refine ⟨Snapshot.ofTypes_sample (by decide +kernel), by decide +kernel, ?_⟩
  rintro ⟨message, type, told⟩
  rw [silent] at told
  cases told

end Compilation

end Delegation
