import Delegation.Proofs.Compilation.Endings
import Delegation.Proofs.Compilation.History

/-!
# The limit on rounds

A compilation goes on as long as types are to come or something was generated.  The first comes to
an end with the last round in which a type appears, and the second can happen at most once for each
annotated type.  So there is a number of rounds, known beforehand, within which every compilation
ends, and a limit does nothing but cut a compilation off that would have gone on.

## Main Definitions

* `Snapshot.lastRound` — the last round in which a type appears.
* `Options.withLimit` — options with another limit on rounds.

## Main Statements

* `Run.History.ends` — a compilation ends within the rounds it may need.
* `Run.rounds_withLimit` — a larger limit changes nothing, unless the smaller one is hit.
* `Compilation.rounds_bounded` — both, for a whole compilation.
-/

namespace Delegation

open Java

/-! ## Types to come -/

/-- The last round in which a type appears, the first one if there are no types. -/
def Snapshot.lastRound (snapshot : Snapshot) : Nat :=
  (snapshot.written.map (·.round)).foldr max 1

theorem lt_foldr_max_iff {rounds : List Nat} {least round : Nat} :
    round < rounds.foldr max least ↔ round < least ∨ ∃ other ∈ rounds, round < other := by
  induction rounds with
  | nil => simp
  | cons first rest ih =>
      have split : round < max first (rest.foldr max least) ↔
          round < first ∨ round < rest.foldr max least := by omega
      rw [List.foldr_cons, split, ih, List.exists_mem_cons_iff]
      tauto

/-- After the first round, types are to come when the last of the rounds has not come. -/
theorem Snapshot.lt_lastRound_iff {snapshot : Snapshot} {round : Nat} (begun : 1 ≤ round) :
    round < snapshot.lastRound ↔ ∃ entry ∈ snapshot.written, round < entry.round := by
  rw [lastRound, lt_foldr_max_iff]
  simp only [List.mem_map, exists_exists_and_eq_and]
  exact or_iff_right (by omega)

theorem Snapshot.one_le_lastRound (snapshot : Snapshot) : 1 ≤ snapshot.lastRound := by
  show 0 < snapshot.lastRound
  rw [lastRound, lt_foldr_max_iff]
  exact .inl Nat.one_pos

namespace Run

variable {σ : Type} {options : Options} {output : Output σ}
variable {initial : Snapshot} {makings : List Making} {run run' : Run σ}

/-- What is generated never appears in a round to come, so the initial snapshot alone decides
whether types are to come. -/
theorem History.hasLaterRounds_iff (history : run.History initial makings)
    (counted : run.snapshot.round = run.summary.rounds) (begun : 1 ≤ run.summary.rounds) :
    run.snapshot.hasLaterRounds ↔ run.summary.rounds < initial.lastRound := by
  rw [Snapshot.hasLaterRounds_iff, Snapshot.lt_lastRound_iff begun, history.written, counted]
  constructor
  · rintro ⟨entry, mem, later⟩
    rcases List.mem_append.mp mem with listed | joined
    · exact ⟨entry, listed, later⟩
    · obtain ⟨making, made, rfl⟩ := List.mem_map.mp joined
      exact absurd later (Nat.not_lt.mpr (history.past making made).2)
  · rintro ⟨entry, listed, later⟩
    exact ⟨entry, List.mem_append_left _ listed, later⟩

/-- There is one base class at most for each annotated type. -/
theorem History.length_le (history : run.History initial makings) :
    makings.length ≤ initial.annotations.length := by
  have among : makings.map (·.type) ⊆ initial.annotations.map Entry.name := fun type mem =>
    history.annotated type (.inr ((history.emitted_iff type).mpr mem))
  have counted := (List.subperm_of_subset history.nodup among).length_le
  rwa [List.length_map, List.length_map] at counted

end Run

/-! ## Faults -/

/-- A class is kept from joining by nothing but a name that is taken. -/
theorem Snapshot.exists_of_registerAll_eq_some {bases : List BaseClass}
    {snapshot snapshot' : Snapshot} {fault : Fault}
    (refused : snapshot.registerAll bases = (some fault, snapshot')) :
    ∃ name, fault = .duplicateOutput name := by
  induction bases generalizing snapshot with
  | nil => cases refused
  | cons base rest ih =>
      rw [registerAll] at refused
      split at refused
      · exact ih refused
      · rename_i found rejected
        cases refused
        exact ⟨_, fault_of_register rejected⟩

/-- A pass stops at a contradiction or at a write. -/
theorem Pass.exists_of_run_eq_some {σ : Type} {options : Options} {output : Output σ}
    {table : SymbolTable} {progress : Progress} {annotated : List ClassName} {store : σ}
    {pass : Pass σ} {fault : Fault}
    (faulty : run options output table progress annotated store = (some fault, pass)) :
    (∃ type contradiction, fault = Contradiction.fault type contradiction) ∨
      ∃ store base file, (output.write store base file).1 = .error fault := by
  obtain ⟨-, decl, -, mid, -, -, atDecl⟩ := exists_of_processAll_eq_some faulty
  unfold process at atDecl
  split at atDecl
  · cases atDecl
  · cases atDecl
  · cases atDecl
    exact .inl ⟨_, _, rfl⟩
  · simp only [generate] at atDecl
    split at atDecl
    · cases atDecl
    · rename_i store refused
      cases atDecl
      exact .inr ⟨_, _, _, congrArg Prod.fst refused⟩

namespace Run

variable {σ : Type} {options : Options} {output : Output σ}
variable {initial : Snapshot} {makings : List Making} {run run' : Run σ}

/-- A round never ends because the rounds ran out, unless a write pretends it does. -/
theorem round_ne_roundLimit {fault : Fault} {limit : Nat}
    (limitless : ∀ store base file, (output.write store base file).1 ≠ .error (.roundLimit limit))
    (ran : run.round options output = (.error fault, run')) : fault ≠ .roundLimit limit := by
  rintro rfl
  unfold round at ran
  simp only at ran
  split at ran
  · rename_i found ended
    cases ran
    generalize passed : Pass.run _ _ _ _ _ _ = pass at ended
    obtain ⟨fault?, pass⟩ := pass
    cases ended
    rcases Pass.exists_of_run_eq_some passed with ⟨type, contradiction, other⟩ | refused
    · cases other
    · obtain ⟨store, base, file, refused⟩ := refused
      exact limitless store base file refused
  · split at ran
    · rename_i refused
      cases ran
      obtain ⟨name, other⟩ := Snapshot.exists_of_registerAll_eq_some refused
      cases other
    · cases ran

/-! ## The rounds that may be needed -/

/-- **A compilation ends within the rounds it may need.**  Whenever another round is due, types are
to come or the last round has generated something; so the rounds so far are fewer than the last
round of a type and the base classes together. -/
theorem History.ends (history : run.History initial makings)
    (due : run.summary.rounds + 1 ≤ initial.lastRound + makings.length) {left : Nat}
    {outcome : Except Fault Summary} {final : Run σ}
    (ran : rounds options output left run = (outcome, final)) :
    (∀ summary, outcome = .ok summary → initial.lastRound ≤ summary.rounds ∧
      summary.rounds ≤ initial.lastRound + initial.annotations.length) ∧
    ((∀ store base file limit, (output.write store base file).1 ≠ .error (.roundLimit limit)) →
      initial.lastRound + initial.annotations.length ≤ run.summary.rounds + left →
      ∀ limit, outcome ≠ .error (.roundLimit limit)) := by
  induction left generalizing run makings with
  | zero =>
      cases ran
      have := history.length_le
      refine ⟨?_, ?_⟩
      · intro summary finished
        cases finished
      · intro _ enough
        omega
  | succ left ih =>
      rw [rounds] at ran
      split at ran
      · rename_i fault next faulty
        cases ran
        refine ⟨?_, ?_⟩
        · intro summary finished
          cases finished
        · intro limitless _ limit hit
          cases hit
          exact round_ne_roundLimit (fun store base file => limitless store base file limit) faulty
            rfl
      · rename_i report next first
        obtain ⟨new, -, -, reported, extended⟩ := history.round first
        have counted : next.summary.rounds = run.summary.rounds + 1 := by
          obtain ⟨-, -, -, -, -, rfl⟩ := round_eq_ok_iff.mp first
          rfl
        have later_iff := extended.hasLaterRounds_iff (round_snapshot first) (by omega)
        have length := extended.length_le
        rw [List.length_append] at length
        split at ran
        · rename_i settled
          cases ran
          simp only [isSettled, Bool.and_eq_true, Bool.not_eq_true', ← Bool.not_eq_true,
            later_iff] at settled
          refine ⟨?_, ?_⟩
          · intro summary finished
            cases finished
            omega
          · intro _ _ limit hit
            cases hit
        · rename_i goesOn
          have still : next.summary.rounds + 1 ≤
              initial.lastRound + (makings ++ new).length := by
            rw [List.length_append]
            -- Progress is a new base class, and types to come are in a later round.
            by_cases progress : new = []
            · have idle : report.madeProgress = false := by
                rw [PassReport.madeProgress, reported, progress]
                rfl
              simp only [isSettled, idle, Bool.not_false, Bool.true_and, Bool.not_eq_true',
                Bool.not_eq_false, later_iff] at goesOn
              omega
            · have := List.length_pos_of_ne_nil progress
              omega
          obtain ⟨bounded, never⟩ := ih extended still ran
          refine ⟨bounded, fun limitless enough => never limitless ?_⟩
          omega

end Run

/-! ## Limits -/

/-- Options with another limit on rounds. -/
def Options.withLimit (options : Options) (limit : Nat) : Options :=
  { options with maxRounds := limit }

/-- The text of a class does not depend on the limit. -/
@[simp] theorem render_withLimit (base : BaseClass) (options : Options) (limit : Nat) :
    render base (options.withLimit limit) = render base options := rfl

namespace Run

variable {σ : Type} {options : Options} {output : Output σ}

/-- A pass does not depend on the limit. -/
theorem processAll_withLimit (limit : Nat) (pass : Pass σ) (table : SymbolTable)
    (decls : List TypeDecl) :
    pass.processAll (options.withLimit limit) output table decls =
      pass.processAll options output table decls := by
  induction decls generalizing pass with
  | nil => rfl
  | cons decl rest ih =>
      have step : pass.process (options.withLimit limit) output table decl =
          pass.process options output table decl := by
        simp only [Pass.process, Pass.generate, render_withLimit]
      rw [Pass.processAll, Pass.processAll, step]
      split
      · exact ih _
      · rfl

/-- A round does not depend on the limit. -/
theorem round_withLimit (limit : Nat) (run : Run σ) :
    run.round (options.withLimit limit) output = run.round options output := by
  unfold round Pass.run
  simp only [processAll_withLimit]

/-- **A larger limit changes nothing, unless the smaller one is hit.** -/
theorem rounds_withLimit (limit limit' : Nat) {left left' : Nat} (le : left ≤ left') (run : Run σ) :
    (rounds (options.withLimit limit) output left run).1 = .error (.roundLimit limit) ∨
      rounds (options.withLimit limit) output left run =
        rounds (options.withLimit limit') output left' run := by
  induction left generalizing left' run with
  | zero => exact .inl rfl
  | succ left ih =>
      obtain ⟨more, rfl⟩ : ∃ more, left' = more + 1 := ⟨left' - 1, by omega⟩
      rw [rounds, rounds, round_withLimit, round_withLimit]
      split
      · exact .inr rfl
      · split
        · exact .inr rfl
        · exact ih (by omega) _

end Run

namespace Compilation

/-- **The limit on rounds is no part of the result.**  A compilation whose limit is at least the
last round of a type and the number of annotated types together never hits it, and takes at least
the first and at most the sum of the two; and of two limits, the smaller one is hit, or else both
lead to one result. -/
theorem rounds_bounded {σ : Type} {snapshot : Snapshot} (reached : snapshot.Reached)
    (config : Options) {output : Output σ}
    (limitless : ∀ store base file limit,
      (output.write store base file).1 ≠ .error (.roundLimit limit)) (store : σ) :
    let result limit := run ⟨snapshot, config.withLimit limit⟩ output store
    (∀ limit, snapshot.lastRound + snapshot.annotated.length ≤ limit →
      (∀ rounds, (result limit).outcome ≠ .error (.roundLimit rounds)) ∧
      ∀ summary, (result limit).outcome = .ok summary →
        snapshot.lastRound ≤ summary.rounds ∧
          summary.rounds ≤ snapshot.lastRound + snapshot.annotated.length) ∧
    ∀ limit limit', limit ≤ limit' →
      (result limit).outcome = .error (.roundLimit limit) ∨
        (result limit).outcome = (result limit').outcome ∧
        (result limit).diagnostics = (result limit').diagnostics ∧
        (result limit).store = (result limit').store ∧
        (result limit).compilation.snapshot = (result limit').compilation.snapshot := by
  intro result
  constructor
  · intro limit enough
    cases ran : lastRun ⟨snapshot, config.withLimit limit⟩ output store with
    | mk outcome final =>
        have started := Run.history_start (σ := σ) reached store
        have due : (Run.start snapshot store).summary.rounds + 1 ≤
            snapshot.lastRound + ([] : List Making).length := snapshot.one_le_lastRound
        obtain ⟨bounded, never⟩ := started.ends due ran
        rw [Snapshot.annotated_eq, List.length_map] at enough ⊢
        simp only [result, run_eq ran]
        refine ⟨never limitless ?_, bounded⟩
        show snapshot.lastRound + snapshot.annotations.length ≤ 0 + limit
        rwa [Nat.zero_add]
  · intro limit limit' le
    rcases Run.rounds_withLimit limit limit' le (Run.start snapshot store) with hit | same
    · exact .inl hit
    · refine .inr ⟨?_, ?_, ?_, ?_⟩
      · exact congrArg Prod.fst same
      · exact congrArg (·.2.diagnostics) same
      · exact congrArg (·.2.store) same
      · exact congrArg (·.2.snapshot) same

/-- Two classes of which the second extends the base class of the first. -/
def chainOfTwo : List TypeDefinition :=
  [{ name := "foo.bar.I", kind := .interface, methods := [{ name := "i" }] },
   { name := "foo.bar.C", kind := .class_, extends? := some "foo.bar.AutoDelegate_C"
     request? := some ⟨[⟨"foo.bar.I", none⟩], none⟩ },
   { name := "baz.qux.J", kind := .interface, methods := [{ name := "j" }] },
   { name := "baz.qux.C", kind := .class_, extends? := some "baz.qux.AutoDelegate_C"
     request? := some ⟨[⟨"baz.qux.J", none⟩], some "foo.bar.AutoDelegate_C"⟩ }]

/-- Their compilation takes all the rounds it may need, and a lower limit is hit. -/
theorem rounds_chainOfTwo :
    let snapshot := Snapshot.sample chainOfTwo
    let result limit :=
      run ⟨snapshot, Options.standard.withLimit limit⟩ MemoryStore.output .empty
    snapshot.Reached ∧ snapshot.lastRound + snapshot.annotated.length = 3 ∧
    (∀ rounds, (result 3).outcome ≠ .error (.roundLimit rounds)) ∧
    (result 3).outcome =
      .ok ⟨[⟨"foo.bar", "AutoDelegate_C", []⟩, ⟨"baz.qux", "AutoDelegate_C", []⟩], 3⟩ ∧
    (result 2).outcome = .error (.roundLimit 2) ∧
    (result 3).outcome = (result 16).outcome := by
  have reached : (Snapshot.sample chainOfTwo).Reached := .read (Snapshot.ofTypes_sample (by
    decide +kernel))
  have limitless : ∀ (store : MemoryStore) base file limit,
      (MemoryStore.output.write store base file).1 ≠ .error (.roundLimit limit) := by
    intro store base file limit
    simp only [MemoryStore.output, MemoryStore.write]
    split <;> simp
  have counted : (Snapshot.sample chainOfTwo).lastRound +
    (Snapshot.sample chainOfTwo).annotated.length = 3 := by decide +kernel
  obtain ⟨enough, larger⟩ := rounds_bounded reached .standard limitless .empty
  obtain ⟨never, -⟩ := enough 3 (Nat.le_of_eq counted)
  refine ⟨reached, counted, never, by decide +kernel, by decide +kernel, ?_⟩
  rcases larger 3 16 (by decide) with hit | ⟨same, -⟩
  · exact absurd hit (never 3)
  · exact same

end Compilation

end Delegation
