import Delegation.Proofs.Compilation.Endings
import Delegation.Proofs.Pass.Order
import Delegation.Proofs.Snapshot.Order

/-!
# The order of declarations

Types may be declared in any order.  The order decides in which order classes are looked at, written
and joined in every round, and each of these could show in the next round; but two compilations of
the same types go on side by side, alike after every round, and so they end alike.

## Main Definitions

* `Run.Alike` — two runs that differ in order only.

## Main Statements

* `Run.Alike.round` — a round that ends well in one run ends well in the other.
* `Compilation.order_irrelevant` — the order of declarations does not matter to a compilation.
-/

namespace Delegation

open Java

/-! ## Side by side -/

/-- Two runs that differ in order only. -/
structure Run.Alike (first second : Run MemoryStore) : Prop where
  snapshot : first.snapshot.Alike second.snapshot
  progress : first.progress.Alike second.progress
  store : first.store.Alike second.store
  diagnostics : first.diagnostics.Perm second.diagnostics
  about : ∀ type, Diagnostic.about first.diagnostics type = Diagnostic.about second.diagnostics type
  generated : first.summary.generated.Perm second.summary.generated
  counted : first.summary.rounds = second.summary.rounds

namespace Run

variable {options : Options} {first second : Run MemoryStore}

/-- Runs over snapshots that are alike begin alike. -/
theorem alike_start {snapshot snapshot' : Snapshot} (alike : snapshot.Alike snapshot') :
    (start snapshot MemoryStore.empty).Alike (start snapshot' MemoryStore.empty) where
  snapshot := alike
  progress := ⟨fun _ => Iff.rfl, fun _ => Iff.rfl⟩
  store := ⟨fun _ => rfl, fun _ => rfl⟩
  diagnostics := .refl _
  about _ := rfl
  generated := .refl _
  counted := rfl

/-- A round that ends well in one run ends well in a run alike; both have made progress or neither
has, and they stay alike. -/
theorem Alike.round (alike : first.Alike second) {report : PassReport} {first' : Run MemoryStore}
    (ran : first.round options MemoryStore.output = (.ok report, first')) :
    ∃ report' second', second.round options MemoryStore.output = (.ok report', second') ∧
      report.madeProgress = report'.madeProgress ∧ first'.Alike second' := by
  obtain ⟨pass, snapshot, passed, joined, rfl, rfl⟩ := round_eq_ok_iff.mp ran
  rw [alike.counted] at passed joined
  generalize number : second.summary.rounds + 1 = round at *
  -- Symbols and new classes agree, so the passes do, and what they write joins in both.
  have moved := alike.snapshot.setRound round
  have lawful := moved.reachedFirst.wellFormed.lawful
  obtain ⟨pass', passed', samePass⟩ :=
    Pass.exists_alike_of_run lawful alike.progress (moved.annotatedIn round) alike.store passed
  rw [moved.table] at passed'
  obtain ⟨snapshot', joined', sameSnapshot⟩ := moved.registerAll samePass.written joined
  refine ⟨pass'.report, _, round_eq_ok_iff.mpr ⟨pass', snapshot', ?_, ?_, rfl, rfl⟩, ?_, ?_⟩
  · rw [number]
    exact passed'
  · rw [number]
    exact joined'
  · rw [PassReport.madeProgress, PassReport.madeProgress, samePass.generated.isEmpty_eq]
  · constructor
    · exact sameSnapshot
    · exact samePass.progress
    · exact samePass.store
    · exact alike.diagnostics.append samePass.diagnostics
    · intro type
      rw [Diagnostic.about_append, Diagnostic.about_append, alike.about, samePass.about]
    · exact alike.generated.append samePass.generated
    · show first.summary.rounds + 1 = second.summary.rounds + 1
      rw [alike.counted]

/-- Runs that are alike report the same classes as put off. -/
theorem Alike.finish (alike : first.Alike second) : first.finish.Alike second.finish := by
  have pending : undefinedDiagnostics first.snapshot.table first.progress =
      undefinedDiagnostics second.snapshot.table second.progress := by
    rw [undefinedDiagnostics, undefinedDiagnostics, alike.snapshot.table,
      toList_eq_of_mem_iff alike.progress.deferred]
  refine { alike with diagnostics := ?_, about := ?_ }
  · show (_ ++ undefinedDiagnostics _ _).Perm (_ ++ undefinedDiagnostics _ _)
    rw [pending]
    exact alike.diagnostics.append_right _
  · intro type
    show Diagnostic.about (_ ++ undefinedDiagnostics _ _) type =
      Diagnostic.about (_ ++ undefinedDiagnostics _ _) type
    rw [pending, Diagnostic.about_append, Diagnostic.about_append, alike.about]

/-- Rounds that end well in one run end well in a run alike, and leave the runs alike. -/
theorem Alike.rounds (alike : first.Alike second) {left : Nat} {summary : Summary}
    {final : Run MemoryStore}
    (ran : rounds options MemoryStore.output left first = (.ok summary, final)) :
    ∃ summary' final', rounds options MemoryStore.output left second = (.ok summary', final') ∧
      summary.generated.Perm summary'.generated ∧ summary.rounds = summary'.rounds ∧
      final.Alike final' := by
  induction left generalizing first second with
  | zero => cases ran
  | succ left ih =>
      rw [Run.rounds] at ran ⊢
      split at ran
      · cases ran
      · rename_i report next firstRound
        obtain ⟨report', next', secondRound, progress, same⟩ := alike.round firstRound
        rw [secondRound]
        -- Both runs stop here or both go on.
        have settled : next.isSettled report = next'.isSettled report' := by
          rw [isSettled, isSettled, progress, same.snapshot.hasLaterRounds]
        show ∃ summary' final', (if next'.isSettled report' = true then _ else _) = _ ∧ _
        rw [← settled]
        split at ran
        · rename_i last
          cases ran
          rw [if_pos last]
          exact ⟨next'.summary, next'.finish, rfl, same.generated, same.counted, same.finish⟩
        · rename_i more
          rw [if_neg more]
          exact ih same ran

end Run

/-! ## Whole compilations -/

/-- Two results of compilations that differ in order only. -/
structure CompilationResult.Alike (first second : CompilationResult MemoryStore) : Prop where
  /-- The same classes and the same texts are written. -/
  classes : ∀ name : ClassName, first.store.classes[name]? = second.store.classes[name]?
  files : ∀ name : ClassName, first.store.files[name]? = second.store.files[name]?
  /-- The same is reported, and about each class in the same order. -/
  diagnostics : first.diagnostics.Perm second.diagnostics
  about : ∀ type, Diagnostic.about first.diagnostics type = Diagnostic.about second.diagnostics type

namespace Compilation

/-- A compilation that ends well does so over a snapshot alike, with a result alike. -/
theorem exists_alike_of_run {snapshot snapshot' : Snapshot} (alike : snapshot.Alike snapshot')
    (config : Options) {summary : Summary}
    (finished : (run ⟨snapshot, config⟩ MemoryStore.output .empty).outcome = .ok summary) :
    ∃ summary', (run ⟨snapshot', config⟩ MemoryStore.output .empty).outcome = .ok summary' ∧
      summary.generated.Perm summary'.generated ∧ summary.rounds = summary'.rounds ∧
      (run ⟨snapshot, config⟩ MemoryStore.output .empty).Alike
        (run ⟨snapshot', config⟩ MemoryStore.output .empty) := by
  cases ran : lastRun ⟨snapshot, config⟩ MemoryStore.output .empty with
  | mk outcome final =>
      rw [run_eq ran] at finished ⊢
      obtain rfl : outcome = .ok summary := finished
      obtain ⟨summary', final', ran', generated, counted, same⟩ :=
        (Run.alike_start alike).rounds ran
      rw [run_eq (show lastRun ⟨snapshot', config⟩ MemoryStore.output .empty = _ from ran')]
      exact ⟨summary', rfl, generated, counted, same.store.classes, same.store.files,
        same.diagnostics, same.about⟩

/-- **The order of declarations does not matter.**  Types that can be read in one order can be read
in any other; a compilation of them that ends well in one order ends well in any other; and the two
take the same number of rounds, write the same classes and the same texts, and report the same, but
for the order. -/
theorem order_irrelevant {types others : List TypeDefinition} (perm : types.Perm others)
    (options config : Options) :
    ((∃ snapshot, Snapshot.ofTypes types options = .ok snapshot) ↔
      ∃ snapshot, Snapshot.ofTypes others options = .ok snapshot) ∧
    ∀ first second, Snapshot.ofTypes types options = .ok first →
      Snapshot.ofTypes others options = .ok second →
      let one := run ⟨first, config⟩ MemoryStore.output .empty
      let other := run ⟨second, config⟩ MemoryStore.output .empty
      ((∃ summary, one.outcome = .ok summary) ↔ ∃ summary, other.outcome = .ok summary) ∧
      ∀ summary summary', one.outcome = .ok summary → other.outcome = .ok summary' →
        summary.rounds = summary'.rounds ∧ summary.generated.Perm summary'.generated ∧
          one.Alike other := by
  constructor
  · constructor
    · rintro ⟨snapshot, read⟩
      obtain ⟨snapshot', read', -⟩ := Snapshot.exists_alike_of_perm perm read
      exact ⟨snapshot', read'⟩
    · rintro ⟨snapshot, read⟩
      obtain ⟨snapshot', read', -⟩ := Snapshot.exists_alike_of_perm perm.symm read
      exact ⟨snapshot', read'⟩
  · intro first second readFirst readSecond one other
    have alike : first.Alike second := by
      obtain ⟨found, readFound, alike⟩ := Snapshot.exists_alike_of_perm perm readFirst
      obtain rfl : found = second := Except.ok.inj (readFound.symm.trans readSecond)
      exact alike
    constructor
    · constructor
      · rintro ⟨summary, finished⟩
        obtain ⟨summary', finished', -⟩ := exists_alike_of_run alike config finished
        exact ⟨summary', finished'⟩
      · rintro ⟨summary, finished⟩
        obtain ⟨summary', finished', -⟩ := exists_alike_of_run alike.symm config finished
        exact ⟨summary', finished'⟩
    · intro summary summary' finished finished'
      obtain ⟨found, finishedFound, generated, counted, same⟩ :=
        exists_alike_of_run alike config finished
      obtain rfl : found = summary' := Except.ok.inj (finishedFound.symm.trans finished')
      exact ⟨counted, generated, same⟩

/-- A class that is generated, an annotated interface and a class that refers to nothing, declared
forwards and backwards. -/
theorem order_irrelevant_oneOfEach :
    oneOfEach.Perm oneOfEach.reverse ∧ oneOfEach ≠ oneOfEach.reverse ∧
    ∃ first second, Snapshot.ofTypes oneOfEach .standard = .ok first ∧
      Snapshot.ofTypes oneOfEach.reverse .standard = .ok second ∧
      (∃ summary, (run ⟨second, .standard⟩ MemoryStore.output .empty).outcome = .ok summary ∧
        summary.rounds = 2) ∧
      (run ⟨first, .standard⟩ MemoryStore.output .empty).Alike
        (run ⟨second, .standard⟩ MemoryStore.output .empty) := by
  have perm : oneOfEach.Perm oneOfEach.reverse := (List.reverse_perm _).symm
  have readFirst : Snapshot.ofTypes oneOfEach .standard = .ok (Snapshot.sample oneOfEach) :=
    Snapshot.ofTypes_sample (by decide +kernel)
  have finished : (run ⟨Snapshot.sample oneOfEach, .standard⟩ MemoryStore.output .empty).outcome =
      .ok ⟨[⟨"foo", "AutoDelegate_A", []⟩], 2⟩ := by decide +kernel
  obtain ⟨readable_iff, sides⟩ := order_irrelevant perm .standard .standard
  obtain ⟨second, readSecond⟩ := readable_iff.mp ⟨_, readFirst⟩
  obtain ⟨outcome_iff, results⟩ := sides _ second readFirst readSecond
  obtain ⟨summary, finishedSecond⟩ := outcome_iff.mp ⟨_, finished⟩
  obtain ⟨counted, -, alike⟩ := results _ _ finished finishedSecond
  exact ⟨perm, by decide, _, second, readFirst, readSecond,
    ⟨summary, finishedSecond, counted.symm⟩, alike⟩

end Compilation

end Delegation
