import Delegation.Proofs.Compilation.Standing

/-!
# Endings

How a compilation that ends well leaves the annotated classes of its snapshot.  A class is
generated, or its request is invalid, or it refers to something that never appeared; there is no
fourth way, and no class ends in two of these.

## Main Definitions

* `Fate` — the three ways, and `Fate.Holds`, what each of them means.
* `Snapshot.annotated` — the annotated classes of all rounds.
* `Compilation.lastRun` — the rounds of a compilation, with the progress they have made.

## Main Statements

* `Compilation.fates` — every annotated class has one fate, and everything that is written or
  reported agrees with the fates.
-/

namespace Delegation

open Java

/-- The annotated classes of a snapshot, whatever their rounds, in the order of declaration. -/
def Snapshot.annotated (snapshot : Snapshot) : List ClassName :=
  (snapshot.entries.toList.filter (·.decl.request?.isSome)).map Entry.name

theorem Snapshot.annotated_eq (snapshot : Snapshot) :
    snapshot.annotated = snapshot.annotations.map Entry.name := by
  rw [annotated, annotations, written, List.filter_map, List.map_map]
  rfl

/-- The ways in which an annotated class ends. -/
inductive Fate
  /-- Its base class has been written. -/
  | generated
  /-- Its request has been rejected. -/
  | invalid
  /-- It has been put off to the end. -/
  | undefined
deriving DecidableEq, Repr

/-- What a fate means for a class, given which classes a compilation has written base classes for,
its summary, what its store holds and what it has reported. -/
def Fate.Holds (emitted : ClassNames) (summary : Summary) (store : MemoryStore)
    (diagnostics : List Diagnostic) (type : ClassName) : Fate → Prop
  | generated =>
    type ∈ emitted ∧ summary.generated.count type.generated = 1 ∧
      type.generated ∈ store.files ∧ type.generated ∈ store.classes ∧
      ∀ diagnostic ∈ Diagnostic.about diagnostics type, diagnostic.isError = false
  | invalid =>
    type ∉ emitted ∧
      (∃ diagnostic ∈ Diagnostic.about diagnostics type, diagnostic.isError = true) ∧
      ∀ diagnostic ∈ Diagnostic.about diagnostics type, diagnostic.isError = true →
        diagnostic.code ≠ .undefined ∧ diagnostic.code ≠ .internalException
  | undefined =>
    type ∉ emitted ∧
      ∃ diagnostic, Diagnostic.about diagnostics type = [diagnostic] ∧
        diagnostic.isError = true ∧ diagnostic.code = .undefined

/-- A class has one fate at most. -/
theorem Fate.Holds.unique {emitted : ClassNames} {summary : Summary} {store : MemoryStore}
    {diagnostics : List Diagnostic} {type : ClassName} {first second : Fate}
    (atFirst : first.Holds emitted summary store diagnostics type)
    (atSecond : second.Holds emitted summary store diagnostics type) : first = second := by
  have apart : Holds emitted summary store diagnostics type .invalid →
      ¬ Holds emitted summary store diagnostics type .undefined := by
    rintro ⟨-, -, reasons⟩ ⟨-, diagnostic, only, error, code⟩
    exact (reasons diagnostic (by simp [only]) error).1 code
  cases first with
  | generated =>
      cases second with
      | generated => rfl
      | invalid => exact absurd atFirst.1 atSecond.1
      | undefined => exact absurd atFirst.1 atSecond.1
  | invalid =>
      cases second with
      | generated => exact absurd atSecond.1 atFirst.1
      | invalid => rfl
      | undefined => exact absurd atSecond (apart atFirst)
  | undefined =>
      cases second with
      | generated => exact absurd atSecond.1 atFirst.1
      | invalid => exact absurd atFirst (apart atSecond)
      | undefined => rfl

/-- A class about which no error is reported is generated. -/
theorem Fate.Holds.generated_of_clean {emitted : ClassNames} {summary : Summary}
    {store : MemoryStore} {diagnostics : List Diagnostic} {type : ClassName} {fate : Fate}
    (holds : fate.Holds emitted summary store diagnostics type)
    (clean : ∀ diagnostic ∈ Diagnostic.about diagnostics type, diagnostic.isError = false) :
    Holds emitted summary store diagnostics type .generated := by
  cases fate with
  | generated => exact holds
  | invalid =>
      obtain ⟨-, ⟨diagnostic, told, error⟩, -⟩ := holds
      rw [clean diagnostic told] at error
      cases error
  | undefined =>
      obtain ⟨-, diagnostic, only, error, -⟩ := holds
      rw [clean diagnostic (by simp [only])] at error
      cases error

/-- A class whose base class has been written is generated. -/
theorem Fate.Holds.generated_of_mem {emitted : ClassNames} {summary : Summary}
    {store : MemoryStore} {diagnostics : List Diagnostic} {type : ClassName} {fate : Fate}
    (holds : fate.Holds emitted summary store diagnostics type) (done : type ∈ emitted) :
    Holds emitted summary store diagnostics type .generated := by
  cases fate with
  | generated => exact holds
  | invalid => exact absurd done holds.1
  | undefined => exact absurd done holds.1

/-! ## The classes put off to the end -/

theorem nodup_toList (names : ClassNames) : names.toList.Nodup :=
  Std.TreeMap.nodup_keys (t := names.inner)

/-- The only error in the end about a class that is put off. -/
theorem about_undefinedDiagnostics_of_mem {table : SymbolTable} {progress : Progress}
    {type : ClassName} (pending : type ∈ progress.deferred) :
    Diagnostic.about (undefinedDiagnostics table progress) type =
      [undefinedDiagnostic table type] := by
  have nodup : (progress.deferred.toList.map id).Nodup := by
    rw [List.map_id]
    exact nodup_toList _
  rw [Diagnostic.about, undefinedDiagnostics, List.filter_map]
  have only := filter_eq_singleton nodup (Std.TreeSet.mem_toList.mpr pending)
  exact congrArg (List.map (undefinedDiagnostic table)) only

/-- There is no error in the end about a class that is not put off. -/
theorem about_undefinedDiagnostics_of_notMem {table : SymbolTable} {progress : Progress}
    {type : ClassName} (notPutOff : type ∉ progress.deferred) :
    Diagnostic.about (undefinedDiagnostics table progress) type = [] := by
  refine List.filter_eq_nil_iff.mpr fun diagnostic told => ?_
  obtain ⟨other, pending, rfl⟩ := List.mem_map.mp told
  rw [decide_eq_true_eq]
  rintro rfl
  exact notPutOff (Std.TreeSet.mem_toList.mp pending)

/-! ## The last round -/

namespace Run

variable {annotations : List Entry} {run : Run MemoryStore}

/-- What a store in memory holds, it holds as a source. -/
abbrev InMemory (annotations : List Entry) (run : Run MemoryStore) : Prop :=
  run.Sound (fun store name => name ∈ store.files) annotations

/-- A class that is not annotated is neither done nor reported about. -/
theorem Sound.untouched_of_notMem (sound : run.InMemory annotations) {type : ClassName}
    (unknown : type ∉ annotations.map Entry.name) :
    Untouched run.progress (Diagnostic.about run.diagnostics type) type := by
  refine sound.untouched type fun entry mem same => ?_
  exact absurd (same ▸ List.mem_map_of_mem mem) unknown

/-- The names of the base classes are different, and they are those that the store holds. -/
theorem Sound.generated (sound : run.InMemory annotations) :
    run.summary.generated.Nodup ∧
      ∀ name, name ∈ run.store.files ↔ name ∈ run.summary.generated := by
  obtain ⟨made, nodup, made_iff, listed⟩ := sound.made
  rw [listed]
  constructor
  · refine List.Nodup.map_on (fun first atFirst second atSecond same => ?_) nodup
    exact sound.consistent.injective first ((made_iff first).mpr atFirst) second
      ((made_iff second).mpr atSecond) same
  · intro name
    simp only [sound.consistent.held_iff, made_iff, List.mem_map]

/-- The summary lists the base classes of the annotated classes that are done. -/
theorem Sound.perm_generated (sound : run.InMemory annotations)
    (nodup : (annotations.map Entry.name).Nodup) :
    run.summary.generated.Perm
      (((annotations.map Entry.name).filter (· ∈ run.progress.emitted)).map
        ClassName.generated) := by
  obtain ⟨made, madeNodup, made_iff, listed⟩ := sound.made
  rw [listed]
  refine List.Perm.map _ ((List.perm_ext_iff_of_nodup madeNodup (nodup.filter _)).mpr ?_)
  intro type
  rw [List.mem_filter, decide_eq_true_eq, ← made_iff]
  refine ⟨fun done => ⟨?_, done⟩, fun both => both.2⟩
  by_contra unknown
  exact (sound.untouched_of_notMem unknown).notDone done

/-- When all rounds are over, every annotated class has a fate. -/
theorem Sound.exists_fate (sound : run.InMemory annotations) (paired : run.store.Paired)
    {entry : Entry} (mem : entry ∈ annotations) (appeared : entry.round ≤ run.summary.rounds) :
    ∃ fate : Fate, fate.Holds run.progress.emitted run.summary run.store run.finish.diagnostics
      entry.name := by
  have reported : Diagnostic.about run.finish.diagnostics entry.name =
      Diagnostic.about run.diagnostics entry.name ++
        Diagnostic.about (undefinedDiagnostics run.snapshot.table run.progress) entry.name :=
    Diagnostic.about_append ..
  cases sound.stands entry mem appeared with
  | putOff pending notDone silent =>
      rw [silent, about_undefinedDiagnostics_of_mem pending, List.nil_append] at reported
      exact ⟨.undefined, notDone, _, reported, rfl, rfl⟩
  | done written notPutOff clean =>
      rw [about_undefinedDiagnostics_of_notMem notPutOff, List.append_nil] at reported
      obtain ⟨nodup, held_iff⟩ := sound.generated
      have held : entry.name.generated ∈ run.store.files :=
        (sound.consistent.held_iff _).mpr ⟨entry.name, written, rfl⟩
      refine ⟨.generated, written, ?_, held, (paired _).mpr held, by rwa [reported]⟩
      exact List.count_eq_one_of_mem nodup ((held_iff _).mp held)
  | rejected notPutOff notDone told reasons =>
      rw [about_undefinedDiagnostics_of_notMem notPutOff, List.append_nil] at reported
      obtain ⟨diagnostic, first⟩ := List.exists_mem_of_ne_nil _ told
      refine ⟨.invalid, notDone, ⟨diagnostic, by rwa [reported], (reasons _ first).1⟩, ?_⟩
      rw [reported]
      exact fun other listed _ => (reasons other listed).2

/-- Every error is about an annotated class. -/
theorem Sound.annotated_of_mem (sound : run.InMemory annotations) {diagnostic : Diagnostic}
    (told : diagnostic ∈ run.finish.diagnostics) :
    diagnostic.location.typeName ∈ annotations.map Entry.name := by
  by_contra unknown
  obtain ⟨notPutOff, -, silent⟩ := sound.untouched_of_notMem unknown
  have here : diagnostic ∈ Diagnostic.about run.finish.diagnostics diagnostic.location.typeName :=
    List.mem_filter.mpr ⟨told, decide_eq_true rfl⟩
  rw [show run.finish.diagnostics = run.diagnostics ++
    undefinedDiagnostics run.snapshot.table run.progress from rfl, Diagnostic.about_append, silent,
    about_undefinedDiagnostics_of_notMem notPutOff] at here
  cases here

end Run

/-! ## A whole compilation -/

namespace Compilation

variable {σ : Type}

/-- The rounds of a compilation, with the progress they have made. -/
def lastRun (compilation : Compilation) (output : Output σ) (store : σ) :
    Except Fault Summary × Run σ :=
  (Run.start compilation.snapshot store).rounds compilation.options output
    compilation.options.maxRounds

/-- What a compilation leaves behind is what its rounds leave, without the progress. -/
theorem run_eq {compilation : Compilation} {output : Output σ} {store : σ}
    {outcome : Except Fault Summary} {final : Run σ}
    (ran : compilation.lastRun output store = (outcome, final)) :
    compilation.run output store = ⟨outcome, { compilation with snapshot := final.snapshot },
      final.store, final.diagnostics, final.log⟩ := by
  unfold lastRun at ran
  simp only [run, ran]

/-- The rounds of a compilation that ends well end in a sound run, in which all annotated classes
have had their rounds. -/
theorem exists_sound_of_lastRun {compilation : Compilation} (reached : compilation.snapshot.Reached)
    {summary : Summary} {final : Run MemoryStore}
    (ran : compilation.lastRun MemoryStore.output .empty = (.ok summary, final)) :
    ∃ last : Run MemoryStore, last.InMemory compilation.snapshot.annotations ∧
      last.store.Paired ∧
      (∀ entry ∈ compilation.snapshot.annotations, entry.round ≤ last.summary.rounds) ∧
      summary = last.summary ∧ final = last.finish := by
  obtain ⟨before, report, last, -, lastRound, ⟨sound, paired⟩, settled, sameSummary, sameRun⟩ :=
    Run.exists_of_rounds (fun run : Run MemoryStore =>
      run.InMemory compilation.snapshot.annotations ∧ run.store.Paired)
      (fun kept ran => ⟨kept.1.round MemoryStore.keeps ran,
        Run.preserves_round MemoryStore.Paired
          (fun _ base paired => paired.write base compilation.options) kept.2 ran⟩)
      ⟨Run.sound_start reached fun _ => Std.TreeMap.not_mem_emptyc, MemoryStore.paired_empty⟩ ran
  -- The last round is one after which no types are to come, so all of them have come by then.
  refine ⟨last, sound, paired, fun entry mem => ?_, sameSummary, sameRun⟩
  rw [← Run.round_snapshot lastRound]
  rw [← sound.annotated] at mem
  simp only [Run.isSettled, Bool.and_eq_true, Bool.not_eq_true'] at settled
  exact Snapshot.round_le_of_not_hasLaterRounds settled.2 mem

/-- When a compilation in memory ends well, its summary lists the classes that are there, each
once. -/
theorem generated_run {compilation : Compilation} (reached : compilation.snapshot.Reached)
    {summary : Summary}
    (finished : (compilation.run MemoryStore.output .empty).outcome = .ok summary) :
    summary.generated.Nodup ∧
      (∀ name, name ∈ (compilation.run MemoryStore.output .empty).store.files ↔
        name ∈ summary.generated) ∧
      ∀ name, name ∈ (compilation.run MemoryStore.output .empty).store.classes ↔
        name ∈ summary.generated := by
  cases ran : compilation.lastRun MemoryStore.output .empty with
  | mk outcome final =>
      rw [run_eq ran] at finished ⊢
      obtain rfl : outcome = .ok summary := finished
      obtain ⟨last, sound, paired, -, rfl, rfl⟩ := exists_sound_of_lastRun reached ran
      obtain ⟨nodup, held_iff⟩ := sound.generated
      exact ⟨nodup, held_iff, fun name => (paired name).trans (held_iff name)⟩

/-- **Every annotated class has one fate.** -/
theorem fates {types : List TypeDefinition} {options : Options} {snapshot : Snapshot}
    (read : Snapshot.ofTypes types options = .ok snapshot) (config : Options) {summary : Summary}
    (finished : (run ⟨snapshot, config⟩ MemoryStore.output .empty).outcome = .ok summary) :
    let result := run ⟨snapshot, config⟩ MemoryStore.output .empty
    let emitted := (lastRun ⟨snapshot, config⟩ MemoryStore.output .empty).2.progress.emitted
    (∀ type ∈ snapshot.annotated,
      ∃! fate : Fate, fate.Holds emitted summary result.store result.diagnostics type) ∧
    summary.generated.Perm
      ((snapshot.annotated.filter (· ∈ emitted)).map ClassName.generated) ∧
    (∀ name, name ∈ result.store.files ↔ name ∈ summary.generated) ∧
    (∀ name, name ∈ result.store.classes ↔ name ∈ summary.generated) ∧
    (Diagnostic.hasErrors result.diagnostics = false ↔ ∀ type ∈ snapshot.annotated,
      Fate.generated.Holds emitted summary result.store result.diagnostics type) := by
  have reached : snapshot.Reached := .read read
  have nodup := reached.nodup_annotations
  cases ran : lastRun ⟨snapshot, config⟩ MemoryStore.output .empty with
  | mk outcome final =>
      rw [run_eq ran] at finished ⊢
      obtain rfl : outcome = .ok summary := finished
      obtain ⟨last, sound, paired, complete, rfl, rfl⟩ := exists_sound_of_lastRun reached ran
      simp only [Snapshot.annotated_eq]
      have fate : ∀ type ∈ snapshot.annotations.map Entry.name, ∃ fate : Fate, fate.Holds
          last.progress.emitted last.summary last.store last.finish.diagnostics type := by
        intro type mem
        obtain ⟨entry, listed, rfl⟩ := List.mem_map.mp mem
        exact sound.exists_fate paired listed (complete entry listed)
      refine ⟨fun type mem => ?_, sound.perm_generated nodup, sound.generated.2, fun name => ?_, ?_⟩
      · obtain ⟨fate, holds⟩ := fate type mem
        exact ⟨fate, holds, fun other otherHolds => otherHolds.unique holds⟩
      · exact (paired name).trans (sound.generated.2 name)
      · constructor
        · intro quiet type mem
          obtain ⟨fate, holds⟩ := fate type mem
          refine holds.generated_of_clean fun diagnostic told => ?_
          simpa using List.any_eq_false.mp quiet diagnostic (List.mem_of_mem_filter told)
        · intro all
          refine List.any_eq_false.mpr fun diagnostic told => ?_
          have mem := sound.annotated_of_mem told
          obtain ⟨-, -, -, -, clean⟩ := all _ mem
          rw [clean diagnostic (List.mem_filter.mpr ⟨told, decide_eq_true rfl⟩)]
          exact Bool.false_ne_true

/-- A class that is generated, an interface that is annotated although it is no class, and a class
that delegates to a type that never appears. -/
def oneOfEach : List TypeDefinition :=
  [{ name := "foo.I", kind := .interface, methods := [{ name := "m" }] },
   { name := "foo.A", kind := .class_, extends? := some "foo.AutoDelegate_A"
     request? := some ⟨[⟨"foo.I", none⟩], none⟩ },
   { name := "foo.B", kind := .interface, request? := some .empty },
   { name := "foo.C", kind := .class_, round := 2, extends? := some "foo.AutoDelegate_C"
     request? := some ⟨[⟨"foo.J", none⟩], none⟩ }]

/-- Their compilation takes two rounds, and each of the three has its fate. -/
theorem fates_oneOfEach :
    let snapshot := Snapshot.sample oneOfEach
    let result := run ⟨snapshot, .standard⟩ MemoryStore.output .empty
    let emitted := (lastRun ⟨snapshot, .standard⟩ MemoryStore.output .empty).2.progress.emitted
    let summary : Summary := ⟨[⟨"foo", "AutoDelegate_A", []⟩], 2⟩
    snapshot.annotated = [⟨"foo", "A", []⟩, ⟨"foo", "B", []⟩, ⟨"foo", "C", []⟩] ∧
    Snapshot.ofTypes oneOfEach .standard = .ok snapshot ∧ result.outcome = .ok summary ∧
    emitted.toList = [⟨"foo", "A", []⟩] ∧
    ∀ type ∈ snapshot.annotated,
      ∃! fate : Fate, fate.Holds emitted summary result.store result.diagnostics type := by
  have read : Snapshot.ofTypes oneOfEach .standard = .ok (Snapshot.sample oneOfEach) :=
    Snapshot.ofTypes_sample (by decide +kernel)
  have finished : (run ⟨Snapshot.sample oneOfEach, .standard⟩ MemoryStore.output .empty).outcome =
      .ok ⟨[⟨"foo", "AutoDelegate_A", []⟩], 2⟩ := by decide +kernel
  exact ⟨by decide +kernel, read, finished, by decide +kernel, (fates read .standard finished).1⟩

end Compilation

end Delegation
