import Delegation.Proofs.Compilation.Attempts
import Delegation.Proofs.Compilation.Faults
import Delegation.Proofs.Compilation.History
import Delegation.Proofs.Java.SharedName

/-!
# Classes that clash

Base classes are told apart by their names, and two annotated classes that are spelled alike share
the name of their base class.  A compilation accepts both of them; in memory it stops at the second
one, since a class of that name has been written.  Another reason to find a name taken is that a
type which is declared has it.  There is no third one: a compilation in fresh memory writes no class
twice.

## Main Statements

* `target_eq_iff` — two accepted plans have one target when their classes are spelled alike.
* `Run.Sound.exists_alike_of_stopsAt`, `Run.Sound.exists_declared_of_refuses` — the two reasons.
* `Compilation.clashes` — what a clash in fresh memory says about the classes of a compilation.
-/

namespace Delegation

open Java Validation

/-- **Two accepted plans have one target when their classes are spelled alike.** -/
theorem target_eq_iff {table : SymbolTable} {first second : TypeDecl} {plan plan' : Plan}
    (accepted : validate table first = .accepted plan)
    (accepted' : validate table second = .accepted plan') :
    plan.target = plan'.target ↔ first.name.SpelledAlike second.name := by
  rw [(names_of_validate accepted).2, (names_of_validate accepted').2]
  exact ClassName.generated_eq_iff

/-! ## In a pass -/

/-- The store in memory refuses a class only because it holds its name. -/
theorem MemoryStore.held_of_write_eq_error {store store' : MemoryStore} {base : BaseClass}
    {file : SourceFile} {fault : Fault}
    (refused : output.write store base file = (.error fault, store')) :
    file.name ∈ store.files ∧ fault = .duplicateOutput file.name.qualified := by
  simp only [output, write] at refused
  split at refused
  · rename_i held
    cases refused
    exact ⟨Std.TreeMap.mem_iff_contains.mpr held, rfl⟩
  · cases refused

namespace Pass

variable {options : Options} {table : SymbolTable}

/-- A pass in memory stops at a class with a name that is taken because the base class of another
one, which is done by then, has the name. -/
theorem exists_shared_of_stop (lawful : table.Lawful) {progress : Progress}
    {annotated : List ClassName} {store : MemoryStore}
    (consistent : progress.Consistent (· ∈ store.files)) {done rest : List TypeDecl}
    {decl : TypeDecl} (split : candidates progress annotated table = done ++ decl :: rest)
    {mid pass : Pass MemoryStore}
    (before : (start progress store).processAll options MemoryStore.output table done = (none, mid))
    {text : String} (stop : mid.process options MemoryStore.output table decl =
      (some (.duplicateOutput text), pass)) :
    text = decl.name.generated.qualified ∧
      ∃ other, (other ∈ progress.emitted ∨ other ∈ done.map (·.name)) ∧ other ≠ decl.name ∧
        other.generated = decl.name.generated := by
  have nodup := nodup_map_name_candidates lawful progress annotated
  have fresh : ∀ other ∈ done ++ decl :: rest, other.name ∉ progress.emitted := by
    intro other mem
    rw [← split] at mem
    exact ((mem_map_name_candidates_iff lawful).mp (List.mem_map_of_mem mem)).2.1
  rw [split, List.map_append, List.map_cons] at nodup
  obtain ⟨nodupDone, -, apart⟩ := List.nodup_append.mp nodup
  obtain ⟨sound, store', written, rfl⟩ := processAll_eq_none_iff.mp before
  have settled := consistent_settled MemoryStore.keeps consistent nodupDone
    (fun other mem => fresh other (List.mem_append_left _ mem)) sound written
  unfold process at stop
  split at stop
  · cases stop
  · cases stop
  · cases stop
  · rename_i result judged
    simp only [generate] at stop
    split at stop
    · cases stop
    · rename_i fault store'' refused
      cases stop
      obtain ⟨held, same⟩ := MemoryStore.held_of_write_eq_error refused
      have named : (render result.base options).name = decl.name.generated :=
        name_base_of_judge judged
      rw [named] at held same
      obtain ⟨other, emitted, shared⟩ := (settled.held_iff _).mp held
      have known : other ∈ progress.emitted ∨ other ∈ done.map (·.name) := by
        rcases mem_emitted_settled.mp emitted with old | new
        · exact .inl old
        · exact .inr ((List.filter_sublist.map _).subset new)
      refine ⟨Fault.duplicateOutput.inj same, other, known, ?_, shared⟩
      rintro rfl
      rcases known with old | new
      · exact fresh decl (List.mem_append_right _ List.mem_cons_self) old
      · exact apart _ new _ List.mem_cons_self rfl

end Pass

/-! ## In a round -/

namespace Run

variable {options : Options} {annotations : List Entry} {run : Run MemoryStore}

/-- What is put off in a sound run is annotated. -/
theorem Sound.tracks (sound : run.InMemory annotations) : run.Tracks annotations where
  reached := sound.reached
  annotated := sound.annotated
  pending type pending := by
    by_contra unknown
    exact (sound.untouched_of_notMem unknown).notPutOff pending

/-- **A round stops at a class whose name is taken because another class is spelled alike.** -/
theorem Sound.exists_alike_of_stopsAt (sound : run.InMemory annotations) {type : ClassName}
    {text : String}
    (stops : run.StopsAt options MemoryStore.output type (.duplicateOutput text)) :
    text = type.generated.qualified ∧ type ∈ annotations.map Entry.name ∧
      ∃ other ∈ annotations.map Entry.name, other ≠ type ∧ other.SpelledAlike type := by
  obtain ⟨split, rfl, before, stop⟩ := stops
  have lawful := (Snapshot.Reached.moved sound.reached (run.summary.rounds + 1)).wellFormed.lawful
  obtain ⟨same, other, known, different, shared⟩ :=
    Pass.exists_shared_of_stop lawful sound.consistent split before stop
  refine ⟨same, ?_, other, ?_, different, ClassName.generated_eq_iff.mp shared⟩
  · refine sound.tracks.annotated_of_mem_candidates ?_
    rw [split]
    exact List.mem_append_right _ List.mem_cons_self
  · rcases known with emitted | among
    · by_contra unknown
      exact (sound.untouched_of_notMem unknown).notDone emitted
    · obtain ⟨decl, mem, rfl⟩ := List.mem_map.mp among
      refine sound.tracks.annotated_of_mem_candidates ?_
      rw [split]
      exact List.mem_append_left _ mem

/-- The names in a snapshot are those that it had in the beginning and those of the generated
classes. -/
theorem History.entryNames {σ : Type} {initial : Snapshot} {makings : List Making} {run : Run σ}
    (history : run.History initial makings) :
    run.snapshot.entryNames = initial.entryNames ++ run.summary.generated := by
  rw [← Snapshot.map_name_written, history.written, List.map_append, Snapshot.map_name_written,
    List.map_map, history.generated]
  rfl

/-- **A base class is kept from joining because a declared type has its name.**  Among the generated
classes the name is new, or else it could not have been written. -/
theorem Sound.exists_declared_of_refuses (sound : run.InMemory annotations) {initial : Snapshot}
    {makings : List Making} (history : run.History initial makings) {base : BaseClass}
    (refuses : run.Refuses options MemoryStore.output base) :
    base.name ∈ initial.entryNames ∧
      ∃ type ∈ annotations.map Entry.name, type.generated = base.name := by
  obtain ⟨passed, written, -, known⟩ := refuses
  obtain ⟨-, store, stored, rfl⟩ := Pass.processAll_eq_none_iff.mp passed
  generalize looked : Pass.candidates run.progress _ run.nextSnapshot.table = decls at *
  have bases : basesAmong run.nextSnapshot.table decls = _ := written
  obtain ⟨nodup, fresh, -⟩ := MemoryStore.keeps.writeAll stored
  have mem : base ∈ basesAmong run.nextSnapshot.table decls := by
    rw [bases]
    exact List.mem_append_right _ List.mem_cons_self
  constructor
  · rw [history.entryNames, List.append_assoc, List.mem_append, List.mem_append] at known
    rcases known with declared | generated | earlier
    · exact declared
    · exact absurd ((sound.generated.2 _).mpr generated) (fresh base mem)
    · rw [bases, List.map_append, List.map_cons] at nodup
      exact absurd rfl ((List.nodup_append.mp nodup).2.2 _ earlier _ List.mem_cons_self)
  · have named : base.name ∈ (basesAmong run.nextSnapshot.table decls).map (·.name) :=
      List.mem_map_of_mem mem
    rw [map_name_basesAmong] at named
    obtain ⟨type, among, same⟩ := List.mem_map.mp named
    obtain ⟨decl, listed, rfl⟩ := List.mem_map.mp among
    have candidate := List.mem_of_mem_filter listed
    rw [← looked] at candidate
    exact ⟨decl.name, sound.tracks.annotated_of_mem_candidates candidate, same⟩

end Run

namespace Compilation

/-- **Clashes come from names that are spelled alike.**  Two classes that are both accepted, whatever
the round, share their target exactly if they are spelled alike; if they are different, one of their
names has an underscore then.  A compilation in fresh memory finds a class written twice only for
two such classes, and it reports the second one, or because a type that is declared has the name. -/
theorem clashes {snapshot : Snapshot} (reached : snapshot.Reached) (config : Options) :
    let result := run ⟨snapshot, config⟩ MemoryStore.output .empty
    (∀ (round : Nat) (first second : TypeDecl) (plan plan' : Plan),
      validate (snapshot.setRound round).table first = .accepted plan →
      validate (snapshot.setRound round).table second = .accepted plan' →
      (plan.target = plan'.target ↔ first.name.SpelledAlike second.name) ∧
      (plan.target = plan'.target → first.name ≠ second.name →
        ∃ simple ∈ first.name.simpleNames ++ second.name.simpleNames, '_' ∈ simple.toList)) ∧
    ∀ text, result.outcome = .error (.duplicateOutput text) →
      (∃ type ∈ snapshot.annotated, ∃ other ∈ snapshot.annotated,
        other ≠ type ∧ other.SpelledAlike type ∧ text = type.generated.qualified ∧
        result.diagnostics.getLast? = some ⟨.error, .internalException,
          "@AutoDelegate processing failed: attempt to recreate a file for type " ++ text,
          .type type⟩) ∨
      ∃ type ∈ snapshot.annotated,
        type.generated ∈ snapshot.entryNames ∧ text = type.generated.qualified := by
  intro result
  refine ⟨fun round first second plan plan' accepted accepted' => ?_, fun text failed => ?_⟩
  · have alike_iff := target_eq_iff accepted accepted'
    exact ⟨alike_iff, fun same => (alike_iff.mp same).exists_underscore⟩
  · cases ran : lastRun ⟨snapshot, config⟩ MemoryStore.output .empty with
    | mk outcome final =>
        rw [show result = _ from run_eq ran] at failed ⊢
        obtain rfl : outcome = .error (.duplicateOutput text) := failed
        rcases Run.exists_of_rounds_eq_error ran with hit | ⟨last, leads, faulty⟩
        · cases hit
        · obtain ⟨sound, makings, history⟩ := leads.kept
            (fun run : Run MemoryStore => run.InMemory snapshot.annotations ∧
              ∃ makings, run.History snapshot makings)
            (fun ⟨sound, makings, history⟩ ran =>
              have ⟨new, _, _, _, extended⟩ := history.round ran
              ⟨sound.round MemoryStore.keeps ran, makings ++ new, extended⟩)
            ⟨Run.sound_start reached fun _ => Std.TreeMap.not_mem_emptyc, [],
              Run.history_start reached _⟩
          rw [Snapshot.annotated_eq]
          rcases Run.exists_of_round_eq_error sound.reached faulty with
            ⟨type, stops, told⟩ | ⟨base, refuses, same, -⟩
          · obtain ⟨same, annotated, other, otherAnnotated, different, alike⟩ :=
              sound.exists_alike_of_stopsAt stops
            have trace : Fault.trace (.duplicateOutput text) =
                "attempt to recreate a file for type " ++ text := rfl
            rw [Fault.diagnostic_eq, trace, ← String.append_assoc] at told
            exact .inl ⟨type, annotated, other, otherAnnotated, different, alike, same, told⟩
          · obtain ⟨declared, type, annotated, shared⟩ :=
              sound.exists_declared_of_refuses history refuses
            rw [← shared] at declared same
            exact .inr ⟨type, annotated, declared, Fault.duplicateOutput.inj same⟩

/-- A class `B` inside a class `A`, and a class `A_B` beside it. -/
def insideAndBeside : List TypeDefinition :=
  [{ name := "foo.A", kind := .class_ },
   { name := "foo.A.B", kind := .class_, modifiers := [.static]
     extends? := some "foo.AutoDelegate_A_B", request? := some .empty },
   { name := "foo.A_B", kind := .class_, extends? := some "foo.AutoDelegate_A_B"
     request? := some .empty }]

/-- Their compilation finds a class written twice, since both are spelled alike. -/
theorem clashes_insideAndBeside :
    let snapshot := Snapshot.sample insideAndBeside
    let result := run ⟨snapshot, .standard⟩ MemoryStore.output .empty
    snapshot.Reached ∧ result.outcome = .error (.duplicateOutput "foo.AutoDelegate_A_B") ∧
    ∃ type ∈ snapshot.annotated, ∃ other ∈ snapshot.annotated,
      other ≠ type ∧ other.SpelledAlike type := by
  have reached : (Snapshot.sample insideAndBeside).Reached := .read (Snapshot.ofTypes_sample (by
    decide +kernel))
  have failed : (run ⟨.sample insideAndBeside, .standard⟩ MemoryStore.output .empty).outcome =
      .error (.duplicateOutput "foo.AutoDelegate_A_B") := by decide +kernel
  have undeclared : ∀ type ∈ (Snapshot.sample insideAndBeside).annotated,
      type.generated ∉ (Snapshot.sample insideAndBeside).entryNames := by decide +kernel
  refine ⟨reached, failed, ?_⟩
  rcases (clashes reached .standard).2 _ failed with
    ⟨type, annotated, other, otherAnnotated, different, alike, -⟩ | ⟨type, annotated, declared, -⟩
  · exact ⟨type, annotated, other, otherAnnotated, different, alike⟩
  · exact absurd declared (undeclared type annotated)

/-- Both are accepted in the first round, with one target. -/
theorem not_distinguished_insideAndBeside :
    ¬ ∀ (snapshot : Snapshot), snapshot.Reached → ∀ (round : Nat) (first second : TypeDecl)
      (plan plan' : Plan),
      (snapshot.setRound round).table.lookup first.name = some first →
      (snapshot.setRound round).table.lookup second.name = some second →
      validate (snapshot.setRound round).table first = .accepted plan →
      validate (snapshot.setRound round).table second = .accepted plan' →
      first.name ≠ second.name → plan.target ≠ plan'.target := by
  intro everywhere
  have reached : (Snapshot.sample insideAndBeside).Reached := .read (Snapshot.ofTypes_sample (by
    decide +kernel))
  have lawful := (Snapshot.Reached.moved reached 1).wellFormed.lawful
  let table := ((Snapshot.sample insideAndBeside).setRound 1).table
  let target : ClassName := ⟨"foo", "AutoDelegate_A_B", []⟩
  have inside : (table.lookup ⟨"foo", "A", ["B"]⟩).map (validate table) =
      some (.accepted ⟨⟨"foo", "A", ["B"]⟩, target, .object, []⟩) := by decide +kernel
  have beside : (table.lookup ⟨"foo", "A_B", []⟩).map (validate table) =
      some (.accepted ⟨⟨"foo", "A_B", []⟩, target, .object, []⟩) := by decide +kernel
  obtain ⟨first, found, accepted⟩ := Option.map_eq_some_iff.mp inside
  obtain ⟨second, found', accepted'⟩ := Option.map_eq_some_iff.mp beside
  have named := lawful _ _ found
  have named' := lawful _ _ found'
  rw [← named] at found
  rw [← named'] at found'
  refine everywhere _ reached 1 first second _ _ found found' accepted accepted' ?_ rfl
  rw [named, named']
  decide

end Compilation

end Delegation
