import Delegation.Proofs.Compilation.Rounds
import Delegation.Proofs.Keyed
import Delegation.Proofs.Pass.Reports

/-!
# How annotated classes stand

After any number of rounds, an annotated class whose round has come is in one of three positions: it
is put off and nothing has been reported about it; it is done and no error has been reported about
it; or it is rejected, with errors that say why.  A class whose round has not come has left no trace
yet, and neither has anything that is not annotated.

## Main Definitions

* `Stands`, `Untouched` — the position of a class.
* `Run.Sound` — every class is in its position, and the progress agrees with what is written.

## Main Statements

* `Pass.stands_of_run`, `Pass.untouched_of_run` — what one pass does to a class.
* `Untouched.taken`, `Untouched.kept`, `Stands.kept` — how a class comes from one position to the
  next.
* `Run.Sound.round` — a round that ends well keeps a run sound.
-/

namespace Delegation

open Java

/-! ## The position of a class -/

/-- The position of a class whose round has come, given what has been reported about it. -/
inductive Stands (progress : Progress) (reported : List Diagnostic) (type : ClassName) : Prop
  | putOff (pending : type ∈ progress.deferred) (notDone : type ∉ progress.emitted)
      (silent : reported = [])
  | done (written : type ∈ progress.emitted) (notPutOff : type ∉ progress.deferred)
      (clean : ∀ diagnostic ∈ reported, diagnostic.isError = false)
  | rejected (notPutOff : type ∉ progress.deferred) (notDone : type ∉ progress.emitted)
      (told : reported ≠ [])
      (reasons : ∀ diagnostic ∈ reported, diagnostic.isError = true ∧
        diagnostic.code ≠ .undefined ∧ diagnostic.code ≠ .internalException)

/-- A class that has left no trace. -/
structure Untouched (progress : Progress) (reported : List Diagnostic) (type : ClassName) :
    Prop where
  notPutOff : type ∉ progress.deferred
  notDone : type ∉ progress.emitted
  silent : reported = []

/-! ## One pass -/

namespace Pass

variable {σ : Type} {options : Options} {output : Output σ} {table : SymbolTable}
variable {progress : Progress} {annotated : List ClassName} {store : σ} {pass : Pass σ}

/-- A class that a pass looks at takes its position. -/
theorem stands_of_run (lawful : table.Lawful)
    (ran : run options output table progress annotated store = (none, pass)) {type : ClassName}
    (visible : table.isVisible type) (notDone : type ∉ progress.emitted)
    (known : type ∈ progress.deferred ∨ type ∈ annotated) :
    Stands pass.progress (Diagnostic.about pass.diagnostics type) type := by
  -- No class is looked at twice, so all that the pass says of this one comes from its judgement.
  have nodup := nodup_map_name_candidates lawful progress annotated
  have candidate := (mem_map_name_candidates_iff lawful).mpr ⟨visible, notDone, known⟩
  obtain ⟨decl, mem, rfl⟩ := List.mem_map.mp candidate
  have reported := about_of_run lawful ran mem
  obtain ⟨sound, store', -, rfl⟩ := processAll_eq_none_iff.mp ran
  have done_iff := mem_map_filter_iff nodup mem fun decl => (judge table decl).result?.isSome
  have putOff_iff := mem_map_filter_iff nodup mem fun decl => (judge table decl).isDefer
  rw [reported]
  cases judged : judge table decl with
  | reject problems =>
      rw [judged] at done_iff putOff_iff
      refine .rejected ?_ ?_ ?_ ?_
      · simpa [deferredAmong] using putOff_iff
      · simpa [notDone, generatedAmong] using done_iff
      · have reasons := problems_ne_nil_of_validate (judge_eq_reject_iff.mp judged)
        simpa [diagnosticsOf, judged] using reasons
      · intro diagnostic told
        simp only [diagnosticsOf, judged] at told
        obtain ⟨problem, -, rfl⟩ := List.mem_map.mp told
        exact ⟨isError_diagnostic_problem _ _, code_diagnostic_problem _ _⟩
  | defer =>
      rw [judged] at done_iff putOff_iff
      refine .putOff ?_ ?_ ?_
      · simpa [deferredAmong] using putOff_iff
      · simpa [notDone, generatedAmong] using done_iff
      · simp [diagnosticsOf, judged]
  | fail contradiction => simpa [judged] using sound decl mem
  | generate result =>
      rw [judged] at done_iff putOff_iff
      refine .done ?_ ?_ ?_
      · simpa [notDone, generatedAmong] using done_iff
      · simpa [deferredAmong] using putOff_iff
      · intro diagnostic told
        simp only [diagnosticsOf, judged] at told
        obtain ⟨collision, -, rfl⟩ := List.mem_map.mp told
        exact isError_diagnostic_collision _ _

/-- A pass does nothing to a class that it does not look at. -/
theorem untouched_of_run (lawful : table.Lawful)
    (ran : run options output table progress annotated store = (none, pass)) {type : ClassName}
    (passedOver : type ∈ progress.emitted ∨ type ∉ progress.deferred ∧ type ∉ annotated) :
    type ∉ pass.progress.deferred ∧
      (type ∈ pass.progress.emitted ↔ type ∈ progress.emitted) ∧
      Diagnostic.about pass.diagnostics type = [] := by
  obtain ⟨sound, store', -, rfl⟩ := processAll_eq_none_iff.mp ran
  have notCandidate : type ∉ (candidates progress annotated table).map (·.name) := by
    rw [mem_map_name_candidates_iff lawful]
    tauto
  have notAmong : ∀ selected : TypeDecl → Bool,
      type ∉ ((candidates progress annotated table).filter selected).map (·.name) :=
    fun selected mem => notCandidate ((List.filter_sublist.map _).subset mem)
  refine ⟨?_, ?_, ?_⟩
  · simpa [deferredAmong] using notAmong fun decl => (judge table decl).isDefer
  · rw [mem_emitted_settled, emitted_start]
    exact or_iff_left (notAmong _)
  · refine List.filter_eq_nil_iff.mpr fun diagnostic told => ?_
    obtain ⟨decl, mem, told⟩ := List.mem_flatMap.mp told
    rw [decide_eq_true_eq, typeName_of_mem_diagnosticsOf told]
    rintro rfl
    exact notCandidate (List.mem_map_of_mem mem)

/-- A pass that ends well reports the base classes of the classes that it adds to those done, each
once. -/
theorem exists_made_of_run (lawful : table.Lawful)
    (ran : run options output table progress annotated store = (none, pass)) :
    ∃ made : List ClassName, made.Nodup ∧ (∀ type ∈ made, type ∉ progress.emitted) ∧
      (∀ type, type ∈ pass.progress.emitted ↔ type ∈ progress.emitted ∨ type ∈ made) ∧
      pass.report.generated = made.map ClassName.generated := by
  obtain ⟨sound, store', -, rfl⟩ := processAll_eq_none_iff.mp ran
  have among : (generatedAmong table (candidates progress annotated table)).Sublist
      ((candidates progress annotated table).map (·.name)) := List.filter_sublist.map _
  refine ⟨_, (nodup_map_name_candidates lawful progress annotated).sublist among, ?_, ?_, ?_⟩
  · intro type mem
    exact ((mem_map_name_candidates_iff lawful).mp (among.subset mem)).2.1
  · intro type
    rw [mem_emitted_settled, emitted_start]
  · show [] ++ (basesAmong table _).map (·.name) = _
    rw [List.nil_append, map_name_basesAmong]

end Pass

section Positions

variable {σ : Type} {options : Options} {output : Output σ} {table : SymbolTable}
variable {progress : Progress} {annotated : List ClassName} {store : σ} {pass : Pass σ}
variable {type : ClassName} {reported : List Diagnostic}

/-- A class that is new in a pass takes its position. -/
theorem Untouched.taken (untouched : Untouched progress reported type) (lawful : table.Lawful)
    (ran : Pass.run options output table progress annotated store = (none, pass))
    (visible : table.isVisible type) (new : type ∈ annotated) :
    Stands pass.progress (reported ++ Diagnostic.about pass.diagnostics type) type := by
  rw [untouched.silent, List.nil_append]
  exact Pass.stands_of_run lawful ran visible untouched.notDone (.inr new)

/-- A class that is not new yet stays untouched. -/
theorem Untouched.kept (untouched : Untouched progress reported type) (lawful : table.Lawful)
    (ran : Pass.run options output table progress annotated store = (none, pass))
    (notNew : type ∉ annotated) :
    Untouched pass.progress (reported ++ Diagnostic.about pass.diagnostics type) type := by
  obtain ⟨notPutOff, still, silent⟩ :=
    Pass.untouched_of_run lawful ran (.inr ⟨untouched.notPutOff, notNew⟩)
  refine ⟨notPutOff, fun done => untouched.notDone (still.mp done), ?_⟩
  rw [untouched.silent, silent, List.nil_append]

/-- A class that has its position takes a new one if it is put off, and keeps it otherwise. -/
theorem Stands.kept (stands : Stands progress reported type) (lawful : table.Lawful)
    (ran : Pass.run options output table progress annotated store = (none, pass))
    (visible : table.isVisible type) (notNew : type ∉ annotated) :
    Stands pass.progress (reported ++ Diagnostic.about pass.diagnostics type) type := by
  cases stands with
  | putOff pending notDone silent =>
      rw [silent, List.nil_append]
      exact Pass.stands_of_run lawful ran visible notDone (.inl pending)
  | done written notPutOff clean =>
      obtain ⟨notNow, still, silent⟩ := Pass.untouched_of_run lawful ran (.inl written)
      rw [silent, List.append_nil]
      exact .done (still.mpr written) notNow clean
  | rejected notPutOff notDone told reasons =>
      obtain ⟨notNow, still, silent⟩ :=
        Pass.untouched_of_run lawful ran (.inr ⟨notPutOff, notNew⟩)
      rw [silent, List.append_nil]
      exact .rejected notNow (fun now => notDone (still.mp now)) told reasons

end Positions

/-! ## One round -/

namespace Run

variable {σ : Type} {options : Options} {output : Output σ} {holds : σ → ClassName → Prop}

/-- Every class is in its position after the rounds so far, what is done agrees with what the store
holds, and the summary lists the base classes of what is done. -/
structure Sound (holds : σ → ClassName → Prop) (annotations : List Entry) (run : Run σ) : Prop where
  reached : run.snapshot.Reached
  annotated : run.snapshot.annotations = annotations
  consistent : run.progress.Consistent (holds run.store)
  made : ∃ made : List ClassName, made.Nodup ∧ (∀ type, type ∈ run.progress.emitted ↔ type ∈ made) ∧
    run.summary.generated = made.map ClassName.generated
  stands : ∀ entry ∈ annotations, entry.round ≤ run.summary.rounds →
    Stands run.progress (Diagnostic.about run.diagnostics entry.name) entry.name
  untouched : ∀ type, (∀ entry ∈ annotations, entry.name = type →
    run.summary.rounds < entry.round) →
      Untouched run.progress (Diagnostic.about run.diagnostics type) type

/-- Before the first round, every class is untouched. -/
theorem sound_start {snapshot : Snapshot} (reached : snapshot.Reached) {store : σ}
    (bare : ∀ name, ¬ holds store name) :
    (start snapshot store).Sound holds snapshot.annotations where
  reached := reached
  annotated := rfl
  consistent :=
    { disjoint := fun _ mem => absurd mem Std.TreeSet.not_mem_emptyc
      injective := fun _ mem => absurd mem Std.TreeSet.not_mem_emptyc
      held_iff := fun name => iff_of_false (bare name)
        fun ⟨_, mem, _⟩ => Std.TreeSet.not_mem_emptyc mem }
  made := ⟨[], List.nodup_nil, fun _ => iff_of_false Std.TreeSet.not_mem_emptyc List.not_mem_nil,
    rfl⟩
  stands entry mem appeared := by
    have appears := reached.one_le_round mem
    have never : entry.round ≤ 0 := appeared
    omega
  untouched _ _ := ⟨Std.TreeSet.not_mem_emptyc, Std.TreeSet.not_mem_emptyc, rfl⟩

/-- A round that ends well keeps a run sound. -/
theorem Sound.round (keeps : output.Keeps holds) {annotations : List Entry} {run run' : Run σ}
    {report : PassReport} (sound : run.Sound holds annotations)
    (ran : run.round options output = (.ok report, run')) : run'.Sound holds annotations := by
  obtain ⟨pass, snapshot', passed, joined, rfl, rfl⟩ := round_eq_ok_iff.mp ran
  generalize number : run.summary.rounds + 1 = round at *
  have moved : (run.snapshot.setRound round).Reached := .moved sound.reached round
  have lawful := moved.wellFormed.lawful
  have same : (run.snapshot.setRound round).annotations = annotations := by
    rw [Snapshot.annotations_setRound, sound.annotated]
  have now : (run.snapshot.setRound round).round = round := by
    rw [Snapshot.round_setRound]
    omega
  have new_iff : ∀ type, type ∈ (run.snapshot.setRound round).annotatedIn round ↔
      ∃ entry ∈ annotations, entry.name = type ∧ entry.round = round := by
    intro type
    rw [moved.mem_annotatedIn_iff (by omega), same]
  constructor
  · exact Snapshot.registerAll_induction Snapshot.Reached
      (fun reached ok => .joined reached ok) moved joined
  · exact (Snapshot.annotations_registerAll joined).trans same
  · exact (Pass.consistent_run keeps lawful sound.consistent passed).1
  · obtain ⟨before, beforeNodup, before_iff, beforeListed⟩ := sound.made
    obtain ⟨new, newNodup, fresh, grown, reported⟩ := Pass.exists_made_of_run lawful passed
    refine ⟨before ++ new, List.nodup_append.mpr ⟨beforeNodup, newNodup, ?_⟩, fun type => ?_, ?_⟩
    · rintro type old _ recent rfl
      exact fresh type recent ((before_iff type).mpr old)
    · rw [grown, before_iff, List.mem_append]
    · rw [List.map_append, ← beforeListed, ← reported]
  · intro entry mem appeared
    have visible : (run.snapshot.setRound round).table.isVisible entry.name := by
      refine moved.isVisible_of_round_le (same ▸ mem) ?_
      rwa [now]
    -- There is one entry of the name only, so its round decides whether the class is new.
    have unique : ∀ other ∈ annotations, other.name = entry.name → other = entry :=
      fun other listed sameName =>
        List.inj_on_of_nodup_map (same ▸ moved.nodup_annotations) listed mem sameName
    rw [Diagnostic.about_append]
    by_cases new : entry.round = round
    · have before := sound.untouched entry.name fun other listed sameName => by
        rw [unique other listed sameName]
        omega
      exact before.taken lawful passed visible ((new_iff _).mpr ⟨entry, mem, rfl, new⟩)
    · have earlier : entry.round ≤ run.summary.rounds := by
        simp only at appeared
        omega
      refine (sound.stands entry mem earlier).kept lawful passed visible ?_
      rw [new_iff]
      rintro ⟨other, listed, sameName, inRound⟩
      exact new (unique other listed sameName ▸ inRound)
  · intro type later
    have before := sound.untouched type fun entry mem sameName => by
      have := later entry mem sameName
      simp only at this
      omega
    rw [Diagnostic.about_append]
    refine before.kept lawful passed ?_
    rw [new_iff]
    rintro ⟨entry, mem, sameName, inRound⟩
    have := later entry mem sameName
    simp only at this
    omega

end Run

end Delegation
