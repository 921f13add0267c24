import Delegation.Proofs.Pass.Ledger
import Delegation.Snapshot.Conversion

/-!
# Sessions

A session is any number of passes that share their progress and their store, in an environment that
is free to choose everything else: the symbols each pass sees, the classes it is told are annotated,
and which writes fail.  Nothing is assumed of one pass after another; the symbols may change at will
in between.

## Main Definitions

* `UnreliableStore` — a store in memory, and the faults that the environment has in store for it.
* `Session`, `Session.call` — progress and store, and one pass over them.
* `Pass.Accounted` — every class that a pass looks at is generated, put off or rejected, once.

## Main Statements

* `Session.consistent_and_accounted` — progress and store agree after every pass, and a pass that
  ends well accounts for its classes.
* `Session.rejected_under_a_generated_name` — why a class cannot be recognised by the name of its
  base class alone.
-/

namespace Delegation

open Java

/-! ## An environment that makes writes fail -/

/-- A store in memory together with what the environment has decided about the writes to come: for
each of them the fault it ends with, if it is to fail. -/
structure UnreliableStore where
  memory : MemoryStore
  faults : Nat → Option Fault

namespace UnreliableStore

/-- Write a class, unless the environment makes this write fail. -/
def write (store : UnreliableStore) (base : BaseClass) (file : SourceFile) :
    Except Fault Unit × UnreliableStore :=
  let later := fun count => store.faults (count + 1)
  match store.faults 0 with
  | some fault => (.error fault, ⟨store.memory, later⟩)
  | none =>
    let (outcome, memory) := store.memory.write base file
    (outcome, ⟨memory, later⟩)

/-- Writing to memory as far as the environment lets it happen. -/
def output : Output UnreliableStore := ⟨write⟩

/-- The faults of the environment do not touch what the store holds. -/
theorem keeps : output.Keeps fun store name => name ∈ store.memory.files where
  written := by
    intro store store' base file ok
    simp only [output, write] at ok
    split at ok
    · cases ok
    · obtain ⟨outcome, rfl⟩ := Prod.mk.inj ok
      exact MemoryStore.keeps.written (Prod.ext outcome rfl)
  refused := by
    intro store store' base file fault refused
    simp only [output, write] at refused
    split at refused
    · cases refused
      exact fun _ => Iff.rfl
    · obtain ⟨outcome, rfl⟩ := Prod.mk.inj refused
      exact MemoryStore.keeps.refused (Prod.ext outcome rfl)

end UnreliableStore

/-- A write keeps classes and sources together, also where it fails. -/
theorem UnreliableStore.paired_write {store : UnreliableStore} (paired : store.memory.Paired)
    (base : BaseClass) (options : Options) :
    (output.write store base (render base options)).2.memory.Paired := by
  simp only [output, write]
  split
  · exact paired
  · exact paired.write base options

/-! ## Sessions -/

/-- What the environment chooses for one pass. -/
structure Call where
  options : Options
  table : SymbolTable
  annotated : List ClassName

/-- What the passes of a session have left to the next one. -/
structure Session (σ : Type) where
  progress : Progress
  store : σ

namespace Session

variable {σ : Type}

/-- The next pass of a session. -/
def call (session : Session σ) (output : Output σ) (call : Call) : Option Fault × Pass σ :=
  Pass.run call.options output call.table session.progress call.annotated session.store

/-- What a pass leaves, whether it ended well or not. -/
def after (pass : Pass σ) : Session σ := ⟨pass.progress, pass.store⟩

/-- The session after some passes. -/
def runAll (output : Output σ) (session : Session σ) (calls : List Call) : Session σ :=
  calls.foldl (fun session call => after (session.call output call).2) session

/-- Nothing has happened; all that is settled are the faults to come. -/
def start (faults : Nat → Option Fault) : Session UnreliableStore :=
  ⟨.empty, .empty, faults⟩

end Session

/-! ## The account of one call -/

/-- What a pass that ended well says about the classes it looked at: the names put off before it and
those newly annotated, as far as they are visible and not yet done. -/
structure Pass.Accounted {σ : Type} (pass : Pass σ) (before : Progress) (call : Call) : Prop where
  /-- The classes put off are those the report says. -/
  deferred_iff : ∀ type, type ∈ pass.progress.deferred ↔ type ∈ pass.report.deferred
  /-- The classes fall into those newly done, put off and rejected.  None occurs twice, and the
  report lists the base classes of the first kind. -/
  split : ∃ made,
    (∀ type, type ∈ pass.progress.emitted ↔ type ∈ before.emitted ∨ type ∈ made) ∧
    pass.report.generated = made.map (·.generated) ∧
    (made ++ (pass.report.deferred ++ pass.report.invalid)).Nodup ∧
    ∀ type, type ∈ made ++ (pass.report.deferred ++ pass.report.invalid) ↔
      call.table.isVisible type ∧ type ∉ before.emitted ∧
        (type ∈ before.deferred ∨ type ∈ call.annotated)
  /-- Every one of the classes occurs once in the report, a generated one by the name of its base
  class, unless the pass has generated a base class of that name for another class. -/
  once : ∀ type, call.table.isVisible type → type ∉ before.emitted →
    (type ∈ before.deferred ∨ type ∈ call.annotated) →
    (∀ other ∈ pass.progress.emitted, other ∉ before.emitted →
      other.generated = type.generated → other = type) →
    pass.report.generated.count type.generated + pass.report.deferred.count type +
      pass.report.invalid.count type = 1

/-- Counting an element by its image is counting it, if no other element has the image. -/
theorem count_map_of_unique {α β : Type} [DecidableEq α] [DecidableEq β] (f : α → β) {l : List α}
    {a : α} (unique : ∀ other ∈ l, f other = f a → other = a) :
    (l.map f).count (f a) = l.count a := by
  rw [List.count, List.countP_map, List.count]
  refine List.countP_congr fun other mem => ?_
  simp only [Function.comp_apply, beq_iff_eq]
  exact ⟨unique other mem, fun same => same ▸ rfl⟩

namespace Session

/-- A pass that ends well accounts for its classes. -/
theorem accounted_of_call {σ : Type} {output : Output σ} {session : Session σ} {call : Call}
    {pass : Pass σ} (lawful : call.table.Lawful) (ran : session.call output call = (none, pass)) :
    pass.Accounted session.progress call := by
  obtain ⟨sound, store, -, rfl⟩ := Pass.processAll_eq_none_iff.mp ran
  generalize looked : Pass.candidates session.progress call.annotated call.table = decls at sound
  have parts := perm_among call.table sound
  have nodup : (decls.map (·.name)).Nodup := looked ▸ Pass.nodup_map_name_candidates lawful _ _
  have mem_iff : ∀ type, type ∈ decls.map (·.name) ↔ _ := fun type =>
    looked ▸ Pass.mem_map_name_candidates_iff lawful
  have generated : ((Pass.start session.progress session.store).settled call.table decls
      store).report.generated = (generatedAmong call.table decls).map (·.generated) := by
    simp [Pass.settled, Pass.start, PassReport.empty, map_name_basesAmong]
  have deferred : ((Pass.start session.progress session.store).settled call.table decls
      store).report.deferred = deferredAmong call.table decls := by
    simp [Pass.settled, Pass.start, PassReport.empty]
  have invalid : ((Pass.start session.progress session.store).settled call.table decls
      store).report.invalid = rejectedAmong call.table decls := by
    simp [Pass.settled, Pass.start, PassReport.empty]
  constructor
  · intro type
    simp [deferred]
  · refine ⟨generatedAmong call.table decls, fun type => by simp, generated, ?_, fun type => ?_⟩
    · rw [deferred, invalid]
      exact parts.nodup_iff.mpr nodup
    · rw [deferred, invalid, parts.mem_iff, mem_iff]
  · intro type visible fresh known unique
    have counted := List.count_eq_one_of_mem nodup ((mem_iff type).mpr ⟨visible, fresh, known⟩)
    rw [← parts.count_eq, List.count_append, List.count_append] at counted
    rw [generated, deferred, invalid, count_map_of_unique, Nat.add_assoc]
    · exact counted
    · intro other mem same
      refine unique other (by simp [mem]) ?_ same
      have mem := parts.mem_iff.mp (List.mem_append_left _ mem)
      exact ((mem_iff other).mp mem).2.1

/-- What a session keeps: the progress agrees with the sources that the store has, and the store has
the class of every source. -/
structure Kept (session : Session UnreliableStore) : Prop where
  consistent : session.progress.Consistent (· ∈ session.store.memory.files)
  paired : session.store.memory.Paired

theorem kept_start (faults : Nat → Option Fault) : (start faults).Kept where
  consistent :=
    { disjoint := fun _ mem => absurd mem Std.TreeSet.not_mem_emptyc
      injective := fun _ mem => absurd mem Std.TreeSet.not_mem_emptyc
      held_iff := fun _ => iff_of_false Std.TreeMap.not_mem_emptyc
        fun ⟨_, mem, _⟩ => Std.TreeSet.not_mem_emptyc mem }
  paired := MemoryStore.paired_empty

/-- One pass keeps it, however it ends. -/
theorem Kept.call {session : Session UnreliableStore} (kept : session.Kept) {call : Call}
    (lawful : call.table.Lawful) : (after (session.call UnreliableStore.output call).2).Kept where
  consistent := (Pass.consistent_run UnreliableStore.keeps lawful kept.consistent rfl).1
  paired := Pass.preserves_run (fun store : UnreliableStore => store.memory.Paired)
    (fun _ base paired => UnreliableStore.paired_write paired base call.options) kept.paired

/-- Any number of passes keep it. -/
theorem Kept.runAll {session : Session UnreliableStore} (kept : session.Kept) {calls : List Call}
    (lawful : ∀ call ∈ calls, call.table.Lawful) :
    (session.runAll UnreliableStore.output calls).Kept := by
  induction calls generalizing session with
  | nil => exact kept
  | cons call rest ih =>
      exact ih (kept.call (lawful call List.mem_cons_self))
        fun other mem => lawful other (List.mem_cons_of_mem _ mem)

/-- **Progress and store agree after every pass of a session.**  However the passes went and however
the last one ends, no class is both put off and done, what was done stays done, and the store holds
exactly the base classes of the classes that are done, one for each.  A pass that ends well accounts
for every class it looked at. -/
theorem consistent_and_accounted (faults : Nat → Option Fault) (calls : List Call) (call : Call)
    (lawful : ∀ other ∈ calls ++ [call], other.table.Lawful) :
    let before := (start faults).runAll UnreliableStore.output calls
    let (fault?, pass) := before.call UnreliableStore.output call
    (∀ type ∈ pass.progress.deferred, type ∉ pass.progress.emitted) ∧
    (∀ type ∈ before.progress.emitted, type ∈ pass.progress.emitted) ∧
    (∀ first ∈ pass.progress.emitted, ∀ second ∈ pass.progress.emitted,
      first.generated = second.generated → first = second) ∧
    (∀ name, name ∈ pass.store.memory.files ↔
      ∃ type ∈ pass.progress.emitted, type.generated = name) ∧
    (∀ name, name ∈ pass.store.memory.classes ↔
      ∃ type ∈ pass.progress.emitted, type.generated = name) ∧
    (fault? = none → pass.Accounted before.progress call) := by
  intro before
  have lawfulCall := lawful call (List.mem_append_right _ List.mem_cons_self)
  have keptBefore : before.Kept :=
    (kept_start faults).runAll fun other mem => lawful other (List.mem_append_left _ mem)
  obtain ⟨consistent, paired⟩ := keptBefore.call lawfulCall
  cases ran : before.call UnreliableStore.output call with
  | mk fault? pass =>
      rw [ran] at consistent paired
      obtain ⟨-, grown⟩ :=
        Pass.consistent_run UnreliableStore.keeps lawfulCall keptBefore.consistent ran
      refine ⟨consistent.disjoint, grown, consistent.injective, consistent.held_iff, ?_, ?_⟩
      · exact fun name => (paired name).trans (consistent.held_iff name)
      · rintro rfl
        exact accounted_of_call lawfulCall ran

/-! ## Two classes with one generated name -/

/-- A class `B` inside a class `A`, annotated without delegates. -/
def insideA : TypeDecl :=
  ⟨⟨"foo", "A", ["B"]⟩, .class_, [.static], .unresolved "foo.AutoDelegate_A_B", [], [], [],
    some .empty⟩

/-- An interface `A_B`, annotated although it is no class.  Its generated name is that of `A.B`. -/
def besideA : TypeDecl := ⟨⟨"foo", "A_B", []⟩, .interface, [], .absent, [], [], [], some .empty⟩

/-- A pass over both. -/
def sharedName : Call where
  options := .standard
  table := .ofDecls [Entry.object.decl, insideA, besideA]
  annotated := [insideA.name, besideA.name]

/-- An environment in which the first write fails and all others succeed. -/
def firstWriteFails : Nat → Option Fault
  | 0 => some (.unwritable "foo/AutoDelegate_A_B.java" "disk full")
  | _ + 1 => none

/-- The write of a base class fails, and in the next pass it succeeds. -/
theorem consistent_after_failed_write :
    (∀ other ∈ [sharedName] ++ [sharedName], other.table.Lawful) ∧
    let before := (start firstWriteFails).runAll UnreliableStore.output [sharedName]
    let pass := (before.call UnreliableStore.output sharedName).2
    before.progress.emitted.toList = [] ∧ pass.progress.emitted.toList = [insideA.name] ∧
    (∀ name, name ∈ pass.store.memory.files ↔
      ∃ type ∈ pass.progress.emitted, type.generated = name) ∧
    pass.Accounted before.progress sharedName := by
  have lawful : ∀ other ∈ [sharedName] ++ [sharedName], other.table.Lawful := by
    intro other mem
    obtain rfl : other = sharedName := by simpa using mem
    exact SymbolTable.lawful_ofDecls _
  obtain ⟨-, -, -, files, -, accounted⟩ :=
    consistent_and_accounted firstWriteFails [sharedName] sharedName lawful
  exact ⟨lawful, by decide, by decide, files, accounted (by decide)⟩

/-- A pass that generates one class and rejects the other reports the rejected one as invalid, and
its generated name as generated: the report says nothing wrong, but a name does not occur in it once
for each class. -/
theorem rejected_under_a_generated_name :
    ¬ ∀ (faults : Nat → Option Fault) (calls : List Call) (call : Call),
      (∀ other ∈ calls ++ [call], other.table.Lawful) →
      let before := (start faults).runAll UnreliableStore.output calls
      let (fault?, pass) := before.call UnreliableStore.output call
      fault? = none →
      ∀ type, call.table.isVisible type → type ∉ before.progress.emitted →
        (type ∈ before.progress.deferred ∨ type ∈ call.annotated) →
        pass.report.generated.count type.generated + pass.report.deferred.count type +
          pass.report.invalid.count type = 1 := by
  intro everywhere
  have once := everywhere (fun _ => none) [] sharedName
    (fun other mem => by
      obtain rfl : other = sharedName := by simpa using mem
      exact SymbolTable.lawful_ofDecls _)
    (by decide) besideA.name (by decide) (by decide) (by decide)
  exact absurd once (by decide)

end Session

end Delegation
