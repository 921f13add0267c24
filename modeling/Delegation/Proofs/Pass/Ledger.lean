import Delegation.Output.Memory
import Delegation.Proofs.Keyed
import Delegation.Proofs.Pass.Account
import Delegation.Proofs.Symbol.Table
import Mathlib.Tactic.Tauto

/-!
# What a store keeps of a pass

The classes that a store holds are the base classes of the annotated classes that are done, and
nothing else.  A pass keeps it so whether it ends well or with a fault, as long as the store refuses
what it holds already and a refusal changes nothing.

## Main Definitions

* `Output.Keeps` — an output that refuses duplicates, seen through the names that its store holds.
* `Progress.Consistent` — the progress agrees with what the store holds.

## Main Statements

* `Pass.mem_map_name_candidates_iff` — which classes a pass looks at.
* `Pass.consistent_run` — a pass keeps progress and store consistent.
-/

namespace Delegation

open Java

/-! ## Outputs that refuse duplicates -/

/-- What `holds` says about a store grows by the name that is written, which must be new, and a
refusal changes nothing. -/
structure Output.Keeps {σ : Type} (output : Output σ) (holds : σ → ClassName → Prop) : Prop where
  /-- A class that is written was not held before; it is afterwards, and nothing else changes. -/
  written : ∀ {store store' base file}, output.write store base file = (.ok (), store') →
    ¬ holds store file.name ∧ ∀ name, holds store' name ↔ name = file.name ∨ holds store name
  /-- A class that is refused leaves no trace. -/
  refused : ∀ {store store' base file fault},
    output.write store base file = (.error fault, store') →
      ∀ name, holds store' name ↔ holds store name

/-- The store in memory holds the names of its sources. -/
theorem MemoryStore.keeps : MemoryStore.output.Keeps fun store name => name ∈ store.files where
  written := by
    intro store store' base file ok
    simp only [MemoryStore.output, MemoryStore.write] at ok
    split at ok
    · cases ok
    · rename_i fresh
      cases ok
      refine ⟨by simpa using fresh, fun name => ?_⟩
      rw [Std.TreeMap.mem_insert, Std.LawfulEqCmp.compare_eq_iff_eq, eq_comm]
  refused := by
    intro store store' base file fault refused
    simp only [MemoryStore.output, MemoryStore.write] at refused
    split at refused
    · cases refused
      exact fun _ => Iff.rfl
    · cases refused

/-- Whether a store has exactly the classes whose sources it has. -/
def MemoryStore.Paired (store : MemoryStore) : Prop :=
  ∀ name, name ∈ store.classes ↔ name ∈ store.files

theorem MemoryStore.paired_empty : MemoryStore.empty.Paired := fun _ =>
  iff_of_false Std.TreeMap.not_mem_emptyc Std.TreeMap.not_mem_emptyc

/-- Writing a class with its own source keeps classes and sources together. -/
theorem MemoryStore.Paired.write {store : MemoryStore} (paired : store.Paired) (base : BaseClass)
    (options : Options) : (store.write base (render base options)).2.Paired := by
  unfold MemoryStore.write
  split
  · exact paired
  · intro name
    simp only [Std.TreeMap.mem_insert, paired name]
    rfl

/-- Several classes that are written have different names, which were all new. -/
theorem Output.Keeps.writeAll {σ : Type} {output : Output σ} {holds : σ → ClassName → Prop}
    (keeps : output.Keeps holds) {options : Options} {store store' : σ} {bases : List BaseClass}
    (written : output.writeAll options store bases = (none, store')) :
    (bases.map (·.name)).Nodup ∧ (∀ base ∈ bases, ¬ holds store base.name) ∧
      ∀ name, holds store' name ↔ name ∈ bases.map (·.name) ∨ holds store name := by
  induction bases generalizing store with
  | nil =>
      cases written
      simp
  | cons base rest ih =>
      rw [Output.writeAll] at written
      split at written
      · rename_i mid first
        obtain ⟨fresh, grown⟩ := keeps.written first
        obtain ⟨nodup, restFresh, restGrown⟩ := ih written
        have named : (render base options).name = base.name := rfl
        rw [named] at fresh grown
        have notLater : base.name ∉ rest.map (·.name) := by
          intro later
          obtain ⟨other, mem, same⟩ := List.mem_map.mp later
          exact restFresh other mem ((grown _).mpr (.inl same))
        refine ⟨by simpa using ⟨by simpa using notLater, nodup⟩, ?_, fun name => ?_⟩
        · intro other mem
          rcases List.mem_cons.mp mem with rfl | mem
          · exact fresh
          · exact fun held => restFresh other mem ((grown _).mpr (.inr held))
        · rw [restGrown, grown, List.map_cons, List.mem_cons]
          tauto
      · cases written

/-! ## The classes that a pass looks at -/

namespace Pass

variable {σ : Type} {options : Options} {output : Output σ} {table : SymbolTable}
variable {holds : σ → ClassName → Prop}

/-- A pass looks at every class that is put off or newly annotated, as far as it is visible and not
yet done. -/
theorem mem_map_name_candidates_iff (lawful : table.Lawful) {progress : Progress}
    {annotated : List ClassName} {type : ClassName} :
    type ∈ (candidates progress annotated table).map (·.name) ↔
      table.isVisible type ∧ type ∉ progress.emitted ∧
        (type ∈ progress.deferred ∨ type ∈ annotated) := by
  rw [candidates, lawful.map_name_filterMap_lookup, List.mem_filter, List.mem_eraseDups,
    List.mem_filter, List.mem_append, Std.TreeSet.mem_toList]
  simp only [Bool.not_eq_true', Std.TreeSet.mem_iff_contains, Bool.not_eq_true]
  tauto

/-- A candidate is what its name denotes. -/
theorem lookup_of_mem_candidates (lawful : table.Lawful) {progress : Progress}
    {annotated : List ClassName} {decl : TypeDecl}
    (mem : decl ∈ candidates progress annotated table) : table.lookup decl.name = some decl := by
  obtain ⟨name, -, found⟩ := List.mem_filterMap.mp mem
  rwa [lawful name decl found]

/-- A pass looks at no class twice. -/
theorem nodup_map_name_candidates (lawful : table.Lawful) (progress : Progress)
    (annotated : List ClassName) :
    ((candidates progress annotated table).map (·.name)).Nodup := by
  rw [candidates, lawful.map_name_filterMap_lookup]
  exact (nodup_eraseDups _).filter _

/-! ## Consistency -/

end Pass

/-- The progress agrees with what the store holds: no class is both put off and done, and the store
holds the base class of every class that is done, a different one for each, and nothing else. -/
structure Progress.Consistent (progress : Progress) (held : ClassName → Prop) : Prop where
  disjoint : ∀ type ∈ progress.deferred, type ∉ progress.emitted
  injective : ∀ first ∈ progress.emitted, ∀ second ∈ progress.emitted,
    first.generated = second.generated → first = second
  held_iff : ∀ name, held name ↔ ∃ type ∈ progress.emitted, type.generated = name

namespace Pass

variable {σ : Type} {options : Options} {output : Output σ} {table : SymbolTable}
variable {holds : σ → ClassName → Prop}

@[simp] theorem mem_deferred_settled {pass : Pass σ} {decls : List TypeDecl} {store : σ}
    {type : ClassName} :
    type ∈ (pass.settled table decls store).progress.deferred ↔
      type ∈ pass.progress.deferred ∨ type ∈ deferredAmong table decls := by
  simp [settled]

@[simp] theorem mem_emitted_settled {pass : Pass σ} {decls : List TypeDecl} {store : σ}
    {type : ClassName} :
    type ∈ (pass.settled table decls store).progress.emitted ↔
      type ∈ pass.progress.emitted ∨ type ∈ generatedAmong table decls := by
  simp [settled]

@[simp] theorem notMem_deferred_start (progress : Progress) (store : σ) (type : ClassName) :
    type ∉ (start progress store).progress.deferred := Std.TreeSet.not_mem_emptyc

@[simp] theorem emitted_start (progress : Progress) (store : σ) :
    (start progress store).progress.emitted = progress.emitted := rfl

/-- The progress stays consistent when classes that were not done are carried out without a
fault. -/
theorem consistent_settled (keeps : output.Keeps holds) {progress : Progress} {store store' : σ}
    {decls : List TypeDecl} (consistent : progress.Consistent (holds store))
    (nodup : (decls.map (·.name)).Nodup) (fresh : ∀ decl ∈ decls, decl.name ∉ progress.emitted)
    (sound : ∀ decl ∈ decls, (judge table decl).isSound)
    (written : output.writeAll options store (basesAmong table decls) = (none, store')) :
    ((start progress store).settled table decls store').progress.Consistent (holds store') := by
  obtain ⟨different, new, grown⟩ := keeps.writeAll written
  rw [map_name_basesAmong] at different grown
  have parts := (perm_among table sound).nodup_iff.mpr nodup
  have newNames : ∀ type ∈ generatedAmong table decls, ¬ holds store type.generated := by
    intro type mem held
    have mem := List.mem_map_of_mem (f := (·.generated)) mem
    rw [← map_name_basesAmong] at mem
    obtain ⟨base, mem, same⟩ := List.mem_map.mp mem
    exact new base mem (same ▸ held)
  constructor
  · intro type deferred emitted
    simp only [mem_deferred_settled, notMem_deferred_start, false_or] at deferred
    simp only [mem_emitted_settled, emitted_start] at emitted
    rcases emitted with before | now
    · obtain ⟨decl, mem, rfl⟩ := List.mem_map.mp deferred
      exact fresh decl (List.mem_of_mem_filter mem) before
    · exact (List.nodup_append.mp parts).2.2 type now type (List.mem_append_left _ deferred) rfl
  · intro first firstMem second secondMem same
    simp only [mem_emitted_settled, emitted_start] at firstMem secondMem
    -- An old and a new base class differ because the store would have refused the new one.
    rcases firstMem with firstBefore | firstNow <;> rcases secondMem with secondBefore | secondNow
    · exact consistent.injective first firstBefore second secondBefore same
    · exact absurd ((consistent.held_iff _).mpr ⟨first, firstBefore, same⟩)
        (newNames second secondNow)
    · exact absurd ((consistent.held_iff _).mpr ⟨second, secondBefore, same.symm⟩)
        (newNames first firstNow)
    · exact List.inj_on_of_nodup_map different firstNow secondNow same
  · intro name
    simp only [grown, consistent.held_iff, mem_emitted_settled, emitted_start, List.mem_map]
    constructor
    · rintro (⟨type, mem, same⟩ | ⟨type, mem, same⟩)
      · exact ⟨type, .inr mem, same⟩
      · exact ⟨type, .inl mem, same⟩
    · rintro ⟨type, mem | mem, same⟩
      · exact .inr ⟨type, mem, same⟩
      · exact .inl ⟨type, mem, same⟩

/-- A class at which a pass stops leaves the progress and what the store holds as they were. -/
theorem kept_of_process_eq_some (keeps : output.Keeps holds) {pass pass' : Pass σ}
    {decl : TypeDecl} {fault : Fault}
    (faulty : pass.process options output table decl = (some fault, pass')) :
    pass'.progress = pass.progress ∧ ∀ name, holds pass'.store name ↔ holds pass.store name := by
  unfold process at faulty
  split at faulty
  · cases faulty
  · cases faulty
  · cases faulty
    exact ⟨rfl, fun _ => Iff.rfl⟩
  · simp only [generate] at faulty
    split at faulty
    · cases faulty
    · rename_i found store refused
      cases faulty
      exact ⟨rfl, keeps.refused refused⟩

/-- However a pass ends, it carries out some of its classes, the first ones, without a fault; if it
ends well, these are all.  Progress and store are as these classes leave them. -/
theorem exists_settled_of_processAll (keeps : output.Keeps holds) {pass pass' : Pass σ}
    {decls : List TypeDecl} {fault? : Option Fault}
    (ran : pass.processAll options output table decls = (fault?, pass')) :
    ∃ done store, done <+: decls ∧
      (fault? = none → done = decls ∧ pass' = pass.settled table decls store) ∧
      (∀ decl ∈ done, (judge table decl).isSound) ∧
      output.writeAll options pass.store (basesAmong table done) = (none, store) ∧
      pass'.progress = (pass.settled table done store).progress ∧
      ∀ name, holds pass'.store name ↔ holds store name := by
  cases fault? with
  | none =>
      obtain ⟨sound, store, written, rfl⟩ := processAll_eq_none_iff.mp ran
      exact ⟨decls, store, List.prefix_rfl, fun _ => ⟨rfl, rfl⟩, sound, written, rfl,
        fun _ => Iff.rfl⟩
  | some fault =>
      obtain ⟨done, decl, rest, mid, rfl, before, atDecl⟩ := exists_of_processAll_eq_some ran
      obtain ⟨sound, store, written, rfl⟩ := processAll_eq_none_iff.mp before
      obtain ⟨progress, held⟩ := kept_of_process_eq_some keeps atDecl
      exact ⟨done, store, List.prefix_append .., nofun, sound, written, progress, held⟩

/-- A pass keeps progress and store consistent, and what is done stays done. -/
theorem consistent_run (keeps : output.Keeps holds) (lawful : table.Lawful) {progress : Progress}
    {annotated : List ClassName} {store : σ} {fault? : Option Fault} {pass : Pass σ}
    (consistent : progress.Consistent (holds store))
    (ran : run options output table progress annotated store = (fault?, pass)) :
    pass.progress.Consistent (holds pass.store) ∧
      ∀ type ∈ progress.emitted, type ∈ pass.progress.emitted := by
  obtain ⟨done, store', first, -, sound, written, same, held⟩ :=
    exists_settled_of_processAll keeps ran
  have nodup := (nodup_map_name_candidates lawful progress annotated).sublist
    (first.sublist.map _)
  have fresh : ∀ decl ∈ done, decl.name ∉ progress.emitted := by
    intro decl mem
    have mem := List.mem_map_of_mem (f := (·.name)) (first.subset mem)
    exact ((mem_map_name_candidates_iff lawful).mp mem).2.1
  have settled := consistent_settled keeps consistent nodup fresh sound written
  -- A fault leaves the progress as `done` left it, and the store as far as its names go.
  rw [same]
  refine ⟨⟨settled.disjoint, settled.injective, fun name => ?_⟩, fun type mem => ?_⟩
  · rw [held, settled.held_iff]
  · exact mem_emitted_settled.mpr (.inl mem)

/-- What every write keeps of a store, whether it succeeds or not, a pass keeps. -/
theorem preserves_run (invariant : σ → Prop)
    (kept : ∀ store base, invariant store →
      invariant (output.write store base (render base options)).2)
    {progress : Progress} {annotated : List ClassName} {store : σ} (before : invariant store) :
    invariant (run options output table progress annotated store).2.store := by
  have step : ∀ (pass : Pass σ) decl, invariant pass.store →
      invariant (pass.process options output table decl).2.store := by
    intro pass decl held
    unfold process
    split
    · exact held
    · exact held
    · exact held
    · rename_i result judged
      have next := kept pass.store result.base held
      simp only [generate]
      split
      · rename_i store written
        rwa [show output.write pass.store result.base _ = _ from written] at next
      · rename_i fault store written
        rwa [show output.write pass.store result.base _ = _ from written] at next
  have all : ∀ decls (pass : Pass σ), invariant pass.store →
      invariant (pass.processAll options output table decls).2.store := by
    intro decls
    induction decls with
    | nil => exact fun _ held => held
    | cons decl rest ih =>
        intro pass held
        have next := step pass decl held
        rw [processAll]
        split
        · rename_i mid processed
          rw [processed] at next
          exact ih mid next
        · rename_i fault mid processed
          rw [processed] at next
          exact next
  exact all _ _ before

end Pass

end Delegation
