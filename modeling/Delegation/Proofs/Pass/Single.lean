import Delegation.Proofs.Pass.Order

/-!
# Passes with one class to generate

Where every class but one has to wait, a pass is about that one class: its base class is written, and
all others are put off.

## Main Statements

* `Pass.exists_run_of_only` — what such a pass does, in memory.
-/

namespace Delegation

open Java

/-- Classes that are put off make no base classes and are not reported about. -/
theorem among_of_defer {table : SymbolTable} {decls : List TypeDecl}
    (deferred : ∀ decl ∈ decls, judge table decl = .defer) :
    generatedAmong table decls = [] ∧ deferredAmong table decls = decls.map (·.name) ∧
      basesAmong table decls = [] ∧ decls.flatMap (diagnosticsOf table) = [] := by
  refine ⟨?_, ?_, ?_, ?_⟩
  · refine List.map_eq_nil_iff.mpr (List.filter_eq_nil_iff.mpr fun decl mem => ?_)
    rw [deferred decl mem]
    exact Bool.false_ne_true
  · rw [deferredAmong, List.filter_eq_self.mpr]
    intro decl mem
    rw [deferred decl mem]
    rfl
  · refine List.filterMap_eq_nil_iff.mpr fun decl mem => ?_
    rw [deferred decl mem]
    rfl
  · refine List.flatMap_eq_nil_iff.mpr fun decl mem => ?_
    rw [diagnosticsOf, deferred decl mem]

/-- A pass that has one class to generate and puts off all others. -/
theorem Pass.exists_run_of_only {table : SymbolTable} (lawful : table.Lawful)
    {progress : Progress} {annotated : List ClassName} (options : Options) {store : MemoryStore}
    {decl : TypeDecl} (candidate : decl ∈ candidates progress annotated table)
    {result : Synthesised} (judged : judge table decl = .generate result)
    (others : ∀ other ∈ candidates progress annotated table, other.name ≠ decl.name →
      judge table other = .defer)
    (fresh : result.base.name ∉ store.files) :
    ∃ pass, run options MemoryStore.output table progress annotated store = (none, pass) ∧
      pass.written = [result.base] ∧ pass.report.generated = [result.base.name] ∧
      pass.store = store.withAll options [result.base] ∧
      (∀ type, type ∈ pass.progress.deferred ↔
        type ∈ (candidates progress annotated table).map (·.name) ∧ type ≠ decl.name) ∧
      (∀ type, type ∈ pass.progress.emitted ↔ type ∈ progress.emitted ∨ type = decl.name) ∧
      Diagnostic.hasErrors pass.diagnostics = false := by
  have nodup := nodup_map_name_candidates lawful progress annotated
  unfold run
  generalize candidates progress annotated table = decls at *
  obtain ⟨before, after, rfl⟩ := List.append_of_mem candidate
  rw [List.map_append, List.map_cons] at nodup
  have apart : ∀ other ∈ before ++ after, other.name ≠ decl.name := by
    intro other mem
    have unlisted := (List.nodup_cons.mp (List.perm_middle.nodup_iff.mp nodup)).1
    rw [← List.map_append] at unlisted
    exact fun same => unlisted (same ▸ List.mem_map_of_mem mem)
  have deferred : ∀ other ∈ before ++ after, judge table other = .defer := by
    intro other mem
    refine others other ?_ (apart other mem)
    exact List.perm_middle.mem_iff.mpr (List.mem_cons_of_mem _ mem)
  obtain ⟨deferredBefore, deferredAfter⟩ := List.forall_mem_append.mp deferred
  obtain ⟨noneBefore, putOffBefore, basesBefore, quietBefore⟩ := among_of_defer deferredBefore
  obtain ⟨noneAfter, putOffAfter, basesAfter, quietAfter⟩ := among_of_defer deferredAfter
  have bases : basesAmong table (before ++ decl :: after) = [result.base] := by
    have split : basesAmong table (before ++ decl :: after) =
        basesAmong table before ++ result.base :: basesAmong table after := by
      simp [basesAmong, judged]
    rw [split, basesBefore, basesAfter]
    rfl
  have generated : generatedAmong table (before ++ decl :: after) = [decl.name] := by
    have split : generatedAmong table (before ++ decl :: after) =
        generatedAmong table before ++ decl.name :: generatedAmong table after := by
      simp [generatedAmong, judged]
    rw [split, noneBefore, noneAfter]
    rfl
  have putOff : deferredAmong table (before ++ decl :: after) = (before ++ after).map (·.name) := by
    have split : deferredAmong table (before ++ decl :: after) =
        deferredAmong table before ++ deferredAmong table after := by
      simp [deferredAmong, judged]
    rw [split, putOffBefore, putOffAfter, List.map_append]
  have sound : ∀ other ∈ before ++ decl :: after, (judge table other).isSound := by
    intro other mem
    rcases List.mem_cons.mp (List.perm_middle.mem_iff.mp mem) with rfl | elsewhere
    · rw [judged]
      rfl
    · rw [deferred other elsewhere]
      rfl
  have written : MemoryStore.output.writeAll options store
      (basesAmong table (before ++ decl :: after)) = (none, store.withAll options [result.base]) := by
    rw [bases]
    refine MemoryStore.writeAll_eq_none_iff.mpr ⟨List.nodup_singleton _, ?_, rfl⟩
    exact List.forall_mem_singleton.mpr fresh
  refine ⟨_, processAll_eq_none_iff.mpr ⟨sound, _, written, rfl⟩, ?_, ?_, rfl, ?_, ?_, ?_⟩
  · show [] ++ basesAmong table _ = _
    rw [bases, List.nil_append]
  · show [] ++ (basesAmong table _).map (·.name) = _
    rw [bases]
    rfl
  · intro type
    have listed : type ∈ (before ++ decl :: after).map (·.name) ↔
        type = decl.name ∨ type ∈ (before ++ after).map (·.name) := by
      rw [(List.perm_middle.map _).mem_iff]
      exact List.mem_cons
    rw [mem_deferred_settled, or_iff_right (notMem_deferred_start progress store type), putOff,
      listed]
    constructor
    · intro mem
      obtain ⟨other, among, rfl⟩ := List.mem_map.mp mem
      exact ⟨.inr mem, apart other among⟩
    · rintro ⟨same | mem, different⟩
      · exact absurd same different
      · exact mem
  · intro type
    rw [mem_emitted_settled, emitted_start, generated, List.mem_singleton]
  · show Diagnostic.hasErrors ([] ++ (before ++ decl :: after).flatMap (diagnosticsOf table)) = false
    rw [List.nil_append, List.flatMap_append, List.flatMap_cons, quietBefore, quietAfter,
      List.nil_append, List.append_nil, diagnosticsOf, judged]
    refine List.any_eq_false.mpr fun diagnostic told => ?_
    obtain ⟨collision, -, rfl⟩ := List.mem_map.mp told
    rw [isError_diagnostic_collision]
    exact Bool.false_ne_true

end Delegation
