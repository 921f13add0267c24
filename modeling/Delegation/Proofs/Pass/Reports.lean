import Delegation.Proofs.Pass.Ledger

/-!
# What a pass reports about a class

A pass reports about each class that it carries out what the judgement on the class says.  A fault is
reported too, but about the class at which the pass stops, which it does not carry out.  So the
report about a class that is generated does not depend on how the pass ends.

## Main Statements

* `Pass.exists_reported_of_processAll` — the reports about all classes that a pass carries out.
* `Pass.about_of_run` — the report about a class, if the pass ends well.
* `Pass.about_of_emitted` — the report about a class that is generated.
-/

namespace Delegation

open Java

namespace Pass

variable {σ : Type} {options : Options} {output : Output σ} {table : SymbolTable}

/-- A class at which a pass stops leaves the progress as it was, and the pass reports something about
that class only. -/
theorem exists_told_of_process_eq_some {pass pass' : Pass σ} {decl : TypeDecl} {fault : Fault}
    (faulty : pass.process options output table decl = (some fault, pass')) :
    pass'.progress = pass.progress ∧ ∃ told, pass'.diagnostics = pass.diagnostics ++ told ∧
      ∀ diagnostic ∈ told, diagnostic.location.typeName = decl.name := by
  unfold process at faulty
  split at faulty
  · cases faulty
  · cases faulty
  · cases faulty
    refine ⟨rfl, _, rfl, fun diagnostic mem => ?_⟩
    rw [List.mem_singleton.mp mem]
    rfl
  · rename_i result _
    simp only [generate] at faulty
    split at faulty
    · cases faulty
    · cases faulty
      refine ⟨rfl, result.collisions.map (Collision.diagnostic decl.name) ++
        [Fault.diagnostic decl.name fault], List.append_assoc .., fun diagnostic mem => ?_⟩
      rcases List.mem_append.mp mem with warning | error
      · obtain ⟨collision, -, rfl⟩ := List.mem_map.mp warning
        rfl
      · rw [List.mem_singleton.mp error]
        rfl

/-- However a pass ends, it reports about the classes that it carries out what their judgements say,
and beyond that something about other classes only. -/
theorem exists_reported_of_processAll {pass pass' : Pass σ} {decls : List TypeDecl}
    {fault? : Option Fault} (distinct : (decls.map (·.name)).Nodup)
    (ran : pass.processAll options output table decls = (fault?, pass')) :
    ∃ done told, done <+: decls ∧
      (∀ type, type ∈ pass'.progress.emitted ↔
        type ∈ pass.progress.emitted ∨ type ∈ generatedAmong table done) ∧
      pass'.diagnostics = pass.diagnostics ++ done.flatMap (diagnosticsOf table) ++ told ∧
      ∀ diagnostic ∈ told, diagnostic.location.typeName ∉ done.map (·.name) := by
  cases fault? with
  | none =>
      obtain ⟨-, store, -, rfl⟩ := processAll_eq_none_iff.mp ran
      exact ⟨decls, [], List.prefix_rfl, fun _ => mem_emitted_settled, (List.append_nil _).symm,
        nofun⟩
  | some fault =>
      obtain ⟨done, decl, rest, mid, rfl, before, atDecl⟩ := exists_of_processAll_eq_some ran
      obtain ⟨-, store, -, rfl⟩ := processAll_eq_none_iff.mp before
      obtain ⟨progress, told, reported, own⟩ := exists_told_of_process_eq_some atDecl
      refine ⟨done, told, List.prefix_append .., fun _ => ?_, reported, fun diagnostic mem => ?_⟩
      · rw [progress, mem_emitted_settled]
      · rw [own diagnostic mem]
        intro listed
        rw [List.map_append, List.nodup_append] at distinct
        exact distinct.2.2 _ listed _ List.mem_cons_self rfl

/-- What a pass that ends well reports about a class is a matter of its judgement. -/
theorem about_of_run (lawful : table.Lawful) {progress : Progress} {annotated : List ClassName}
    {store : σ} {pass : Pass σ}
    (ran : run options output table progress annotated store = (none, pass)) {decl : TypeDecl}
    (mem : decl ∈ candidates progress annotated table) :
    Diagnostic.about pass.diagnostics decl.name = diagnosticsOf table decl := by
  obtain ⟨-, store', -, rfl⟩ := processAll_eq_none_iff.mp ran
  change Diagnostic.about ([] ++ _) decl.name = _
  rw [List.nil_append]
  exact filter_flatMap_eq (nodup_map_name_candidates lawful progress annotated)
    (fun _ _ _ => typeName_of_mem_diagnosticsOf) mem

/-- **What a pass reports about a class that it adds to those done**: the collisions in its base
class, however the pass ends. -/
theorem about_of_emitted (lawful : table.Lawful) {progress : Progress} {annotated : List ClassName}
    {store : σ} {fault? : Option Fault} {pass : Pass σ}
    (ran : run options output table progress annotated store = (fault?, pass)) {type : ClassName}
    (new : type ∉ progress.emitted) (done : type ∈ pass.progress.emitted) :
    ∃ decl result, table.lookup type = some decl ∧ judge table decl = .generate result ∧
      Diagnostic.about pass.diagnostics type =
        result.collisions.map (Collision.diagnostic type) := by
  have distinct := nodup_map_name_candidates lawful progress annotated
  obtain ⟨carried, told, first, emitted_iff, reported, others⟩ :=
    exists_reported_of_processAll distinct ran
  have generated : type ∈ generatedAmong table carried :=
    ((emitted_iff type).mp done).resolve_left new
  obtain ⟨decl, mem, rfl⟩ := List.mem_map.mp generated
  obtain ⟨mem, judged⟩ := List.mem_filter.mp mem
  have found := lookup_of_mem_candidates lawful (first.subset mem)
  have own : Diagnostic.about (carried.flatMap (diagnosticsOf table)) decl.name =
      diagnosticsOf table decl :=
    filter_flatMap_eq (distinct.sublist (first.sublist.map _))
      (fun _ _ _ => typeName_of_mem_diagnosticsOf) mem
  have silent : Diagnostic.about told decl.name = [] := by
    refine List.filter_eq_nil_iff.mpr fun diagnostic toldOf => ?_
    rw [decide_eq_true_eq]
    exact fun same => others diagnostic toldOf (same ▸ List.mem_map_of_mem mem)
  cases outcome : judge table decl with
  | generate result =>
      refine ⟨decl, result, found, outcome, ?_⟩
      rw [reported, Diagnostic.about_append, Diagnostic.about_append, own, silent, List.append_nil,
        diagnosticsOf, outcome]
      rfl
  | _ => simp [outcome] at judged

end Pass

end Delegation
