import Delegation.Proofs.Judgement

/-!
# The account of a pass

A pass carries out judgements one after the other, but the judgements themselves depend on the
symbols alone.  So a pass without a fault can be described at once: which of its classes are
generated, put off and rejected is read off the judgements, and only the store has to be followed
from write to write.  A pass with a fault is such a pass over the classes before the faulty one.

## Main Definitions

* `generatedAmong`, `deferredAmong`, `rejectedAmong` — the classes with one kind of judgement.
* `basesAmong` — the base classes that are written.
* `Output.writeAll` — what becomes of the store.
* `Pass.settled` — the state after classes that were carried out without a fault.

## Main Statements

* `Pass.processAll_eq_none_iff` — when classes are carried out without a fault, and what follows.
* `Pass.exists_of_processAll_eq_some` — where a fault arises.
-/

namespace Delegation

open Java

/-! ## Classes by their judgement -/

section Among

variable (table : SymbolTable)

/-- The classes that are generated. -/
def generatedAmong (decls : List TypeDecl) : List ClassName :=
  (decls.filter fun decl => (judge table decl).result?.isSome).map (·.name)

/-- The classes that are put off. -/
def deferredAmong (decls : List TypeDecl) : List ClassName :=
  (decls.filter fun decl => (judge table decl).isDefer).map (·.name)

/-- The classes that are rejected. -/
def rejectedAmong (decls : List TypeDecl) : List ClassName :=
  (decls.filter fun decl => (judge table decl).isReject).map (·.name)

/-- The base classes of the classes that are generated. -/
def basesAmong (decls : List TypeDecl) : List BaseClass :=
  decls.filterMap fun decl => (judge table decl).result?.map (·.base)

theorem basesAmong_append (first second : List TypeDecl) :
    basesAmong table (first ++ second) = basesAmong table first ++ basesAmong table second := by
  simp [basesAmong]

/-- The base classes have the names that belong to the classes they are generated for. -/
theorem map_name_basesAmong (decls : List TypeDecl) :
    (basesAmong table decls).map (·.name) = (generatedAmong table decls).map (·.generated) := by
  induction decls with
  | nil => rfl
  | cons decl rest ih =>
      cases judged : judge table decl with
      | generate result =>
          have named := name_base_of_judge judged
          simpa [basesAmong, generatedAmong, judged, named] using ih
      | _ => simpa [basesAmong, generatedAmong, judged] using ih

/-- Every class whose judgement can be carried out is generated, put off or rejected, and only one
of these. -/
theorem perm_among {decls : List TypeDecl} (sound : ∀ decl ∈ decls, (judge table decl).isSound) :
    (generatedAmong table decls ++ (deferredAmong table decls ++ rejectedAmong table decls)).Perm
      (decls.map (·.name)) := by
  induction decls with
  | nil => exact .nil
  | cons decl rest ih =>
      have ih := ih fun other mem => sound other (List.mem_cons_of_mem _ mem)
      have head := sound decl List.mem_cons_self
      cases judged : judge table decl with
      | generate result =>
          simpa [generatedAmong, deferredAmong, rejectedAmong, judged] using ih
      | defer =>
          have moved := List.perm_middle.trans (ih.cons decl.name)
          simpa [generatedAmong, deferredAmong, rejectedAmong, judged] using moved
      | reject problems =>
          rw [← List.append_assoc] at ih
          have moved := List.perm_middle.trans (ih.cons decl.name)
          simpa [generatedAmong, deferredAmong, rejectedAmong, judged] using moved
      | fail contradiction => simp [judged] at head

end Among

/-! ## Writing -/

/-- Write classes in order, up to the first that cannot be written. -/
def Output.writeAll {σ : Type} (output : Output σ) (options : Options) (store : σ) :
    List BaseClass → Option Fault × σ
  | [] => (none, store)
  | base :: rest =>
    match output.write store base (render base options) with
    | (.ok (), store) => output.writeAll options store rest
    | (.error fault, store) => (some fault, store)

/-- Writing classes in two goes is writing them in one. -/
theorem Output.writeAll_append_eq_none_iff {σ : Type} {output : Output σ} {options : Options}
    {store store' : σ} {first second : List BaseClass} :
    output.writeAll options store (first ++ second) = (none, store') ↔
      ∃ mid, output.writeAll options store first = (none, mid) ∧
        output.writeAll options mid second = (none, store') := by
  induction first generalizing store with
  | nil => simp [writeAll]
  | cons base rest ih =>
      simp only [List.cons_append, writeAll]
      split
      · exact ih
      · simp

namespace Pass

variable {σ : Type} {options : Options} {output : Output σ} {table : SymbolTable}

/-- The state after some classes that were carried out without a fault, given what has become of the
store. -/
def settled (pass : Pass σ) (table : SymbolTable) (decls : List TypeDecl) (store : σ) : Pass σ where
  progress :=
    { deferred := pass.progress.deferred.insertMany (deferredAmong table decls)
      emitted := pass.progress.emitted.insertMany (generatedAmong table decls) }
  store := store
  report :=
    { generated := pass.report.generated ++ (basesAmong table decls).map (·.name)
      deferred := pass.report.deferred ++ deferredAmong table decls
      invalid := pass.report.invalid ++ rejectedAmong table decls }
  diagnostics := pass.diagnostics ++ decls.flatMap (diagnosticsOf table)
  written := pass.written ++ basesAmong table decls
  log := pass.log ++ decls.flatMap (eventsOf table)

theorem settled_nil (pass : Pass σ) : pass.settled table [] pass.store = pass := by
  simp [settled, deferredAmong, generatedAmong, rejectedAmong, basesAmong]

theorem settled_append (pass : Pass σ) (first second : List TypeDecl) (store store' : σ) :
    pass.settled table (first ++ second) store' =
      (pass.settled table first store).settled table second store' := by
  simp [settled, deferredAmong, generatedAmong, rejectedAmong, basesAmong,
    Std.TreeSet.insertMany_append]

theorem settled_cons (pass : Pass σ) (decl : TypeDecl) (rest : List TypeDecl) (store store' : σ) :
    pass.settled table (decl :: rest) store' =
      (pass.settled table [decl] store).settled table rest store' :=
  settled_append pass [decl] rest store store'

/-- One class is carried out without a fault when its judgement can be and its base class, if there
is one, is written. -/
theorem process_eq_none_iff {pass pass' : Pass σ} {decl : TypeDecl} :
    pass.process options output table decl = (none, pass') ↔
      (judge table decl).isSound ∧ ∃ store,
        output.writeAll options pass.store (basesAmong table [decl]) = (none, store) ∧
        pass' = pass.settled table [decl] store := by
  cases judged : judge table decl with
  | reject problems =>
      simp [process, judged, basesAmong, Output.writeAll, settled, reject, tell, generatedAmong,
        deferredAmong, rejectedAmong, diagnosticsOf, eventsOf, eq_comm]
  | defer =>
      simp [process, judged, basesAmong, Output.writeAll, settled, defer, generatedAmong,
        deferredAmong, rejectedAmong, diagnosticsOf, eventsOf, eq_comm]
  | fail contradiction => simp [process, judged, abort]
  | generate result =>
      cases written : output.write pass.store result.base (render result.base options) with
      | mk outcome store =>
          cases outcome with
          | error fault =>
              simp [process, judged, generate, tell, note, written, abort, basesAmong, Output.writeAll]
          | ok _ =>
              simp [process, judged, generate, tell, note, written, record, basesAmong,
                Output.writeAll, settled, generatedAmong, deferredAmong, rejectedAmong, diagnosticsOf, eventsOf, eq_comm]

/-- Classes are carried out without a fault when all judgements can be and all base classes are
written; the state is then settled by these classes. -/
theorem processAll_eq_none_iff {pass pass' : Pass σ} {decls : List TypeDecl} :
    pass.processAll options output table decls = (none, pass') ↔
      (∀ decl ∈ decls, (judge table decl).isSound) ∧ ∃ store,
        output.writeAll options pass.store (basesAmong table decls) = (none, store) ∧
        pass' = pass.settled table decls store := by
  induction decls generalizing pass with
  | nil =>
      constructor
      · intro same
        cases same
        exact ⟨by simp, _, rfl, (settled_nil _).symm⟩
      · rintro ⟨-, store, written, rfl⟩
        cases written
        rw [settled_nil, processAll]
  | cons decl rest ih =>
      have step : pass.processAll options output table (decl :: rest) = (none, pass') ↔
          ∃ mid, pass.process options output table decl = (none, mid) ∧
            mid.processAll options output table rest = (none, pass') := by
        rw [processAll]
        split
        · rename_i mid processed
          simp [processed]
        · rename_i fault mid processed
          simp [processed]
      have split := basesAmong_append table [decl] rest
      rw [List.singleton_append] at split
      simp only [step, process_eq_none_iff, ih, List.forall_mem_cons, split,
        Output.writeAll_append_eq_none_iff]
      constructor
      · rintro ⟨_, ⟨head, mid, written, rfl⟩, tail, store, more, rfl⟩
        exact ⟨⟨head, tail⟩, store, ⟨mid, written, more⟩,
          (settled_cons pass decl rest mid store).symm⟩
      · rintro ⟨⟨head, tail⟩, store, ⟨mid, written, more⟩, rfl⟩
        exact ⟨_, ⟨head, mid, written, rfl⟩, tail, store, more,
          settled_cons pass decl rest mid store⟩

/-- What a pass that ends well reports is a matter of the classes themselves. -/
theorem code_of_run {progress : Progress} {annotated : List ClassName} {store : σ} {pass : Pass σ}
    (ran : run options output table progress annotated store = (none, pass))
    {diagnostic : Diagnostic} (told : diagnostic ∈ pass.diagnostics) :
    diagnostic.code ≠ .undefined ∧ diagnostic.code ≠ .internalException := by
  obtain ⟨-, store', -, rfl⟩ := processAll_eq_none_iff.mp ran
  have told : diagnostic ∈ (candidates progress annotated table).flatMap (diagnosticsOf table) :=
    told
  obtain ⟨decl, -, told⟩ := List.mem_flatMap.mp told
  exact code_of_mem_diagnosticsOf told

/-- A fault arises at one class, after the classes before it were carried out without one. -/
theorem exists_of_processAll_eq_some {pass pass' : Pass σ} {decls : List TypeDecl} {fault : Fault}
    (faulty : pass.processAll options output table decls = (some fault, pass')) :
    ∃ done decl rest mid, decls = done ++ decl :: rest ∧
      pass.processAll options output table done = (none, mid) ∧
      mid.process options output table decl = (some fault, pass') := by
  induction decls generalizing pass with
  | nil => cases faulty
  | cons head tail ih =>
      rw [processAll] at faulty
      split at faulty
      · rename_i mid processed
        obtain ⟨done, decl, rest, last, rfl, before, atDecl⟩ := ih faulty
        exact ⟨head :: done, decl, rest, last, rfl, by rw [processAll, processed]; exact before,
          atDecl⟩
      · rename_i found mid processed
        cases faulty
        exact ⟨[], head, tail, pass, rfl, rfl, processed⟩

end Pass

end Delegation
