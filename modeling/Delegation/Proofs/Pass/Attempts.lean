import Delegation.Proofs.Pass.Account

/-!
# What a pass tries to write

A pass hands one base class after the other to its output and looks at nothing but the answers.  So
two outputs that give the same answers to these classes take a pass the same way, whatever their
stores are, and what becomes of the store depends on these classes alone.

## Main Definitions

* `Output.answers`, `Output.after` — what an output answers to some classes, and its store after
  them.
* `Pass.attempts` — the base classes that a pass tries to write.
* `Pass.withStore` — the same pass with another store.

## Main Statements

* `Pass.processAll_withStore` — with the same answers, another output takes the pass the same way.
* `Pass.fault_of_answer` — an answer that is a fault ends the pass.
-/

namespace Delegation

open Java

/-! ## Answers -/

namespace Output

variable {σ τ : Type} {options : Options} {output : Output σ} {other : Output τ}
variable {store : σ} {store' : τ}

/-- What an output answers to some classes, which are handed to it in order with their own sources
and whatever it answers. -/
def answers (output : Output σ) (options : Options) (store : σ) :
    List BaseClass → List (Except Fault Unit)
  | [] => []
  | base :: rest =>
    (output.write store base (render base options)).1 ::
      output.answers options (output.write store base (render base options)).2 rest

/-- The store of an output after some classes. -/
def after (output : Output σ) (options : Options) (store : σ) : List BaseClass → σ
  | [] => store
  | base :: rest => output.after options (output.write store base (render base options)).2 rest

theorem answers_append (output : Output σ) (options : Options) (store : σ)
    (first second : List BaseClass) :
    output.answers options store (first ++ second) =
      output.answers options store first ++
        output.answers options (output.after options store first) second := by
  induction first generalizing store with
  | nil => rfl
  | cons base rest ih => exact congrArg (List.cons _) (ih _)

theorem after_append (output : Output σ) (options : Options) (store : σ)
    (first second : List BaseClass) :
    output.after options store (first ++ second) =
      output.after options (output.after options store first) second := by
  induction first generalizing store with
  | nil => rfl
  | cons base rest ih => exact ih _

theorem length_answers (output : Output σ) (options : Options) (store : σ)
    (bases : List BaseClass) : (output.answers options store bases).length = bases.length := by
  induction bases generalizing store with
  | nil => rfl
  | cons base rest ih => exact congrArg Nat.succ (ih _)

/-- Answers that are the same in all are the same to the first classes and to the others. -/
theorem answers_append_inj {first second : List BaseClass}
    (same : other.answers options store' (first ++ second) =
      output.answers options store (first ++ second)) :
    other.answers options store' first = output.answers options store first ∧
      other.answers options (other.after options store' first) second =
        output.answers options (output.after options store first) second := by
  rw [answers_append, answers_append] at same
  exact List.append_inj same (by rw [length_answers, length_answers])

end Output

/-! ## Passes -/

namespace Pass

variable {σ τ : Type} {options : Options} {output : Output σ} {other : Output τ}
variable {table : SymbolTable} {pass : Pass σ} {store : τ}

/-- The same pass with another store. -/
def withStore (pass : Pass σ) (store : τ) : Pass τ :=
  ⟨pass.progress, store, pass.report, pass.diagnostics, pass.written, pass.log⟩

/-- The base classes that a pass tries to write for some classes, up to the one that it stops at. -/
def attempts (options : Options) (output : Output σ) (table : SymbolTable) (pass : Pass σ) :
    List TypeDecl → List BaseClass
  | [] => []
  | decl :: rest =>
    basesAmong table [decl] ++
      match pass.process options output table decl with
      | (none, next) => next.attempts options output table rest
      | (some _, _) => []

/-- These are base classes of the classes. -/
theorem mem_basesAmong_of_mem_attempts {decls : List TypeDecl} {base : BaseClass}
    (mem : base ∈ pass.attempts options output table decls) : base ∈ basesAmong table decls := by
  induction decls generalizing pass with
  | nil => cases mem
  | cons decl rest ih =>
      have split := basesAmong_append table [decl] rest
      rw [List.singleton_append] at split
      rw [split, List.mem_append]
      rw [attempts, List.mem_append] at mem
      refine mem.imp_right fun later => ?_
      split at later
      · exact ih later
      · cases later

/-- With the same answer, another output treats a class the same way. -/
theorem process_withStore {decl : TypeDecl}
    (same : other.answers options store (basesAmong table [decl]) =
      output.answers options pass.store (basesAmong table [decl])) :
    (pass.withStore store).process options other table decl =
      ((pass.process options output table decl).1,
        (pass.process options output table decl).2.withStore
          (other.after options store (basesAmong table [decl]))) := by
  cases judged : judge table decl with
  | reject problems => simp [process, judged, basesAmong, Output.after, reject, tell, withStore]
  | defer => simp [process, judged, basesAmong, Output.after, defer, withStore]
  | fail contradiction =>
      simp [process, judged, basesAmong, Output.after, abort, tell, note, withStore]
  | generate result =>
      have bases : basesAmong table [decl] = [result.base] := by simp [basesAmong, judged]
      rw [bases] at same ⊢
      have answer := (List.cons.inj same).1
      cases wrote : output.write pass.store result.base (render result.base options) with
      | mk answered next =>
          cases wrote' : other.write store result.base (render result.base options) with
          | mk answered' next' =>
              rw [wrote, wrote'] at answer
              cases answer
              cases answered with
              | ok _ =>
                  simp [process, judged, generate, tell, note, withStore, wrote, wrote', record,
                    Output.after]
              | error fault =>
                  simp [process, judged, generate, tell, note, withStore, wrote, wrote', abort,
                    Output.after]

/-- What becomes of the store. -/
theorem store_process (options : Options) (output : Output σ) (table : SymbolTable)
    (pass : Pass σ) (decl : TypeDecl) :
    (pass.process options output table decl).2.store =
      output.after options pass.store (basesAmong table [decl]) := by
  have itself : pass.process options output table decl =
      ((pass.process options output table decl).1,
        (pass.process options output table decl).2.withStore
          (output.after options pass.store (basesAmong table [decl]))) := process_withStore rfl
  exact congrArg (fun ended => ended.2.store) itself

/-- An answer that is a fault is the fault that the pass stops at. -/
theorem process_of_answer {decl : TypeDecl} {fault : Fault}
    (answered : .error fault ∈ output.answers options pass.store (basesAmong table [decl])) :
    (pass.process options output table decl).1 = some fault := by
  cases judged : judge table decl with
  | generate result =>
      have bases : basesAmong table [decl] = [result.base] := by simp [basesAmong, judged]
      rw [bases] at answered
      have answer := List.mem_singleton.mp answered
      cases wrote : output.write pass.store result.base (render result.base options) with
      | mk outcome next =>
          rw [wrote] at answer
          cases answer
          simp [process, judged, generate, tell, note, wrote, abort]
  | _ => simp [basesAmong, judged, Output.answers] at answered

/-- **With the same answers, another output takes the pass the same way.** -/
theorem processAll_withStore {decls : List TypeDecl}
    (same : other.answers options store (pass.attempts options output table decls) =
      output.answers options pass.store (pass.attempts options output table decls)) :
    (pass.withStore store).processAll options other table decls =
      ((pass.processAll options output table decls).1,
        (pass.processAll options output table decls).2.withStore
          (other.after options store (pass.attempts options output table decls))) := by
  induction decls generalizing pass store with
  | nil => rfl
  | cons decl rest ih =>
      rw [attempts] at same ⊢
      obtain ⟨head, tail⟩ := Output.answers_append_inj same
      rw [Output.after_append, processAll, processAll, process_withStore head]
      have stored := store_process options output table pass decl
      rw [← stored] at tail
      cases processed : pass.process options output table decl with
      | mk fault? next =>
          rw [processed] at tail
          cases fault? with
          | none => exact ih tail
          | some fault => rfl

/-- An answer that is a fault ends the pass. -/
theorem fault_of_answer {decls : List TypeDecl} {fault : Fault}
    (answered : .error fault ∈
      output.answers options pass.store (pass.attempts options output table decls)) :
    (pass.processAll options output table decls).1 = some fault := by
  induction decls generalizing pass with
  | nil => cases answered
  | cons decl rest ih =>
      rw [attempts, Output.answers_append, ← store_process options output table pass decl,
        List.mem_append] at answered
      rw [processAll]
      cases processed : pass.process options output table decl with
      | mk fault? next =>
          rw [processed] at answered
          rcases answered with here | later
          · have stopped := process_of_answer here
            rw [processed] at stopped
            cases stopped
            rfl
          · cases fault? with
            | none => exact ih later
            | some other => cases later

end Pass

end Delegation
