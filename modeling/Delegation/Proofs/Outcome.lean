import Delegation.Fault
import Mathlib.Data.List.Forall2

/-!
# Outcomes of computations that may fail

What it takes for a sequence of steps to succeed: every step does, and the next one starts from its
result.

## Main Statements

* `bind_eq_ok_iff` — two steps.
* `mapM_eq_ok_iff` — the same step for every element of a list.
* `bind_eq_error_iff`, `exists_of_mapM_eq_error` — where a computation has failed.
-/

namespace Delegation

variable {ε α β : Type}

/-- Two steps succeed when the first does and the second does from its result. -/
theorem bind_eq_ok_iff {step : Except ε α} {next : α → Except ε β} {result : β} :
    (step >>= next) = .ok result ↔ ∃ mid, step = .ok mid ∧ next mid = .ok result := by
  cases step with
  | error failure => simp [bind, Except.bind]
  | ok mid => simp [bind, Except.bind]

/-- Two steps fail when the first does or the second does after it. -/
theorem bind_eq_error_iff {step : Except ε α} {next : α → Except ε β} {failure : ε} :
    (step >>= next) = .error failure ↔
      step = .error failure ∨ ∃ mid, step = .ok mid ∧ next mid = .error failure := by
  cases step with
  | error other => simp [bind, Except.bind]
  | ok mid => simp [bind, Except.bind]

/-- A step succeeds for a list when it does for every element. -/
theorem mapM_eq_ok_iff {step : α → Except ε β} {inputs : List α} {results : List β} :
    inputs.mapM step = .ok results ↔
      List.Forall₂ (fun input result => step input = .ok result) inputs results := by
  induction inputs generalizing results with
  | nil =>
      rw [List.mapM_nil, List.forall₂_nil_left_iff]
      simp [pure, Except.pure, eq_comm]
  | cons input rest ih =>
      rw [List.mapM_cons, bind_eq_ok_iff, List.forall₂_cons_left_iff]
      refine exists_congr fun first => ?_
      simp only [bind_eq_ok_iff, ih]
      constructor
      · rintro ⟨ok, others, read, same⟩
        cases same
        exact ⟨others, ok, read, rfl⟩
      · rintro ⟨others, ok, read, rfl⟩
        exact ⟨ok, others, read, rfl⟩

/-- Every element of the second of two related lists is related to one of the first. -/
theorem exists_of_forall₂_of_mem {related : α → β → Prop} {inputs : List α} {results : List β}
    (all : List.Forall₂ related inputs results) {result : β} (mem : result ∈ results) :
    ∃ input ∈ inputs, related input result := by
  induction all with
  | nil => cases mem
  | cons head _ ih =>
      rcases List.mem_cons.mp mem with rfl | mem
      · exact ⟨_, List.mem_cons_self, head⟩
      · obtain ⟨input, listed, tail⟩ := ih mem
        exact ⟨input, List.mem_cons_of_mem _ listed, tail⟩

/-- Every result belongs to an element. -/
theorem exists_of_mem_mapM {step : α → Except ε β} {inputs : List α} {results : List β}
    (read : inputs.mapM step = .ok results) {result : β} (mem : result ∈ results) :
    ∃ input ∈ inputs, step input = .ok result :=
  exists_of_forall₂_of_mem (mapM_eq_ok_iff.mp read) mem

/-- A step that succeeds for every element of a list succeeds for the list. -/
theorem exists_mapM_eq_ok {step : α → Except ε β} {inputs : List α}
    (all : ∀ input ∈ inputs, ∃ result, step input = .ok result) :
    ∃ results, inputs.mapM step = .ok results := by
  induction inputs with
  | nil => exact ⟨[], rfl⟩
  | cons input rest ih =>
      obtain ⟨⟨result, head⟩, tail⟩ := List.forall_mem_cons.mp all
      obtain ⟨results, more⟩ := ih tail
      exact ⟨result :: results, mapM_eq_ok_iff.mpr (.cons head (mapM_eq_ok_iff.mp more))⟩

/-- A step that fails for a list fails for one of its elements. -/
theorem exists_of_mapM_eq_error {step : α → Except ε β} {inputs : List α} {failure : ε}
    (failed : inputs.mapM step = .error failure) :
    ∃ input ∈ inputs, step input = .error failure := by
  induction inputs with
  | nil => cases failed
  | cons input rest ih =>
      rw [List.mapM_cons] at failed
      rcases bind_eq_error_iff.mp failed with here | ⟨first, -, failed⟩
      · exact ⟨input, List.mem_cons_self, here⟩
      · rcases bind_eq_error_iff.mp failed with later | ⟨results, -, failed⟩
        · obtain ⟨other, mem, there⟩ := ih later
          exact ⟨other, List.mem_cons_of_mem _ mem, there⟩
        · cases failed

/-- A computation that has a result succeeds with it. -/
theorem exists_of_isSome {outcome : Except ε α} (ok : outcome.toOption.isSome) :
    ∃ result, outcome = .ok result := by
  cases outcome with
  | error failure => cases ok
  | ok result => exact ⟨result, rfl⟩

end Delegation
