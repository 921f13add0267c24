import Delegation.Java.ClassName
import Mathlib.Data.List.Basic

/-!
# Classes that share a generated name

A generated name joins the chain of simple names by underscores, and simple names may have
underscores themselves.  Where one simple name ends and the next one begins is lost on the way, and
nothing else is: two classes share a generated name when they are in one package and their chains
have the same pieces between underscores.

## Main Definitions

* `ClassName.pieces` — what the chain of simple names has between underscores.
* `ClassName.SpelledAlike` — two classes with one package and the same pieces.

## Main Statements

* `ClassName.generated_eq_iff` — which classes share a generated name.
* `ClassName.SpelledAlike.exists_underscore` — they are different only if there are underscores.
-/

namespace Delegation.Java

/-- A text that is joined from parts is split at the same character into the pieces of all parts. -/
theorem splitOn_intercalate_eq_flatMap {α : Type} [DecidableEq α] (a : α) {parts : List (List α)}
    (nonempty : parts ≠ []) :
    ([a].intercalate parts).splitOn a = parts.flatMap (·.splitOn a) := by
  induction parts with
  | nil => exact absurd rfl nonempty
  | cons part rest ih =>
      by_cases last : rest = []
      · rw [last, List.intercalate_singleton, List.flatMap_singleton]
      · rw [List.intercalate_cons_of_ne_nil last, List.append_assoc, List.singleton_append,
          List.splitOn_append_cons_self, ih last, List.flatMap_cons]

namespace ClassName

/-- The pieces of a chain of simple names: what stands between underscores, where nesting separates
as an underscore does. -/
def pieces (name : ClassName) : List (List Char) :=
  name.simpleNames.flatMap (·.toList.splitOn '_')

/-- Two classes are in one package, and their chains of simple names have the same pieces. -/
structure SpelledAlike (first second : ClassName) : Prop where
  package : first.package = second.package
  pieces : first.pieces = second.pieces

variable {first second : ClassName}

/-- The pieces are those of the chain joined by underscores. -/
theorem splitOn_joined (name : ClassName) :
    ("_".intercalate name.simpleNames).toList.splitOn '_' = name.pieces := by
  have nonempty : name.simpleNames.map String.toList ≠ [] :=
    mt List.map_eq_nil_iff.mp name.simpleNames_ne_nil
  rw [String.toList_intercalate]
  exact (splitOn_intercalate_eq_flatMap '_' nonempty).trans (List.flatMap_map ..)

/-- **Two classes share a generated name when they are spelled alike.** -/
theorem generated_eq_iff : first.generated = second.generated ↔ first.SpelledAlike second := by
  constructor
  · intro same
    have joined : generatedPrefix ++ "_".intercalate first.simpleNames =
        generatedPrefix ++ "_".intercalate second.simpleNames := congrArg outermost same
    have texts := congrArg String.toList joined
    rw [String.toList_append, String.toList_append, List.append_cancel_left_eq] at texts
    constructor
    · rw [← package_generated first, same, package_generated]
    · rw [← splitOn_joined, ← splitOn_joined, texts]
  · rintro ⟨package, pieces⟩
    have texts : ("_".intercalate first.simpleNames).toList =
        ("_".intercalate second.simpleNames).toList := by
      rw [← splitOn_joined, ← splitOn_joined] at pieces
      have joined := congrArg (['_'].intercalate ·) pieces
      simpa only [List.intercalate_splitOn] using joined
    rw [generated, generated, peer, peer, package, String.toList_inj.mp texts]

/-- Without underscores, the pieces are the simple names. -/
theorem pieces_eq_map {name : ClassName}
    (plain : ∀ simple ∈ name.simpleNames, '_' ∉ simple.toList) :
    name.pieces = name.simpleNames.map String.toList := by
  rw [pieces, List.map_eq_flatMap, List.flatMap, List.flatMap]
  refine congrArg List.flatten (List.map_congr_left fun simple mem => ?_)
  exact List.splitOn_eq_singleton (plain simple mem)

/-- **Different classes are spelled alike only if a simple name has an underscore.** -/
theorem SpelledAlike.exists_underscore (alike : first.SpelledAlike second)
    (different : first ≠ second) :
    ∃ simple ∈ first.simpleNames ++ second.simpleNames, '_' ∈ simple.toList := by
  by_contra plain
  have plain : ∀ simple ∈ first.simpleNames ++ second.simpleNames, '_' ∉ simple.toList :=
    fun simple mem underscore => plain ⟨simple, mem, underscore⟩
  obtain ⟨plainFirst, plainSecond⟩ := List.forall_mem_append.mp plain
  have chains := alike.pieces
  rw [pieces_eq_map plainFirst, pieces_eq_map plainSecond] at chains
  exact different (ext_simpleNames alike.package
    (List.map_injective_iff.mpr (fun _ _ => String.toList_inj.mp) chains))

end ClassName

end Delegation.Java
