import Delegation.Proofs.Validation.Survey

/-!
# What a verdict depends on

Validation asks little of a symbol table: the name and the kind of what the values of a request
denote, the name of the root class, and whether the type that encloses an annotated class makes its
members static.  Tables that agree on this give the same verdict, whatever else they hold.

## Main Definitions

* `Sense`, `SymbolTable.sense` — what a value denotes, as far as validation looks at it.

## Main Statements

* `Validation.Survey.addEntries_congr`, `Validation.superclassOf_congr` — the parts of a verdict.
* `validate_congr` — the whole verdict.
-/

namespace Delegation

open Java Validation

/-- What a value denotes, reduced to what a verdict can depend on. -/
inductive Sense
  /-- A visible type of this name and kind. -/
  | type (name : ClassName) (kind : TypeKind)
  /-- A type that is not visible. -/
  | missing
  /-- Nothing, whatever becomes visible. -/
  | impossible
deriving DecidableEq

/-- The part of a resolution that a verdict can depend on. -/
def Resolution.sense : Resolution → Sense
  | declared decl => .type decl.name decl.kind
  | missing => .missing
  | impossible => .impossible

namespace SymbolTable

variable {value : String}

/-- What a value denotes in a table. -/
def sense (table : SymbolTable) (value : String) : Sense :=
  (table.resolve value).sense

theorem sense_eq_missing_iff {table : SymbolTable} :
    table.sense value = .missing ↔ table.resolve value = .missing := by
  unfold sense
  cases table.resolve value <;> simp [Resolution.sense]

theorem sense_eq_impossible_iff {table : SymbolTable} :
    table.sense value = .impossible ↔ table.resolve value = .impossible := by
  unfold sense
  cases table.resolve value <;> simp [Resolution.sense]

theorem sense_eq_type_iff {table : SymbolTable} {name : ClassName} {kind : TypeKind} :
    table.sense value = .type name kind ↔
      ∃ decl, table.resolve value = .declared decl ∧ decl.name = name ∧ decl.kind = kind := by
  unfold sense
  cases table.resolve value <;> simp [Resolution.sense]

end SymbolTable

namespace Validation

variable {first second : SymbolTable}

/-- Tables that agree on an entry take a survey the same way. -/
theorem Survey.addEntry_congr {entry : DelegateEntry}
    (same : first.sense entry.interface = second.sense entry.interface)
    (survey : Survey) (index : Nat) :
    survey.addEntry first index entry = survey.addEntry second index entry := by
  unfold SymbolTable.sense at same
  unfold addEntry
  cases inFirst : first.resolve entry.interface <;>
    cases inSecond : second.resolve entry.interface <;> simp_all [Resolution.sense]

/-- So do tables that agree on all entries. -/
theorem Survey.addEntries_congr {entries : List DelegateEntry}
    (same : ∀ entry ∈ entries, first.sense entry.interface = second.sense entry.interface)
    (survey : Survey) (index : Nat) :
    survey.addEntries first index entries = survey.addEntries second index entries := by
  induction entries generalizing survey index with
  | nil => rfl
  | cons entry rest ih =>
      obtain ⟨here, later⟩ := List.forall_mem_cons.mp same
      rw [addEntries, addEntries, addEntry_congr here]
      split
      · exact ih later _ _
      · rfl

/-- Tables that agree on the root class and on the class to extend find the same class to extend. -/
theorem superclassOf_congr (rooted : first.root = second.root) {extend? : Option String}
    (same : ∀ value ∈ extend?, first.sense value = second.sense value) :
    superclassOf first extend? = superclassOf second extend? := by
  cases extend? with
  | none => exact congrArg (fun root => some (root, [])) rooted
  | some value =>
      have same := same value rfl
      unfold SymbolTable.sense at same
      unfold superclassOf
      cases inFirst : first.resolve value <;> cases inSecond : second.resolve value <;>
        simp_all [Resolution.sense]

end Validation

/-- **Tables that agree on what a request names give the same verdict on it.** -/
theorem validate_congr {first second : SymbolTable} {decl : TypeDecl}
    (rooted : first.root = second.root)
    (nesting : nestingProblems first decl = nestingProblems second decl)
    (same : ∀ value ∈ decl.request.values, first.sense value = second.sense value) :
    validate first decl = validate second decl := by
  have entries : ∀ entry ∈ decl.request.delegates,
      first.sense entry.interface = second.sense entry.interface := fun entry mem =>
    same _ (List.mem_append_left _ (List.mem_map_of_mem mem))
  have extended : ∀ value ∈ decl.request.extend?,
      first.sense value = second.sense value := fun value mem =>
    same _ (List.mem_append_right _ (Option.mem_toList.mpr mem))
  unfold validate
  rw [Survey.addEntries_congr entries, superclassOf_congr rooted extended, nesting]

end Delegation
