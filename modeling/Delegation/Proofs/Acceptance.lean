import Delegation.Proofs.Java.TypeName
import Delegation.Proofs.Judgement
import Delegation.Proofs.Symbol.Table

/-!
# When a request is met

A request is met when everything that it names exists and is of the right kind, and when nothing is
wrong with the class itself.  The base class then extends what the request names.

## Main Definitions

* `Request.superclass?` — the class that a request wants the base class to extend.

## Main Statements

* `SymbolTable.resolve_eq_declared_iff`, `SymbolTable.resolve_eq_missing_iff` — what a written name
  denotes.
* `validate_eq_accepted_iff` — when a request is accepted.
* `superclass_of_judge`, `clause_of_judge` — what a base class extends, and what its class may.
-/

namespace Delegation

open Java Synthesis Validation

/-! ## Written names -/

namespace SymbolTable

variable {table : SymbolTable} {value : String}

/-- A value denotes a declaration when it names a class that has one. -/
theorem resolve_eq_declared_iff {decl : TypeDecl} :
    table.resolve value = .declared decl ↔
      ∃ name, TypeName.classNamed? value = some name ∧ table.lookup name = some decl := by
  unfold resolve TypeName.classNamed?
  cases (TypeName.ofText? value).bind TypeName.plainClass? with
  | none => simp
  | some name => cases found : table.lookup name <;> simp [found]

/-- A value denotes nothing yet when it names a class that has no declaration. -/
theorem resolve_eq_missing_iff :
    table.resolve value = .missing ↔
      ∃ name, TypeName.classNamed? value = some name ∧ table.lookup name = none := by
  unfold resolve TypeName.classNamed?
  cases (TypeName.ofText? value).bind TypeName.plainClass? with
  | none => simp
  | some name => cases found : table.lookup name <;> simp [found]

/-- A value can never denote anything when it names no class, whatever is visible. -/
theorem resolve_eq_impossible_iff :
    table.resolve value = .impossible ↔ TypeName.classNamed? value = none := by
  unfold resolve TypeName.classNamed?
  cases (TypeName.ofText? value).bind TypeName.plainClass? with
  | none => simp
  | some name => cases found : table.lookup name <;> simp [found]

end SymbolTable

/-! ## The verdict -/

/-- A request is accepted when all its delegates and the class to extend exist and nothing is wrong
with the class, its delegates or the class to extend. -/
theorem validate_eq_accepted_iff {table : SymbolTable} {decl : TypeDecl} {plan : Plan} :
    validate table decl = .accepted plan ↔ ∃ survey superclass,
      Survey.empty.addEntries table 0 decl.request.delegates = (true, survey) ∧
      superclassOf table decl.request.extend? = some (superclass, []) ∧
      kindProblems decl = [] ∧ nestingProblems table decl = [] ∧ superclassProblems decl = [] ∧
      survey.problems = [] ∧
      plan = ⟨decl.name, decl.name.generated, superclass, delegates survey.accepted⟩ := by
  cases surveyed : Survey.empty.addEntries table 0 decl.request.delegates with
  | mk complete survey =>
      constructor
      · intro accepted
        simp only [validate, surveyed] at accepted
        split at accepted
        · rename_i superclass problems none_found found
          cases accepted
          cases complete with
          | false => cases found
          | true =>
              simp only [if_true] at found
              simp only [found, List.append_eq_nil_iff] at none_found
              obtain ⟨⟨⟨⟨kind, nesting⟩, clause⟩, entries⟩, extended⟩ := none_found
              obtain rfl : problems = [] := extended
              exact ⟨survey, superclass, rfl, found, kind, nesting, clause, entries, rfl⟩
        · cases accepted
        · cases accepted
      · rintro ⟨_, superclass, same, found, kind, nesting, clause, entries, rfl⟩
        cases same
        simp [validate, surveyed, found, kind, nesting, clause, entries]

/-! ## The class to extend -/

/-- The class that a request wants the base class to extend. -/
def Request.superclass? (request : Request) : Option ClassName :=
  match request.extend? with
  | none => some .object
  | some value => TypeName.classNamed? value

/-- A class that a request wants to be extended can be written by its qualified name. -/
theorem Request.ofDotted?_qualified {request : Request} {name : ClassName}
    (wanted : request.superclass? = some name) :
    ClassName.ofDotted? name.qualified = some name := by
  unfold superclass? at wanted
  split at wanted
  · cases wanted
    decide +kernel
  · exact TypeName.ofDotted?_of_classNamed? wanted

/-- A class that the request says to extend is without problems when it is a visible class. -/
theorem superclassOf_some_eq_iff {table : SymbolTable} (lawful : table.Lawful) {value : String}
    {superclass : ClassName} :
    superclassOf table (some value) = some (superclass, []) ↔
      TypeName.classNamed? value = some superclass ∧
        ∃ parent, table.lookup superclass = some parent ∧ parent.kind = .class_ := by
  constructor
  · intro found
    simp only [superclassOf] at found
    split at found
    · cases found
    · cases found
    · rename_i parent resolved
      split at found
      · rename_i isClass
        cases found
        obtain ⟨name, named, visible⟩ := SymbolTable.resolve_eq_declared_iff.mp resolved
        obtain rfl := lawful name parent visible
        exact ⟨named, parent, visible, isClass⟩
      · cases found
  · rintro ⟨named, parent, visible, isClass⟩
    have resolved : table.resolve value = .declared parent :=
      SymbolTable.resolve_eq_declared_iff.mpr ⟨superclass, named, visible⟩
    simp only [superclassOf, resolved, if_pos isClass, lawful superclass parent visible]

/-- Without problems, the class to extend is the one that the request wants, or the root class if it
does not say. -/
theorem superclass?_of_superclassOf {table : SymbolTable} (lawful : table.Lawful)
    (rooted : table.root = .object) {request : Request} {superclass : ClassName}
    (found : superclassOf table request.extend? = some (superclass, [])) :
    request.superclass? = some superclass := by
  unfold Request.superclass?
  cases said : request.extend? with
  | none =>
      rw [said] at found
      cases found
      rw [← rooted]
  | some value =>
      rw [said, superclassOf_some_eq_iff lawful] at found
      exact found.1

/-- **A base class extends what the request wants**, which is a class that is visible. -/
theorem superclass_of_judge {table : SymbolTable} (lawful : table.Lawful)
    (rooted : table.root = .object) {decl : TypeDecl} {result : Synthesised}
    (judged : judge table decl = .generate result) :
    decl.request.superclass? = some result.base.superclass ∧
      ∃ parent, table.lookup result.base.superclass = some parent ∧ parent.kind = .class_ := by
  obtain ⟨plan, accepted, made⟩ := judge_eq_generate_iff.mp judged
  obtain ⟨survey, superclass, -, found, -, -, -, -, rfl⟩ := validate_eq_accepted_iff.mp accepted
  obtain ⟨decls, parent, -, extended, rfl⟩ := synthesise_eq_ok_iff.mp made
  exact ⟨superclass?_of_superclassOf lawful rooted found, parent,
    superclassDecl_eq_ok_iff.mp extended⟩

/-- A base class is generated for a class only, and only if the superclass clause is not resolved to
anything but the base class. -/
theorem clause_of_judge {table : SymbolTable} {decl : TypeDecl} {result : Synthesised}
    (judged : judge table decl = .generate result) :
    decl.kind = .class_ ∧
      ∀ found, decl.superclass = .resolved found → found = decl.name.generated := by
  obtain ⟨plan, accepted, -⟩ := judge_eq_generate_iff.mp judged
  obtain ⟨survey, superclass, -, -, kind, -, clause, -⟩ := validate_eq_accepted_iff.mp accepted
  constructor
  · by_contra other
    rw [kindProblems, if_neg other] at kind
    cases kind
  · intro found resolved
    by_contra foreign
    simp only [superclassProblems, resolved, if_neg foreign] at clause
    cases clause

end Delegation
