import Delegation.Proofs.Outcome
import Delegation.Proofs.Symbol.Growth
import Delegation.Proofs.Synthesis.Forwarding

/-!
# Requests that can be met

A class with nothing wrong about it, whose delegates are all there, is judged by its superclass
alone: as long as the class that it wants to be extended is missing, it is put off, and as soon as
that class is there, the base class is generated.

## Main Definitions

* `SymbolTable.Asks` — a class asks to delegate to some interfaces and to extend a class, and nothing
  is wrong with it.

## Main Statements

* `SymbolTable.Asks.judge_eq_defer` — it is put off as long as that class is missing.
* `SymbolTable.Asks.exists_judge_eq_generate` — afterwards its base class is generated, with a
  forwarding constructor for each constructor of that class.
-/

namespace Delegation

open Java Synthesis Validation

/-! ## Delegates -/

/-- Entries that stand for different interfaces, none of which was taken before, are all taken. -/
theorem Validation.Survey.addEntries_of_denotes {table : SymbolTable} {survey : Survey} {index : Nat}
    {asked : List DelegateEntry} {interfaces : List ClassName}
    (denote : List.Forall₂ table.Denotes asked interfaces)
    (distinct : (survey.accepted.map (·.1) ++ interfaces).Nodup) :
    survey.addEntries table index asked =
      (true, { survey with accepted := survey.accepted ++ unnamed interfaces }) := by
  induction denote generalizing survey index with
  | nil => rw [unnamed, List.map_nil, List.append_nil, addEntries]
  | @cons entry interface asked interfaces head _ ih =>
      obtain ⟨unnamed, decl, resolved, rfl, isInterface, -⟩ := head
      have fresh : survey.accepted.any (·.1 == decl.name) = false := by
        rw [List.any_eq_false]
        intro taken mem same
        refine (List.nodup_append.mp distinct).2.2 taken.1 (List.mem_map_of_mem mem) decl.name
          List.mem_cons_self ?_
        exact eq_of_beq same
      have step : survey.addEntry table index entry =
          some { survey with accepted := survey.accepted ++ [(decl.name, none)] } := by
        rw [addEntry, resolved, unnamed]
        show (if decl.kind = .interface then some (survey.accept index decl.name none) else _) = _
        rw [if_pos isInterface, accept, fresh]
        rfl
      rw [addEntries, step]
      show Survey.addEntries table _ (index + 1) asked = _
      rw [ih (by rw [List.map_append, List.append_assoc]; exact distinct), List.append_assoc]
      rfl

/-- An entry without a field name stands for an interface exactly when it names the interface and a
base class can delegate to that, whatever the field. -/
theorem SymbolTable.denotes_iff {table : SymbolTable} (lawful : table.Lawful)
    {asked : DelegateEntry} {interface : ClassName} (field : String) :
    table.Denotes asked interface ↔ asked.fieldName? = none ∧
      TypeName.classNamed? asked.interface = some interface ∧
      ∃ decl, delegateDecl table ⟨interface, field⟩ = .ok decl := by
  simp only [delegateDecl_eq_ok_iff]
  constructor
  · rintro ⟨unnamed, decl, resolved, rfl, isInterface, closed⟩
    obtain ⟨name, names, found⟩ := resolve_eq_declared_iff.mp resolved
    obtain rfl := lawful name decl found
    exact ⟨unnamed, names, decl, found, isInterface, (missingParent?_eq_none_iff found).mpr closed⟩
  · rintro ⟨unnamed, names, decl, found, isInterface, complete⟩
    obtain rfl := lawful interface decl found
    exact ⟨unnamed, decl, resolve_eq_declared_iff.mpr ⟨_, names, found⟩, rfl, isInterface,
      (missingParent?_eq_none_iff found).mp complete⟩

/-! ## The class to extend -/

/-- A class that is there can be extended. -/
theorem Validation.superclassOf_of_lookup {table : SymbolTable} (lawful : table.Lawful)
    (rooted : table.root = .object) {request : Request} {superclass : ClassName}
    (wanted : request.superclass? = some superclass) {parent : TypeDecl}
    (found : table.lookup superclass = some parent) (isClass : parent.kind = .class_) :
    superclassOf table request.extend? = some (superclass, []) := by
  cases said : request.extend? with
  | none =>
      rw [Request.superclass?, said] at wanted
      cases wanted
      show some (table.root, []) = _
      rw [rooted]
  | some value =>
      rw [Request.superclass?, said] at wanted
      exact (superclassOf_some_eq_iff lawful).mpr ⟨wanted, parent, found, isClass⟩

/-- There is no answer for a class that is missing, unless it is the root class. -/
theorem Validation.superclassOf_of_missing {table : SymbolTable} {request : Request}
    {superclass : ClassName} (wanted : request.superclass? = some superclass)
    (proper : superclass ≠ .object) (missing : table.lookup superclass = none) :
    superclassOf table request.extend? = none := by
  cases said : request.extend? with
  | none =>
      rw [Request.superclass?, said] at wanted
      cases wanted
      exact absurd rfl proper
  | some value =>
      rw [Request.superclass?, said] at wanted
      have resolved : table.resolve value = .missing :=
        SymbolTable.resolve_eq_missing_iff.mpr ⟨superclass, wanted, missing⟩
      rw [superclassOf, resolved]

/-! ## The judgement -/

namespace SymbolTable

/-- An annotated class asks to delegate to some interfaces, which are there, and to extend a class,
which need not be there, and nothing is wrong with the class itself. -/
structure Asks (table : SymbolTable) (decl : TypeDecl) (interfaces : List ClassName)
    (superclass : ClassName) : Prop where
  isClass : decl.kind = .class_
  topLevel : decl.name.nested = []
  clause : ∀ found, decl.superclass = .resolved found → found = decl.name.generated
  delegates : List.Forall₂ table.Denotes decl.request.delegates interfaces
  distinct : interfaces.Nodup
  wanted : decl.request.superclass? = some superclass

namespace Asks

variable {table : SymbolTable} {decl : TypeDecl} {interfaces : List ClassName}
variable {superclass : ClassName}

/-- Nothing is wrong with the class itself. -/
theorem no_problems (asks : table.Asks decl interfaces superclass) :
    kindProblems decl = [] ∧ nestingProblems table decl = [] ∧ superclassProblems decl = [] := by
  refine ⟨if_pos asks.isClass, ?_, ?_⟩
  · rw [nestingProblems, ClassName.isNested, asks.topLevel]
    rfl
  · unfold superclassProblems
    split
    · rename_i found resolved
      rw [if_pos (asks.clause found resolved)]
    · rfl
    · rfl

/-- All its interfaces are accepted. -/
theorem addEntries_eq (asks : table.Asks decl interfaces superclass) :
    Survey.empty.addEntries table 0 decl.request.delegates =
      (true, ⟨unnamed interfaces, [], []⟩) :=
  Survey.addEntries_of_denotes asks.delegates asks.distinct

/-- **The class is put off as long as the class that it wants to be extended is missing.** -/
theorem judge_eq_defer (asks : table.Asks decl interfaces superclass)
    (proper : superclass ≠ .object) (missing : table.lookup superclass = none) :
    judge table decl = .defer := by
  obtain ⟨kind, nesting, clause⟩ := asks.no_problems
  have deferred : validate table decl = .deferred := by
    simp only [validate, asks.addEntries_eq, if_true, kind, nesting, clause,
      superclassOf_of_missing asks.wanted proper missing]
    rfl
  rw [judge, deferred]

/-- **The base class is generated as soon as the class that it is to extend is there.**  It has a
forwarding constructor for each constructor of that class. -/
theorem exists_judge_eq_generate (asks : table.Asks decl interfaces superclass)
    (lawful : table.Lawful) (rooted : table.root = .object) {parent : TypeDecl}
    (found : table.lookup superclass = some parent) (isClass : parent.kind = .class_) :
    ∃ result, judge table decl = .generate result ∧
      result.base.constructors = parent.constructors.map
        (forwardConstructor (Validation.delegates (unnamed interfaces))) := by
  obtain ⟨kind, nesting, clause⟩ := asks.no_problems
  have accepted : validate table decl = .accepted ⟨decl.name, decl.name.generated, superclass,
      Validation.delegates (unnamed interfaces)⟩ :=
    validate_eq_accepted_iff.mpr ⟨_, superclass, asks.addEntries_eq,
      superclassOf_of_lookup lawful rooted asks.wanted found isClass, kind, nesting, clause, rfl,
      rfl⟩
  have extended : superclassDecl table superclass = .ok parent :=
    superclassDecl_eq_ok_iff.mpr ⟨found, isClass⟩
  have all : ∀ delegate ∈ Validation.delegates (unnamed interfaces),
      ∃ decl, delegateDecl table delegate = .ok decl := by
    intro delegate mem
    have listed := List.mem_map_of_mem (f := Delegate.interface) mem
    rw [map_interface_delegates, map_fst_unnamed] at listed
    obtain ⟨asked, -, denotes⟩ := exists_of_forall₂_of_mem asks.delegates listed
    exact ((denotes_iff lawful delegate.field).mp denotes).2.2
  obtain ⟨decls, visible⟩ := exists_mapM_eq_ok all
  exact ⟨_, judge_eq_generate_iff.mpr ⟨_, accepted,
    synthesise_eq_ok_iff.mpr ⟨decls, parent, visible, extended, rfl⟩⟩, rfl⟩

end Asks

end SymbolTable

end Delegation
