import Delegation.Pass

/-!
# Judgements

What a judgement on an annotated class says about the class: a base class that is generated carries
the name that belongs to the class, a rejection gives at least one reason, and whatever is reported
points at the class.

## Main Definitions

* `Judgement.result?` — the base class and its collisions, if the class is generated.
* `diagnosticsOf` — what is reported about a class when its judgement is carried out.
* `Diagnostic.about` — the part of a report that is about a class.

## Main Statements

* `Synthesis.delegateDecl_eq_ok_iff`, `Synthesis.superclassDecl_eq_ok_iff` — which declarations a
  synthesis can use.
* `synthesise_eq_ok_iff` — what a successful synthesis consists of.
* `name_base_of_judge` — the name of a generated base class.
* `typeName_of_mem_diagnosticsOf` — what is reported about a class points at it.
-/

namespace Delegation

open Java Synthesis Validation

/-! ## The verdict -/

/-- An accepted plan is for the class itself, and for the base class that belongs to it. -/
theorem names_of_validate {table : SymbolTable} {decl : TypeDecl} {plan : Plan}
    (accepted : validate table decl = .accepted plan) :
    plan.annotated = decl.name ∧ plan.target = decl.name.generated := by
  simp only [validate] at accepted
  split at accepted
  · cases accepted
    exact ⟨rfl, rfl⟩
  · cases accepted
  · cases accepted

/-- A rejection gives a reason. -/
theorem problems_ne_nil_of_validate {table : SymbolTable} {decl : TypeDecl}
    {problems : List Problem} (rejected : validate table decl = .rejected problems) :
    problems ≠ [] := by
  simp only [validate] at rejected
  split at rejected
  · cases rejected
  · cases rejected
  · rename_i acceptable missing
    cases rejected
    intro none_found
    -- Without problems, one of the first two cases applies whatever became of the superclass.
    cases found : (if (Survey.empty.addEntries table 0 decl.request.delegates).1 = true then
        superclassOf table decl.request.extend? else none) with
    | none => exact missing none_found found
    | some superclass => exact acceptable superclass.1 superclass.2 none_found found

/-! ## The synthesis -/

/-- A delegate has its declaration when it is a visible interface none of whose parents is missing. -/
theorem Synthesis.delegateDecl_eq_ok_iff {table : SymbolTable} {delegate : Delegate}
    {decl : TypeDecl} : delegateDecl table delegate = .ok decl ↔
      table.lookup delegate.interface = some decl ∧ decl.kind = .interface ∧
        table.missingParent? decl = none := by
  unfold delegateDecl
  cases found : table.lookup delegate.interface with
  | none => simp
  | some other =>
      by_cases isInterface : other.kind = .interface
      · cases missing : table.missingParent? other with
        | none =>
            simp only [if_pos isInterface, missing]
            constructor
            · rintro ⟨⟩
              exact ⟨rfl, isInterface, missing⟩
            · rintro ⟨⟨⟩, -⟩
              rfl
        | some parent =>
            simp only [if_pos isInterface, missing]
            constructor
            · nofun
            · rintro ⟨⟨⟩, -, complete⟩
              rw [missing] at complete
              cases complete
      · simp only [if_neg isInterface]
        constructor
        · nofun
        · rintro ⟨⟨⟩, other, -⟩
          exact absurd other isInterface

/-- The superclass has its declaration when it is a visible class. -/
theorem Synthesis.superclassDecl_eq_ok_iff {table : SymbolTable} {name : ClassName}
    {decl : TypeDecl} : superclassDecl table name = .ok decl ↔
      table.lookup name = some decl ∧ decl.kind = .class_ := by
  unfold superclassDecl
  cases found : table.lookup name with
  | none => simp
  | some other =>
      by_cases isClass : other.kind = .class_
      · simp only [if_pos isClass]
        constructor
        · rintro ⟨⟩
          exact ⟨rfl, isClass⟩
        · rintro ⟨⟨⟩, -⟩
          rfl
      · simp only [if_neg isClass]
        constructor
        · nofun
        · rintro ⟨⟨⟩, other⟩
          exact absurd other isClass

/-- The base class for a plan, put together from the declarations of its delegates and of its
superclass. -/
def Synthesis.assembled (table : SymbolTable) (plan : Plan) (decls : List TypeDecl)
    (superclass : TypeDecl) : Synthesised where
  base :=
    { name := plan.target
      superclass := plan.superclass
      interfaces := plan.delegates.map (·.interface)
      fields := plan.delegates.map fun delegate => ⟨delegate.field, delegate.interface⟩
      constructors := superclass.constructors.map (forwardConstructor plan.delegates)
      methods := (gather table (plan.delegates.zip decls)).methods }
  collisions := (gather table (plan.delegates.zip decls)).collisions

/-- A synthesis succeeds when all delegates and the superclass have their declarations. -/
theorem synthesise_eq_ok_iff {table : SymbolTable} {plan : Plan} {result : Synthesised} :
    synthesise table plan = .ok result ↔
      ∃ decls superclass,
        plan.delegates.mapM (delegateDecl table) = .ok decls ∧
        superclassDecl table plan.superclass = .ok superclass ∧
        result = assembled table plan decls superclass := by
  unfold synthesise
  cases found : plan.delegates.mapM (delegateDecl table) with
  | error obstacle => simp [bind, Except.bind]
  | ok decls =>
      cases extended : superclassDecl table plan.superclass with
      | error obstacle => simp [bind, Except.bind]
      | ok superclass =>
          constructor
          · intro ok
            cases ok
            exact ⟨decls, superclass, rfl, rfl, rfl⟩
          · rintro ⟨_, _, sameDecls, sameSuperclass, rfl⟩
            cases sameDecls
            cases sameSuperclass
            rfl

/-! ## The judgement -/

namespace Judgement

/-- The base class to be written and its collisions, if there is one. -/
@[simp] def result? : Judgement → Option Synthesised
  | generate result => some result
  | reject _ | defer | fail _ => none

/-- Whether the class is put off. -/
@[simp] def isDefer : Judgement → Bool
  | defer => true
  | reject _ | fail _ | generate _ => false

/-- Whether the class is rejected. -/
@[simp] def isReject : Judgement → Bool
  | reject _ => true
  | defer | fail _ | generate _ => false

/-- Whether the judgement can be carried out; whether its base class can be written is another
matter. -/
@[simp] def isSound : Judgement → Bool
  | fail _ => false
  | reject _ | defer | generate _ => true

end Judgement

/-- A generated base class comes from an accepted plan. -/
theorem judge_eq_generate_iff {table : SymbolTable} {decl : TypeDecl} {result : Synthesised} :
    judge table decl = .generate result ↔
      ∃ plan, validate table decl = .accepted plan ∧ synthesise table plan = .ok result := by
  constructor
  · intro generated
    unfold judge at generated
    split at generated
    · cases generated
    · cases generated
    · rename_i plan accepted
      split at generated
      · rename_i found ok
        cases generated
        exact ⟨plan, accepted, ok⟩
      · cases generated
      · cases generated
  · rintro ⟨plan, accepted, ok⟩
    simp only [judge, accepted, ok]

/-- A class is rejected exactly when its request is. -/
theorem judge_eq_reject_iff {table : SymbolTable} {decl : TypeDecl} {problems : List Problem} :
    judge table decl = .reject problems ↔ validate table decl = .rejected problems := by
  constructor
  · intro rejected
    unfold judge at rejected
    split at rejected
    · rename_i found verdict
      cases rejected
      exact verdict
    · cases rejected
    · split at rejected <;> cases rejected
  · intro rejected
    simp only [judge, rejected]

/-- A generated base class has the name that belongs to the annotated class. -/
theorem name_base_of_judge {table : SymbolTable} {decl : TypeDecl} {result : Synthesised}
    (generated : judge table decl = .generate result) :
    result.base.name = decl.name.generated := by
  obtain ⟨plan, accepted, ok⟩ := judge_eq_generate_iff.mp generated
  obtain ⟨decls, superclass, -, -, rfl⟩ := synthesise_eq_ok_iff.mp ok
  exact (names_of_validate accepted).2

/-! ## What is reported -/

/-- What is reported about a class when its judgement is carried out without a fault. -/
def diagnosticsOf (table : SymbolTable) (decl : TypeDecl) : List Diagnostic :=
  match judge table decl with
  | .reject problems => problems.map (Problem.diagnostic decl.name)
  | .generate result => result.collisions.map (Collision.diagnostic decl.name)
  | .defer | .fail _ => []

/-- What is logged about a class when its judgement is carried out without a fault. -/
def eventsOf (table : SymbolTable) (decl : TypeDecl) : List Event :=
  match judge table decl with
  | .generate result =>
    result.collisions.map (fun collision => .shared decl.name collision.signature) ++
      [.generated decl.name result.base.name]
  | .reject _ | .defer | .fail _ => []

/-- What is reported about a class. -/
def Diagnostic.about (diagnostics : List Diagnostic) (type : ClassName) : List Diagnostic :=
  diagnostics.filter (·.location.typeName = type)

@[simp] theorem Diagnostic.about_append (first second : List Diagnostic) (type : ClassName) :
    about (first ++ second) type = about first type ++ about second type := List.filter_append ..

@[simp] theorem typeName_location_problem (type : ClassName) (problem : Problem) :
    (problem.diagnostic type).location.typeName = type := by
  cases problem <;> rfl

@[simp] theorem isError_diagnostic_problem (type : ClassName) (problem : Problem) :
    (problem.diagnostic type).isError = true := rfl

@[simp] theorem typeName_location_collision (type : ClassName) (collision : Collision) :
    (collision.diagnostic type).location.typeName = type := rfl

@[simp] theorem isError_diagnostic_collision (type : ClassName) (collision : Collision) :
    (collision.diagnostic type).isError = false := rfl

/-- The codes that are no matter of validation: what never appeared, and what went wrong inside. -/
theorem code_diagnostic_problem (type : ClassName) (problem : Problem) :
    (problem.diagnostic type).code ≠ .undefined ∧
      (problem.diagnostic type).code ≠ .internalException := by
  cases problem <;> simp [Problem.diagnostic, Diagnostic.error, Problem.code]

/-- Whatever is reported about a class points at it. -/
theorem typeName_of_mem_diagnosticsOf {table : SymbolTable} {decl : TypeDecl}
    {diagnostic : Diagnostic} (mem : diagnostic ∈ diagnosticsOf table decl) :
    diagnostic.location.typeName = decl.name := by
  unfold diagnosticsOf at mem
  split at mem
  · obtain ⟨problem, -, rfl⟩ := List.mem_map.mp mem
    simp
  · obtain ⟨collision, -, rfl⟩ := List.mem_map.mp mem
    simp
  · simp at mem
  · simp at mem

/-- What is reported about a class when its judgement is carried out is a matter of the class. -/
theorem code_of_mem_diagnosticsOf {table : SymbolTable} {decl : TypeDecl} {diagnostic : Diagnostic}
    (mem : diagnostic ∈ diagnosticsOf table decl) :
    diagnostic.code ≠ .undefined ∧ diagnostic.code ≠ .internalException := by
  unfold diagnosticsOf at mem
  split at mem
  · obtain ⟨problem, -, rfl⟩ := List.mem_map.mp mem
    exact code_diagnostic_problem decl.name problem
  · obtain ⟨collision, -, rfl⟩ := List.mem_map.mp mem
    exact ⟨nofun, nofun⟩
  · simp at mem
  · simp at mem

end Delegation
