import Delegation.Proofs.Snapshot.WellFormed
import Delegation.Proofs.Validation.Survey

/-!
# What validation finds

A verdict on an annotated class follows from two things: what is wrong with the class and its request,
and whether the request names a type that is missing.  What is wrong is told here entry by entry,
without regard to how validation goes about it.

## Main Definitions

* `classProblems`, `extendProblems` — what is wrong apart from the delegates.
* `findings` — everything that is wrong with an annotated class.
* `dueErrors` — the errors that are to be reported about it, by code and location.
* `Verdict.reported` — what is reported about a class.

## Main Statements

* `map_told_findings` — the findings are told as the errors that are due.
* `validate_cases` — when a class is rejected, put off and accepted.
* `Pass.exists_diagnostics_process_eq` — a pass reports what the verdict says.
* `validate_exact` — the errors that a pass reports about a class, and the verdict.
-/

namespace Delegation

open Java Validation

/-! ## Findings -/

/-- What is wrong with the class to extend. -/
def extendProblems (table : SymbolTable) : Option String → List Problem
  | none => []
  | some value =>
    if table.isUnsuited .class_ value then [.extendNotClass (table.shown value)] else []

/-- What is wrong with an annotated class apart from its request. -/
def classProblems (table : SymbolTable) (decl : TypeDecl) : List Problem :=
  (if decl.kind ≠ .class_ then [.wrongType decl.kind] else []) ++
  (if decl.name.isNested ∧ decl.has .private_ then [.privateClass] else []) ++
  (if decl.name.isNested ∧ ¬ decl.has .static ∧
      (decl.name.enclosing?.bind table.lookup).all fun outer =>
        outer.kind ≠ .interface && outer.kind ≠ .annotationType then
    [.innerClass] else []) ++
  match decl.superclass with
  | .resolved found =>
    if found ≠ decl.name.generated then [.foreignSuperclass found] else []
  | .absent | .unresolved _ => []

/-- Everything that is wrong with an annotated class, as far as its request can be read: the entries
up to the first one whose interface is missing, and the class to extend if there is no such entry. -/
def findings (table : SymbolTable) (decl : TypeDecl) : List Problem :=
  let known := decl.request.delegates.takeWhile (table.resolve ·.interface ≠ .missing)
  classProblems table decl ++ delegateProblems table known ++
    if ∀ entry ∈ decl.request.delegates, table.resolve entry.interface ≠ .missing then
      extendProblems table decl.request.extend? else []

/-! ## Errors -/

section Errors

variable (table : SymbolTable) (type : ClassName)

/-- The errors that are due to an annotated class apart from its request. -/
def classErrors (decl : TypeDecl) : List (Code × Location) :=
  (if decl.kind ≠ .class_ then [(.wrongType, .type decl.name)] else []) ++
  (if decl.name.isNested ∧ decl.has .private_ then [(.privateClass, .type decl.name)] else []) ++
  (if decl.name.isNested ∧ ¬ decl.has .static ∧
      (decl.name.enclosing?.bind table.lookup).all fun outer =>
        outer.kind ≠ .interface && outer.kind ≠ .annotationType then
    [(.innerClass, .type decl.name)] else []) ++
  match decl.superclass with
  | .resolved found =>
    if found ≠ decl.name.generated then [(.superclassMismatch, .type decl.name)] else []
  | .absent | .unresolved _ => []

/-- The errors that are due to the entry at an index, given the entries before it. -/
def entryErrors (earlier : List DelegateEntry) (entry : DelegateEntry) (index : Nat) :
    List (Code × Location) :=
  (if table.isUnsuited .interface entry.interface then
    [(.notInterface, .delegate type index)] else []) ++
  (match entry.fieldName? with
    | none => []
    | some name =>
      if ¬ isIdentifier name then [(.invalidName, .delegate type index)]
      else if ∃ other ∈ earlier, other.fieldName? = some name then
        [(.duplicateName, .delegate type index)]
      else []) ++
  match table.interfaceOf? entry.interface with
  | none => []
  | some interface =>
    if ∃ other ∈ earlier, table.interfaceOf? other.interface = some interface then
      [(.duplicateInterface, .delegate type index)]
    else []

/-- The error that is due to the class to extend. -/
def extendErrors : Option String → List (Code × Location)
  | none => []
  | some value => if table.isUnsuited .class_ value then [(.extendNotClass, .extend type)] else []

/-- The errors that are to be reported about an annotated class, in order: those due to the class
itself, to the entries before the first one whose interface is missing, each at its index, and to the
class to extend if there is no such entry. -/
def dueErrors (decl : TypeDecl) : List (Code × Location) :=
  let known := decl.request.delegates.takeWhile (table.resolve ·.interface ≠ .missing)
  classErrors table decl ++
  known.zipIdx.flatMap (fun (entry, index) =>
    entryErrors table decl.name (known.take index) entry index) ++
  if ∀ entry ∈ decl.request.delegates, table.resolve entry.interface ≠ .missing then
    extendErrors table decl.name decl.request.extend? else []

/-- What is told about a problem, apart from the words. -/
def Problem.told (problem : Problem) : Severity × Code × Location :=
  ((problem.diagnostic type).severity, (problem.diagnostic type).code,
    (problem.diagnostic type).location)

variable {type} in
theorem map_told_ite {P : Prop} [Decidable P] {problem : Problem} {error : Code × Location}
    (told : problem.told type = (.error, error)) :
    (if P then [problem] else []).map (Problem.told type) =
      (if P then [error] else []).map (Severity.error, ·) := by
  split
  · exact congrArg ([·]) told
  · rfl

theorem map_told_classProblems (decl : TypeDecl) :
    (classProblems table decl).map (Problem.told decl.name) =
      (classErrors table decl).map (Severity.error, ·) := by
  unfold classProblems classErrors
  simp only [List.map_append]
  refine congrArg₂ _ (congrArg₂ _ (congrArg₂ _ ?kind ?access) ?inner) ?superclass
  case superclass =>
    cases decl.superclass with
    | resolved found => exact map_told_ite (by simp [Problem.told, Problem.diagnostic_eq])
    | _ => rfl
  all_goals exact map_told_ite (by simp [Problem.told, Problem.diagnostic_eq])

theorem map_told_entryProblems (earlier : List DelegateEntry) (entry : DelegateEntry) :
    (entryProblems table earlier entry).map (Problem.told type) =
      (entryErrors table type earlier entry earlier.length).map (Severity.error, ·) := by
  unfold entryProblems entryErrors fieldNameProblems repetitionProblems
  rw [← List.append_assoc]
  simp only [List.map_append]
  refine congrArg₂ _ (congrArg₂ _ ?unsuited ?fieldName) ?repetition
  case unsuited => exact map_told_ite (by simp [Problem.told, Problem.diagnostic_eq])
  case fieldName =>
    cases entry.fieldName? with
    | none => rfl
    | some name =>
        by_cases identifier : isIdentifier name
        · simp only [identifier, not_true_eq_false, if_false]
          exact map_told_ite (by simp [Problem.told, Problem.diagnostic_eq])
        · simp [identifier, Problem.told, Problem.diagnostic_eq]
  case repetition =>
    cases table.interfaceOf? entry.interface with
    | none => rfl
    | some interface => exact map_told_ite (by simp [Problem.told, Problem.diagnostic_eq])

theorem map_told_delegateProblems (entries : List DelegateEntry) :
    (delegateProblems table entries).map (Problem.told type) =
      (entries.zipIdx.flatMap fun (entry, index) =>
        entryErrors table type (entries.take index) entry index).map (Severity.error, ·) := by
  rw [delegateProblems, List.map_flatMap, List.map_flatMap]
  refine List.flatMap_congr ?_
  rintro ⟨entry, index⟩ mem
  have within : index < 0 + entries.length := (List.mem_zipIdx mem).2.1
  have before : (entries.take index).length = index := by
    rw [List.length_take]
    omega
  have told := map_told_entryProblems table type (entries.take index) entry
  rwa [before] at told

theorem map_told_extendProblems (extend? : Option String) :
    (extendProblems table extend?).map (Problem.told type) =
      (extendErrors table type extend?).map (Severity.error, ·) := by
  cases extend? with
  | none => rfl
  | some value => exact map_told_ite (by simp [Problem.told, Problem.diagnostic_eq])

/-- **The findings are told as the errors that are due**, in the same order. -/
theorem map_told_findings (decl : TypeDecl) :
    (findings table decl).map (Problem.told decl.name) =
      (dueErrors table decl).map (Severity.error, ·) := by
  unfold findings dueErrors
  simp only [List.map_append, map_told_classProblems, map_told_delegateProblems,
    apply_ite (List.map _), map_told_extendProblems, List.map_nil]

/-- There are findings exactly when errors are due. -/
theorem findings_eq_nil_iff {decl : TypeDecl} :
    findings table decl = [] ↔ dueErrors table decl = [] := by
  rw [← List.map_eq_nil_iff, map_told_findings, List.map_eq_nil_iff]

end Errors

/-! ## The verdict -/

/-- What is reported about a class of a name when the verdict on it is this one. -/
def Verdict.reported (type : ClassName) : Verdict → List Diagnostic
  | rejected problems => problems.map (Problem.diagnostic type)
  | accepted _ | deferred => []

section Verdict

variable {table : SymbolTable} {decl : TypeDecl}

/-- The checks of the class itself find what is wrong with it. -/
theorem classProblems_eq (table : SymbolTable) (decl : TypeDecl) : classProblems table decl =
    kindProblems decl ++ nestingProblems table decl ++ superclassProblems decl := by
  unfold classProblems kindProblems nestingProblems superclassProblems
  congr 1
  · rw [List.append_assoc]
    congr 1
    · by_cases isClass : decl.kind = .class_ <;> simp [isClass]
    · have implicit : table.isImplicitlyStatic decl.name =
          !(decl.name.enclosing?.bind table.lookup).all fun outer =>
            outer.kind ≠ .interface && outer.kind ≠ .annotationType := by
        unfold SymbolTable.isImplicitlyStatic
        cases decl.name.enclosing?.bind table.lookup with
        | none => rfl
        | some outer => cases kind : outer.kind <;> simp [TypeKind.makesMembersStatic, kind]
      rw [implicit]
      by_cases nested : decl.name.isNested
      · cases decl.has .static <;>
          cases (decl.name.enclosing?.bind table.lookup).all _ <;> simp [nested]
      · simp [nested]
  · cases decl.superclass with
    | absent => rfl
    | unresolved text => rfl
    | resolved found => by_cases same : found = decl.name.generated <;> simp [same]

/-- The check of the class to extend finds what is wrong with it. -/
theorem problems_superclassOf (table : SymbolTable) (extend? : Option String) :
    ((superclassOf table extend?).map (·.2)).getD [] = extendProblems table extend? := by
  cases extend? with
  | none => rfl
  | some value =>
      unfold superclassOf extendProblems SymbolTable.isUnsuited SymbolTable.shown
      cases resolved : table.resolve value with
      | missing => simp [resolved]
      | impossible => simp [resolved]
      | declared decl => by_cases isClass : decl.kind = .class_ <;> simp [resolved, isClass]

/-- There is no answer about the class to extend exactly when it is missing. -/
theorem superclassOf_eq_none_iff {extend? : Option String} : superclassOf table extend? = none ↔
    ∃ value ∈ extend?.toList, table.resolve value = .missing := by
  cases extend? with
  | none => simp [superclassOf]
  | some value =>
      unfold superclassOf
      cases resolved : table.resolve value with
      | missing => simp [resolved]
      | impossible => simp [resolved]
      | declared decl => by_cases isClass : decl.kind = .class_ <;> simp [resolved, isClass]

/-- A class is rejected for its findings.  Without findings it is put off if a value of its request
names a missing type, and accepted otherwise. -/
theorem validate_cases (table : SymbolTable) (decl : TypeDecl) :
    (findings table decl ≠ [] ∧ validate table decl = .rejected (findings table decl)) ∨
    (findings table decl = [] ∧ (∃ value ∈ decl.request.values, table.resolve value = .missing) ∧
      validate table decl = .deferred) ∨
    (findings table decl = [] ∧ (∀ value ∈ decl.request.values, table.resolve value ≠ .missing) ∧
      ∃ plan, validate table decl = .accepted plan) := by
  obtain ⟨complete, reflects⟩ := (Survey.reflects_empty table).addEntries decl.request.delegates
  simp only [List.nil_append, List.length_nil] at complete reflects
  cases surveyed : Survey.empty.addEntries table 0 decl.request.delegates with
  | mk answered survey =>
      rw [surveyed] at complete reflects
      change answered = true ↔ _ at complete
      generalize answer : (if answered then superclassOf table decl.request.extend? else none) =
        superclass?
      have found : findings table decl = kindProblems decl ++ nestingProblems table decl ++
          superclassProblems decl ++ survey.problems ++ (superclass?.map (·.2)).getD [] := by
        rw [findings, classProblems_eq, reflects.problems_eq, ← answer]
        congr 1
        cases answered with
        | true => rw [if_pos (complete.mp rfl), if_pos rfl, problems_superclassOf]
        | false => rw [if_neg (fun all => Bool.false_ne_true (complete.mpr all))]; rfl
      have missing_iff : superclass? = none ↔
          ∃ value ∈ decl.request.values, table.resolve value = .missing := by
        rw [Request.values, ← answer]
        cases answered with
        | true =>
            have there := complete.mp rfl
            rw [if_pos rfl, superclassOf_eq_none_iff]
            simp only [List.mem_append, or_and_right, exists_or]
            refine (or_iff_right ?_).symm
            rintro ⟨value, asked, missing⟩
            obtain ⟨entry, mem, rfl⟩ := List.mem_map.mp asked
            exact there entry mem missing
        | false =>
            have absent : ¬ ∀ entry ∈ decl.request.delegates,
                table.resolve entry.interface ≠ .missing := fun all =>
              Bool.false_ne_true (complete.mpr all)
            push Not at absent
            obtain ⟨entry, mem, missing⟩ := absent
            refine iff_of_true rfl ⟨entry.interface, ?_, missing⟩
            exact List.mem_append_left _ (List.mem_map_of_mem mem)
      simp only [validate, surveyed, answer]
      rw [← found]
      cases problems : findings table decl with
      | cons first rest => exact .inl ⟨List.cons_ne_nil _ _, rfl⟩
      | nil =>
          cases known : superclass? with
          | none => exact .inr (.inl ⟨rfl, missing_iff.mp known, rfl⟩)
          | some superclass =>
              refine .inr (.inr ⟨rfl, fun value asked missing => ?_, _, rfl⟩)
              have unknown := missing_iff.mpr ⟨value, asked, missing⟩
              rw [known] at unknown
              cases unknown

/-- What is reported about a class are the errors that are due, apart from the words. -/
theorem map_reported_validate (table : SymbolTable) (decl : TypeDecl) :
    ((validate table decl).reported decl.name).map (fun diagnostic =>
        (diagnostic.severity, diagnostic.code, diagnostic.location)) =
      (dueErrors table decl).map (Severity.error, ·) := by
  rw [← map_told_findings]
  rcases validate_cases table decl with
    ⟨-, verdict⟩ | ⟨none_found, -, verdict⟩ | ⟨none_found, -, plan, verdict⟩
  · rw [verdict, Verdict.reported, List.map_map]
    rfl
  · rw [verdict, none_found]
    rfl
  · rw [verdict, none_found]
    rfl

/-- A pass reports about a class what the verdict on it says.  What it adds is about the base class for
an accepted request: the methods that its delegates share, and what went wrong on the way to it. -/
theorem Pass.exists_diagnostics_process_eq {σ : Type} (options : Options) (output : Output σ)
    (table : SymbolTable) (pass : Pass σ) (decl : TypeDecl) :
    ∃ rest, (pass.process options output table decl).2.diagnostics =
        pass.diagnostics ++ (validate table decl).reported decl.name ++ rest ∧
      (rest = [] ∨ ∃ plan, validate table decl = .accepted plan) ∧
      ∀ diagnostic ∈ rest,
        diagnostic.code = .ambiguousMethod ∨ diagnostic.code = .internalException := by
  cases verdict : validate table decl with
  | rejected problems =>
      refine ⟨[], ?_, .inl rfl, nofun⟩
      simp [process, judge_eq_reject_iff.mpr verdict, reject, tell, Verdict.reported]
  | deferred =>
      refine ⟨[], ?_, .inl rfl, nofun⟩
      simp [process, judge, verdict, defer, Verdict.reported]
  | accepted plan =>
      have warned : ∀ {result : Synthesised}, ∀ diagnostic ∈
          result.collisions.map (Collision.diagnostic decl.name),
            diagnostic.code = .ambiguousMethod := by
        intro result diagnostic mem
        obtain ⟨collision, -, rfl⟩ := List.mem_map.mp mem
        rw [Collision.diagnostic_eq]
      cases judged : judge table decl with
      | reject problems => cases verdict.symm.trans (judge_eq_reject_iff.mp judged)
      | defer =>
          refine ⟨[], ?_, .inl rfl, nofun⟩
          simp [process, judged, defer, Verdict.reported]
      | fail contradiction =>
          refine ⟨[Fault.diagnostic decl.name (contradiction.fault decl.name)], ?_,
            .inr ⟨plan, rfl⟩, fun diagnostic mem => ?_⟩
          · simp [process, judged, abort, tell, note, Verdict.reported]
          · rw [List.mem_singleton.mp mem, Fault.diagnostic_eq]
            exact .inr rfl
      | generate result =>
          cases wrote : output.write pass.store result.base (render result.base options) with
          | mk answered store =>
              cases answered with
              | ok _ =>
                  refine ⟨result.collisions.map (Collision.diagnostic decl.name), ?_,
                    .inr ⟨plan, rfl⟩, fun diagnostic mem => .inl (warned diagnostic mem)⟩
                  simp [process, judged, generate, tell, note, wrote, record, Verdict.reported]
              | error fault =>
                  refine ⟨result.collisions.map (Collision.diagnostic decl.name) ++
                    [Fault.diagnostic decl.name fault], ?_, .inr ⟨plan, rfl⟩,
                    fun diagnostic mem => ?_⟩
                  · simp [process, judged, generate, tell, note, wrote, abort, Verdict.reported]
                  · rcases List.mem_append.mp mem with warning | error
                    · exact .inl (warned diagnostic warning)
                    · rw [List.mem_singleton.mp error, Fault.diagnostic_eq]
                      exact .inr rfl

/-- **The errors of a class, and the verdict on it.**  Whatever a pass has come to, it reports about a
class that it processes the errors that are due, in their order, and no other problem of the request;
if the request is accepted, reports about the base class may follow.  The class is rejected exactly if
errors are due; otherwise it is put off exactly if a value of its request names a missing type, and
accepted exactly if none does. -/
theorem validate_exact (table : SymbolTable) (decl : TypeDecl) :
    (∀ {σ : Type} (options : Options) (output : Output σ) (pass : Pass σ), ∃ told rest,
      (pass.process options output table decl).2.diagnostics = pass.diagnostics ++ told ++ rest ∧
      told.map (fun diagnostic => (diagnostic.severity, diagnostic.code, diagnostic.location)) =
        (dueErrors table decl).map (fun due => (.error, due.1, due.2)) ∧
      (rest = [] ∨ ∃ plan, validate table decl = .accepted plan) ∧
      ∀ diagnostic ∈ rest,
        diagnostic.code = .ambiguousMethod ∨ diagnostic.code = .internalException) ∧
    ((∃ problems, validate table decl = .rejected problems) ↔ dueErrors table decl ≠ []) ∧
    (validate table decl = .deferred ↔ dueErrors table decl = [] ∧
      ∃ value ∈ decl.request.values, table.resolve value = .missing) ∧
    ((∃ plan, validate table decl = .accepted plan) ↔ dueErrors table decl = [] ∧
      ∀ value ∈ decl.request.values, table.resolve value ≠ .missing) := by
  refine ⟨fun options output pass => ?_, ?_⟩
  · obtain ⟨rest, reported, accepted, others⟩ :=
      Pass.exists_diagnostics_process_eq options output table pass decl
    exact ⟨_, rest, reported, map_reported_validate table decl, accepted, others⟩
  simp only [ne_eq, ← findings_eq_nil_iff]
  rcases validate_cases table decl with
    ⟨some_found, verdict⟩ | ⟨none_found, missing, verdict⟩ | ⟨none_found, there, plan, verdict⟩
  · rw [verdict]
    exact ⟨iff_of_true ⟨_, rfl⟩ some_found, iff_of_false nofun fun both => some_found both.1,
      iff_of_false nofun fun both => some_found both.1⟩
  · rw [verdict, none_found]
    refine ⟨iff_of_false nofun fun found => found rfl, iff_of_true rfl ⟨rfl, missing⟩, ?_⟩
    obtain ⟨value, asked, missing⟩ := missing
    exact iff_of_false nofun fun both => both.2 value asked missing
  · rw [verdict, none_found]
    refine ⟨iff_of_false nofun fun found => found rfl, iff_of_false nofun ?_,
      iff_of_true ⟨plan, rfl⟩ ⟨rfl, there⟩⟩
    rintro ⟨-, value, asked, missing⟩
    exact there value asked missing

/-- The fourth entry names a missing type, so nothing is found about the fifth one and about the class
to extend. -/
example :
    let table := (Snapshot.sample
      [{ name := "foo.I", kind := .interface },
       { name := "foo.C", kind := .class_
         request? := some ⟨[⟨"foo.I", some "1"⟩, ⟨"foo.I", some "i"⟩, ⟨"foo.C", some "i"⟩,
           ⟨"foo.Gone", none⟩, ⟨"int", none⟩], some "foo.I"⟩ }]).table
    let type : ClassName := ⟨"foo", "C", []⟩
    (table.lookup type).map (dueErrors table) =
      some [(.superclassMismatch, .type type), (.invalidName, .delegate type 0),
        (.duplicateInterface, .delegate type 1), (.notInterface, .delegate type 2),
        (.duplicateName, .delegate type 2)] := by
  decide +kernel

end Verdict

end Delegation
