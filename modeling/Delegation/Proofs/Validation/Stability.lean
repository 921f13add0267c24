import Delegation.Proofs.Snapshot.Advance
import Delegation.Proofs.Validation.Agreement
import Delegation.Proofs.Validation.Findings

/-!
# Verdicts that stay

A class whose request has been accepted may be looked at again later, when there are more types.  What
the request names is there already and stays what it is, so nothing that comes later matters to the
verdict, with one exception.  The superclass clause of the class may have named nothing that is
visible; as soon as it names something, and not the base class, the class is rejected for that alone.

## Main Statements

* `SymbolTable.GrowsTo.sense_eq` — what a value denotes, it goes on to denote.
* `Snapshot.Advances.superclassOf_eq` — a superclass clause that means a class goes on to mean it.
* `validate_withSuperclass` — an accepted request under another superclass.
* `Snapshot.Advances.validation_stable` — values and verdicts in a snapshot that moves forward.
-/

namespace Delegation

open Java Validation

/-! ## What a request names -/

namespace SymbolTable.GrowsTo

variable {table later : SymbolTable}

/-- A value that denotes a type goes on to denote it, with the same name and kind. -/
theorem sense_eq_type (grows : table.GrowsTo later) {value : String} {name : ClassName}
    {kind : TypeKind} (denotes : table.sense value = .type name kind) :
    later.sense value = .type name kind := by
  obtain ⟨decl, resolved, named, isKind⟩ := sense_eq_type_iff.mp denotes
  obtain ⟨written, read, found⟩ := resolve_eq_declared_iff.mp resolved
  obtain ⟨superclass, foundLater⟩ := grows written decl found
  exact sense_eq_type_iff.mpr
    ⟨_, resolve_eq_declared_iff.mpr ⟨written, read, foundLater⟩, named, isKind⟩

/-- A value that is not missing goes on to denote what it denotes. -/
theorem sense_eq (grows : table.GrowsTo later) {value : String}
    (there : table.resolve value ≠ .missing) :
    table.sense value = later.sense value := by
  cases denotes : table.sense value with
  | type name kind => exact (grows.sense_eq_type denotes).symm
  | missing => exact absurd (sense_eq_missing_iff.mp denotes) there
  | impossible =>
      have never := resolve_eq_impossible_iff.mp (sense_eq_impossible_iff.mp denotes)
      exact (sense_eq_impossible_iff.mpr (resolve_eq_impossible_iff.mpr never)).symm

/-- A type that makes its members static goes on to do so. -/
theorem isImplicitlyStatic (grows : table.GrowsTo later) {name : ClassName}
    (static : table.isImplicitlyStatic name) : later.isImplicitlyStatic name := by
  obtain ⟨outer, enclosing, makes⟩ := (Option.any_eq_true ..).mp static
  obtain ⟨outerName, encloses, found⟩ := Option.bind_eq_some_iff.mp enclosing
  obtain ⟨superclass, foundLater⟩ := grows outerName outer found
  exact (Option.any_eq_true ..).mpr
    ⟨_, Option.bind_eq_some_iff.mpr ⟨outerName, encloses, foundLater⟩, makes⟩

/-- A class that is nested without problems stays so. -/
theorem nestingProblems_eq_nil (grows : table.GrowsTo later) {decl : TypeDecl}
    (none_found : nestingProblems table decl = []) : nestingProblems later decl = [] := by
  by_cases nested : decl.name.isNested
  · rw [nestingProblems, if_pos nested, List.append_eq_nil_iff] at none_found ⊢
    refine ⟨none_found.1, if_pos ?_⟩
    by_contra inner
    refine List.cons_ne_nil _ _ ((if_neg fun static => inner ?_).symm.trans none_found.2)
    rw [Bool.or_eq_true] at static ⊢
    exact static.imp_right grows.isImplicitlyStatic
  · rw [nestingProblems, if_neg nested]

end SymbolTable.GrowsTo

/-- Where a request has been accepted, nothing that it names is missing. -/
theorem values_of_accepted {table : SymbolTable} {decl : TypeDecl} {plan : Plan}
    (accepted : validate table decl = .accepted plan) :
    ∀ value ∈ decl.request.values, table.resolve value ≠ .missing := by
  rcases validate_cases table decl with ⟨-, rejected⟩ | ⟨-, -, deferred⟩ | ⟨-, there, -⟩
  · rw [accepted] at rejected
    cases rejected
  · rw [accepted] at deferred
    cases deferred
  · exact there

/-! ## The superclass clause -/

namespace Snapshot.Advances

variable {snapshot later : Snapshot}

/-- A superclass clause goes on to mean what it means, unless it means nothing yet. -/
theorem superclassOf_eq (advances : snapshot.Advances later) (reached : snapshot.Reached)
    {entry : Entry} (known : ∀ text, snapshot.superclassOf entry ≠ .unresolved text) :
    later.superclassOf entry = snapshot.superclassOf entry := by
  cases means : snapshot.superclassOf entry with
  | unresolved text => exact absurd means (known text)
  | resolved name =>
      obtain ⟨named, shown⟩ := superclassOf_eq_resolved_iff.mp means
      exact superclassOf_eq_resolved_iff.mpr
        ⟨named, shown.imp_right (advances.growsTo reached).isVisible⟩
  | absent =>
      -- Only what is no class, or the root class, extends nothing.
      by_cases nothing : entry.decl.kind ≠ .class_ || entry.name = .object
      · rw [superclassOf, if_pos nothing]
      · rw [superclassOf, if_neg nothing] at means
        split at means
        · cases means
        · split at means
          · split at means <;> cases means
          · cases means

end Snapshot.Advances

/-- A superclass is a problem when it is visible and is not the base class. -/
theorem superclassProblems_ne_nil_iff {decl : TypeDecl} : superclassProblems decl ≠ [] ↔
    ∃ found, decl.superclass = .resolved found ∧ found ≠ decl.name.generated ∧
      superclassProblems decl = [.foreignSuperclass found] := by
  unfold superclassProblems
  cases decl.superclass with
  | absent => simp
  | unresolved text => simp
  | resolved found => by_cases same : found = decl.name.generated <;> simp [same]

/-- An accepted request is judged under another superclass by that alone. -/
theorem validate_withSuperclass {table : SymbolTable} {decl : TypeDecl} {plan : Plan}
    (accepted : validate table decl = .accepted plan) (superclass : Superclass) :
    let other := { decl with superclass }
    validate table other = if superclassProblems other = [] then .accepted plan
      else .rejected (superclassProblems other) := by
  obtain ⟨survey, extended, surveyed, found, kind, nesting, -, clean, rfl⟩ :=
    validate_eq_accepted_iff.mp accepted
  intro other
  have surveyedOther : Survey.empty.addEntries table 0 other.request.delegates = (true, survey) :=
    surveyed
  have foundOther : superclassOf table other.request.extend? = some (extended, []) := found
  have kindOther : kindProblems other = [] := kind
  have nestingOther : nestingProblems table other = [] := nesting
  simp only [validate, surveyedOther, foundOther, kindOther, nestingOther, clean, if_true,
    List.nil_append, List.append_nil, Option.map_some, Option.getD_some]
  cases superclassProblems other with
  | nil => rfl
  | cons problem rest => rfl

/-- So it is in a table that has grown. -/
theorem SymbolTable.GrowsTo.validate_eq {table later : SymbolTable} (grows : table.GrowsTo later)
    (rooted : table.root = later.root) {decl : TypeDecl} {plan : Plan}
    (accepted : validate table decl = .accepted plan) (superclass : Superclass) :
    let grown := { decl with superclass }
    validate later grown = if superclassProblems grown = [] then .accepted plan
      else .rejected (superclassProblems grown) := by
  intro grown
  obtain ⟨-, -, -, -, -, nesting, -⟩ := validate_eq_accepted_iff.mp accepted
  have nestingGrown : nestingProblems table grown = [] := nesting
  have there := values_of_accepted accepted
  change ∀ value ∈ grown.request.values, table.resolve value ≠ .missing at there
  have agree : validate table grown = validate later grown := by
    refine validate_congr rooted ?_ fun value mem => grows.sense_eq (there value mem)
    rw [nestingGrown, grows.nestingProblems_eq_nil nestingGrown]
  rw [← agree]
  exact validate_withSuperclass accepted superclass

/-! ## Snapshots -/

namespace Snapshot

variable {snapshot later : Snapshot}

/-- **Validation stays the same as a snapshot moves forward.**  A value that denotes a type goes on to
denote the type of this name, which stays of its kind, and a value that can never denote a type still
cannot.  A class that is accepted is accepted again with the same plan, or it is rejected because its
superclass clause, which meant nothing before, now means something else than the base class. -/
theorem Advances.validation_stable (advances : snapshot.Advances later)
    (reached : snapshot.Reached) :
    (∀ value decl, snapshot.table.resolve value = .declared decl → ∃ grown,
      later.table.resolve value = .declared grown ∧ grown.name = decl.name ∧
        grown.kind = decl.kind) ∧
    (∀ value, snapshot.table.resolve value = .impossible →
      later.table.resolve value = .impossible) ∧
    ∀ type decl plan, snapshot.lookup type = some decl →
      validate snapshot.table decl = .accepted plan → ∃ grown, later.lookup type = some grown ∧
        (validate later.table grown = .accepted plan ∨
          ∃ text found, decl.superclass = .unresolved text ∧ grown.superclass = .resolved found ∧
            found ≠ type.generated ∧
            validate later.table grown = .rejected [.foreignSuperclass found]) := by
  have grows := advances.growsTo reached
  refine ⟨fun value decl resolved => ?_, fun value never => ?_, fun type decl plan found accepted => ?_⟩
  · exact SymbolTable.sense_eq_type_iff.mp (grows.sense_eq_type
      (SymbolTable.sense_eq_type_iff.mpr ⟨decl, resolved, rfl, rfl⟩))
  · exact SymbolTable.resolve_eq_impossible_iff.mpr (SymbolTable.resolve_eq_impossible_iff.mp never)
  · obtain ⟨entry, mem, rfl, appeared, rfl⟩ := reached.lookup_eq_some_iff.mp found
    set decl := (snapshot.reread entry).decl
    set grown := (later.reread entry).decl
    have foundLater : later.lookup entry.name = some grown :=
      (advances.reached reached).lookup_eq_some_iff.mpr ⟨entry,
        advances.written_prefix.subset mem, rfl, appeared.trans advances.round_le, rfl⟩
    refine ⟨grown, foundLater, ?_⟩
    have judged : validate later.table grown = if superclassProblems grown = []
        then .accepted plan else .rejected (superclassProblems grown) :=
      grows.validate_eq rfl accepted (later.superclassOf entry)
    rw [judged]
    by_cases clean : superclassProblems grown = []
    · exact .inl (if_pos clean)
    · obtain ⟨named, resolved, foreign, problem⟩ := superclassProblems_ne_nil_iff.mp clean
      obtain ⟨text, unknown⟩ : ∃ text, decl.superclass = .unresolved text := by
        by_contra known
        push Not at known
        have stays : grown = decl :=
          congrArg (fun superclass => { entry.decl with superclass })
            (advances.superclassOf_eq reached known)
        obtain ⟨-, -, -, -, -, -, clause, -⟩ := validate_eq_accepted_iff.mp accepted
        exact clean (stays ▸ clause)
      refine .inr ⟨text, named, unknown, resolved, foreign, ?_⟩
      rw [← problem]
      exact if_neg clean

/-- Two classes that can be accepted in the first round.  The clause of one names a class that is still
to come, the clause of the other its base class. -/
def lateSuperclass : List TypeDefinition :=
  [{ name := "foo.Late", kind := .class_, round := 2 },
   { name := "foo.I", kind := .interface },
   { name := "foo.C", kind := .class_, extends? := some "foo.Late"
     request? := some ⟨[⟨"foo.I", none⟩], none⟩ },
   { name := "foo.D", kind := .class_, extends? := some "foo.AutoDelegate_D"
     request? := some ⟨[⟨"foo.I", some "i"⟩], some "foo.D"⟩ }]

/-- After a class has joined and a round has passed, one of them is accepted as before, and the other
is rejected for its clause. -/
theorem validation_stable_lateSuperclass :
    let snapshot := sample lateSuperclass
    let base : BaseClass := ⟨⟨"foo", "AutoDelegate_D", []⟩, ⟨"foo", "D", []⟩, [], [], [], []⟩
    let later := ((snapshot.perform (.register base)).2.perform (.setRound 2)).2
    let ofC := (snapshot.lookup ⟨"foo", "C", []⟩).getD default
    let ofD := (snapshot.lookup ⟨"foo", "D", []⟩).getD default
    let planOfC : Plan := ⟨⟨"foo", "C", []⟩, ⟨"foo", "AutoDelegate_C", []⟩, .object,
      [⟨⟨"foo", "I", []⟩, "__I_unlikelyToConflictWithExistingMember"⟩]⟩
    let planOfD : Plan := ⟨⟨"foo", "D", []⟩, ⟨"foo", "AutoDelegate_D", []⟩, ⟨"foo", "D", []⟩,
      [⟨⟨"foo", "I", []⟩, "i"⟩]⟩
    snapshot.Reached ∧ snapshot.Advances later ∧
    snapshot.lookup ⟨"foo", "C", []⟩ = some ofC ∧ snapshot.lookup ⟨"foo", "D", []⟩ = some ofD ∧
    validate snapshot.table ofC = .accepted planOfC ∧
    validate snapshot.table ofD = .accepted planOfD ∧
    (∃ grown found, later.lookup ⟨"foo", "C", []⟩ = some grown ∧
      grown.superclass = .resolved found ∧
      validate later.table grown = .rejected [.foreignSuperclass found]) ∧
    ∃ grown, later.lookup ⟨"foo", "D", []⟩ = some grown ∧ ofD.superclass ≠ grown.superclass ∧
      validate later.table grown = .accepted planOfD := by
  intro snapshot base later ofC ofD planOfC planOfD
  have reached : snapshot.Reached := .read (ofTypes_sample (by decide +kernel))
  have advances : snapshot.Advances later := .moved (.joined .refl base) (by decide +kernel)
  have foundC : snapshot.lookup ⟨"foo", "C", []⟩ = some ofC := by decide +kernel
  have foundD : snapshot.lookup ⟨"foo", "D", []⟩ = some ofD := by decide +kernel
  have acceptedC : validate snapshot.table ofC = .accepted planOfC := by decide +kernel
  have acceptedD : validate snapshot.table ofD = .accepted planOfD := by decide +kernel
  obtain ⟨-, -, verdicts⟩ := advances.validation_stable reached
  refine ⟨reached, advances, foundC, foundD, acceptedC, acceptedD, ?_, ?_⟩
  · obtain ⟨grown, foundLater, verdict⟩ := verdicts _ ofC planOfC foundC acceptedC
    have changed : (later.lookup ⟨"foo", "C", []⟩).map (validate later.table) ≠
        some (.accepted planOfC) := by decide +kernel
    rw [foundLater] at changed
    obtain ⟨-, found, -, resolved, -, rejected⟩ := verdict.resolve_left fun accepted =>
      changed (congrArg some accepted)
    exact ⟨grown, found, foundLater, resolved, rejected⟩
  · obtain ⟨grown, foundLater, verdict⟩ := verdicts _ ofD planOfD foundD acceptedD
    have own : (later.lookup ⟨"foo", "D", []⟩).map (·.superclass) =
        some (.resolved ⟨"foo", "AutoDelegate_D", []⟩) := by decide +kernel
    have before : ofD.superclass = .unresolved "foo.AutoDelegate_D" := by decide +kernel
    rw [foundLater] at own
    have meant : grown.superclass = .resolved ⟨"foo", "AutoDelegate_D", []⟩ := Option.some.inj own
    refine ⟨grown, foundLater, by rw [before, meant]; nofun, verdict.resolve_right ?_⟩
    rintro ⟨-, found, -, resolved, foreign, -⟩
    rw [meant] at resolved
    cases resolved
    exact foreign (by decide +kernel)

end Snapshot

end Delegation
