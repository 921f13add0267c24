import Delegation.Proofs.Acceptance
import Delegation.Proofs.Synthesis.Forwarding

/-!
# What a survey knows

Validation goes through the delegates of a class once and keeps what it has learned so far: the field
names asked for, the interfaces taken, and the problems.  The problems can be told without any of
this.  An entry is at fault by itself, or because of an entry before it; and whether an entry before
it counts does not depend on what was found about that entry.

## Main Definitions

* `SymbolTable.isUnsuited`, `SymbolTable.interfaceOf?` — what a value of the annotation denotes.
* `delegateProblems` — what is wrong with some entries, each by itself and by those before it.
* `Validation.Survey.Reflects` — a survey agrees with the entries that it has looked at.

## Main Statements

* `Validation.Survey.Reflects.addEntry`, `Validation.Survey.Reflects.addEntries` — a survey goes on to
  agree.
* `exists_reflects_of_validate` — an accepted plan comes from a survey without problems.
* `interface_of_validate`, `nodup_interface_of_validate`, `nodup_field_of_validate`,
  `isIdentifier_field_of_validate` — the delegates of an accepted plan.
-/

namespace Delegation

open Java Validation

/-! ## What a value denotes -/

namespace SymbolTable

variable (table : SymbolTable)

/-- Whether a value is known not to denote a declaration of the kind: it denotes one of another kind,
or can never denote any. -/
def isUnsuited (kind : TypeKind) (value : String) : Bool :=
  match table.resolve value with
  | .missing => false
  | .impossible => true
  | .declared decl => decl.kind ≠ kind

/-- How a value is told in a message: by the name of what it denotes, or else as it is written. -/
def shown (value : String) : String :=
  match table.resolve value with
  | .declared decl => decl.name.qualified
  | .missing | .impossible => value

/-- The interface that a value denotes, if it denotes one. -/
def interfaceOf? (value : String) : Option ClassName :=
  match table.resolve value with
  | .declared decl => if decl.kind = .interface then some decl.name else none
  | .missing | .impossible => none

variable {table}

/-- The interface that a value denotes is visible under its own name. -/
theorem Lawful.exists_of_interfaceOf? (lawful : table.Lawful) {value : String}
    {interface : ClassName} (denotes : table.interfaceOf? value = some interface) :
    ∃ decl, table.resolve value = .declared decl ∧ decl.kind = .interface ∧
      decl.name = interface ∧ table.lookup interface = some decl := by
  unfold interfaceOf? at denotes
  split at denotes
  case h_1 decl resolved =>
    split at denotes
    case isTrue isInterface =>
      cases denotes
      obtain ⟨name, -, found⟩ := resolve_eq_declared_iff.mp resolved
      obtain rfl := lawful name decl found
      exact ⟨decl, resolved, isInterface, rfl, found⟩
    case isFalse => cases denotes
  case h_2 => cases denotes
  case h_3 => cases denotes

end SymbolTable

/-! ## What is wrong with entries -/

/-- What is wrong with the field name of an entry, given the entries before it. -/
def fieldNameProblems (earlier : List DelegateEntry) (entry : DelegateEntry) : List Problem :=
  match entry.fieldName? with
  | none => []
  | some name =>
    if ¬ isIdentifier name then [.invalidName earlier.length name]
    else if ∃ other ∈ earlier, other.fieldName? = some name then
      [.duplicateName earlier.length name]
    else []

/-- What is wrong with the interface of an entry because of the entries before it. -/
def repetitionProblems (table : SymbolTable) (earlier : List DelegateEntry)
    (entry : DelegateEntry) : List Problem :=
  match table.interfaceOf? entry.interface with
  | none => []
  | some interface =>
    if ∃ other ∈ earlier, table.interfaceOf? other.interface = some interface then
      [.duplicateInterface earlier.length interface]
    else []

/-- What is wrong with an entry, given the entries before it. -/
def entryProblems (table : SymbolTable) (earlier : List DelegateEntry) (entry : DelegateEntry) :
    List Problem :=
  (if table.isUnsuited .interface entry.interface then
    [.notInterface earlier.length (table.shown entry.interface)] else []) ++
  (fieldNameProblems earlier entry ++ repetitionProblems table earlier entry)

/-- What is wrong with some entries, in their order. -/
def delegateProblems (table : SymbolTable) (entries : List DelegateEntry) : List Problem :=
  entries.zipIdx.flatMap fun (entry, index) => entryProblems table (entries.take index) entry

/-- One more entry has its own problems, and changes nothing about those before it. -/
theorem delegateProblems_concat (table : SymbolTable) (entries : List DelegateEntry)
    (entry : DelegateEntry) : delegateProblems table (entries ++ [entry]) =
      delegateProblems table entries ++ entryProblems table entries entry := by
  rw [delegateProblems, List.zipIdx_append, List.flatMap_append]
  congr 1
  · refine List.flatMap_congr fun ⟨other, index⟩ mem => ?_
    have within : index < 0 + entries.length := (List.mem_zipIdx mem).2.1
    show entryProblems table ((entries ++ [entry]).take index) other = _
    rw [List.take_append_of_le_length (by omega)]
  · simp

/-! ## The survey -/

namespace Validation.Survey

variable {table : SymbolTable} {survey survey' : Survey} {seen : List DelegateEntry}

/-- What is known after some entries: the identifiers among the field names that they ask for, the
interfaces that they stand for, and their problems.  Without problems, the names asked for are those
of the interfaces taken. -/
structure Reflects (table : SymbolTable) (seen : List DelegateEntry) (survey : Survey) : Prop where
  mem_names_iff : ∀ name, name ∈ survey.fieldNames ↔
    isIdentifier name ∧ ∃ entry ∈ seen, entry.fieldName? = some name
  mem_interfaces_iff : ∀ interface, interface ∈ survey.accepted.map (·.1) ↔
    ∃ entry ∈ seen, table.interfaceOf? entry.interface = some interface
  problems_eq : survey.problems = delegateProblems table seen
  nodup_names : survey.fieldNames.Nodup
  nodup_interfaces : (survey.accepted.map (·.1)).Nodup
  names_eq : survey.problems = [] → survey.accepted.filterMap (·.2) = survey.fieldNames

theorem reflects_empty (table : SymbolTable) : empty.Reflects table [] where
  mem_names_iff := by simp [empty]
  mem_interfaces_iff := by simp [empty]
  problems_eq := rfl
  nodup_names := List.nodup_nil
  nodup_interfaces := List.nodup_nil
  names_eq _ := rfl

/-! ### One entry -/

@[simp] theorem accepted_report (survey : Survey) (problem : Problem) :
    (survey.report problem).accepted = survey.accepted := rfl

@[simp] theorem accepted_checkName (survey : Survey) (index : Nat) (asked : Option String) :
    (survey.checkName index asked).accepted = survey.accepted := by
  unfold checkName
  split
  · rfl
  · split
    · rfl
    · split <;> rfl

/-- What looking at an entry comes to, once its interface is there. -/
theorem cases_of_addEntry {index : Nat} {entry : DelegateEntry}
    (added : survey.addEntry table index entry = some survey') :
    (table.isUnsuited .interface entry.interface ∧ table.interfaceOf? entry.interface = none ∧
      survey' = (survey.report (.notInterface index (table.shown entry.interface))).checkName index
        entry.fieldName?) ∨
    (¬ table.isUnsuited .interface entry.interface ∧ ∃ interface,
      table.interfaceOf? entry.interface = some interface ∧
      survey' = (survey.checkName index entry.fieldName?).accept index interface
        entry.fieldName?) := by
  unfold SymbolTable.isUnsuited SymbolTable.interfaceOf? SymbolTable.shown
  unfold addEntry at added
  cases resolved : table.resolve entry.interface with
  | missing => simp [resolved] at added
  | impossible =>
      simp only [resolved, Option.some.injEq] at added
      exact .inl ⟨rfl, rfl, added.symm⟩
  | declared decl =>
      by_cases isInterface : decl.kind = .interface
      · simp only [resolved, if_pos isInterface, Option.some.injEq] at added
        exact .inr ⟨by simp [isInterface], decl.name, if_pos isInterface, added.symm⟩
      · simp only [resolved, if_neg isInterface, Option.some.injEq] at added
        exact .inl ⟨by simp [isInterface], if_neg isInterface, added.symm⟩

/-- There is nothing to be said about an entry whose interface is missing. -/
theorem addEntry_eq_none_iff {index : Nat} {entry : DelegateEntry} :
    survey.addEntry table index entry = none ↔ table.resolve entry.interface = .missing := by
  unfold addEntry
  cases table.resolve entry.interface with
  | missing => simp
  | impossible => simp
  | declared decl => by_cases isInterface : decl.kind = .interface <;> simp [isInterface]

/-- A field name that is asked for is noted if it is an identifier. -/
theorem mem_fieldNames_checkName {index : Nat} {asked : Option String} {name : String} :
    name ∈ (survey.checkName index asked).fieldNames ↔
      name ∈ survey.fieldNames ∨ isIdentifier name ∧ asked = some name := by
  cases asked with
  | none => simp [checkName]
  | some wanted =>
      by_cases identifier : isIdentifier wanted
      · by_cases known : wanted ∈ survey.fieldNames
        · simp only [checkName, identifier, known, Bool.not_true, Bool.false_eq_true, if_false,
            if_true, Option.some.injEq]
          refine ⟨.inl, ?_⟩
          rintro (before | ⟨-, rfl⟩)
          · exact before
          · exact known
        · simp only [checkName, identifier, known, Bool.not_true, Bool.false_eq_true, if_false,
            Option.some.injEq, List.mem_append, List.mem_singleton]
          refine or_congr_right ⟨?_, fun ⟨_, same⟩ => same.symm⟩
          rintro rfl
          exact ⟨identifier, rfl⟩
      · simp only [checkName, identifier, Bool.not_false, if_true, Option.some.injEq]
        refine ⟨.inl, ?_⟩
        rintro (before | ⟨isName, rfl⟩)
        · exact before
        · exact absurd isName identifier

/-- The problems with a field name are those that the entries before it give cause for. -/
theorem problems_checkName
    (known : ∀ name, name ∈ survey.fieldNames ↔
      isIdentifier name ∧ ∃ entry ∈ seen, entry.fieldName? = some name) (entry : DelegateEntry) :
    (survey.checkName seen.length entry.fieldName?).problems =
      survey.problems ++ fieldNameProblems seen entry := by
  unfold checkName fieldNameProblems
  cases entry.fieldName? with
  | none => simp
  | some name =>
      by_cases identifier : isIdentifier name
      · by_cases asked : ∃ other ∈ seen, other.fieldName? = some name
        · have noted : name ∈ survey.fieldNames := (known name).mpr ⟨identifier, asked⟩
          simp [identifier, asked, noted, report]
        · have fresh : name ∉ survey.fieldNames := fun mem => asked ((known name).mp mem).2
          simp [identifier, asked, fresh]
      · simp [identifier, report]

/-- No field name is noted twice. -/
theorem nodup_fieldNames_checkName (nodup : survey.fieldNames.Nodup) (index : Nat)
    (asked : Option String) : (survey.checkName index asked).fieldNames.Nodup := by
  unfold checkName
  split
  · exact nodup
  · split
    · exact nodup
    · split
      · exact nodup
      · rename_i fresh
        exact List.nodup_append.mpr ⟨nodup, List.nodup_singleton _,
          fun old mem new last => by rintro rfl; exact fresh (List.mem_singleton.mp last ▸ mem)⟩

/-- A field name that is asked for without a problem is noted. -/
theorem fieldNames_checkName_of_clean {index : Nat} {asked : Option String}
    (clean : (survey.checkName index asked).problems = []) :
    survey.problems = [] ∧
      (survey.checkName index asked).fieldNames = survey.fieldNames ++ asked.toList := by
  unfold checkName at clean ⊢
  split
  · exact ⟨clean, by simp⟩
  · split
    · simp_all [report]
    · split
      · simp_all [report]
      · simp_all

/-- An interface that is taken already is not taken again. -/
theorem accept_of_mem {interface : ClassName} (taken : interface ∈ survey.accepted.map (·.1))
    (index : Nat) (asked : Option String) :
    survey.accept index interface asked = survey.report (.duplicateInterface index interface) := by
  refine if_pos ?_
  simpa using taken

/-- An interface that is new is taken. -/
theorem accept_of_notMem {interface : ClassName} (new : interface ∉ survey.accepted.map (·.1))
    (index : Nat) (asked : Option String) : survey.accept index interface asked =
      { survey with accepted := survey.accepted ++ [(interface, asked)] } := by
  refine if_neg ?_
  simpa using new

/-- The field names that are noted after one more entry. -/
theorem mem_fieldNames_concat
    (known : ∀ name, name ∈ survey.fieldNames ↔
      isIdentifier name ∧ ∃ entry ∈ seen, entry.fieldName? = some name)
    (index : Nat) (entry : DelegateEntry) (name : String) :
    name ∈ (survey.checkName index entry.fieldName?).fieldNames ↔
      isIdentifier name ∧ ∃ other ∈ seen ++ [entry], other.fieldName? = some name := by
  rw [mem_fieldNames_checkName, known, ← and_or_left]
  simp [or_and_right, exists_or]

/-- **A survey goes on to agree with one more entry.** -/
theorem Reflects.addEntry (reflects : survey.Reflects table seen) {entry : DelegateEntry}
    (added : survey.addEntry table seen.length entry = some survey') :
    survey'.Reflects table (seen ++ [entry]) := by
  obtain ⟨known, interfaces, problems, names, distinct, asked⟩ := reflects
  rcases cases_of_addEntry added with
    ⟨unsuited, undenoted, rfl⟩ | ⟨suited, interface, denoted, rfl⟩
  -- No interface is taken, and that is a problem.
  · have noted : ∀ name, name ∈ (survey.report
        (.notInterface seen.length (table.shown entry.interface))).fieldNames ↔
          isIdentifier name ∧ ∃ other ∈ seen, other.fieldName? = some name := known
    constructor
    · exact mem_fieldNames_concat noted _ entry
    · intro interface
      rw [accepted_checkName, accepted_report, interfaces]
      simp [or_and_right, exists_or, undenoted]
    · rw [problems_checkName noted, delegateProblems_concat,
        entryProblems, if_pos unsuited, repetitionProblems, undenoted, ← problems]
      simp [report]
    · exact nodup_fieldNames_checkName (show (survey.report _).fieldNames.Nodup from names) _ _
    · rwa [accepted_checkName]
    · intro clean
      have before := (fieldNames_checkName_of_clean clean).1
      simp [report] at before
  -- Both the names and the interfaces may have come before, independently of each other.
  · have entry_eq : entryProblems table seen entry = fieldNameProblems seen entry ++
        if interface ∈ survey.accepted.map (·.1) then [.duplicateInterface seen.length interface]
        else [] := by
      rw [entryProblems, if_neg suited, repetitionProblems, denoted, List.nil_append]
      simp only [interfaces]
    have mem_iff : ∀ other, other ∈ survey.accepted.map (·.1) ∨ other = interface ↔
        ∃ earlier ∈ seen ++ [entry], table.interfaceOf? earlier.interface = some other := by
      intro other
      rw [interfaces]
      simp [or_and_right, exists_or, denoted, eq_comm]
    by_cases taken : interface ∈ survey.accepted.map (·.1)
    · rw [accept_of_mem (by rwa [accepted_checkName])]
      constructor
      · exact mem_fieldNames_concat known _ entry
      · intro other
        rw [accepted_report, accepted_checkName, ← mem_iff]
        refine ⟨.inl, ?_⟩
        rintro (before | rfl)
        · exact before
        · exact taken
      · rw [delegateProblems_concat, entry_eq, if_pos taken, ← problems]
        show (survey.checkName seen.length entry.fieldName?).problems ++ _ = _
        rw [problems_checkName known, List.append_assoc]
      · exact nodup_fieldNames_checkName names _ _
      · rwa [accepted_report, accepted_checkName]
      · intro clean
        simp [report] at clean
    · rw [accept_of_notMem (by rwa [accepted_checkName]), accepted_checkName]
      constructor
      · exact mem_fieldNames_concat known _ entry
      · intro other
        rw [List.map_append, List.mem_append, ← mem_iff]
        exact or_congr_right List.mem_singleton
      · rw [delegateProblems_concat, entry_eq, if_neg taken, List.append_nil, ← problems]
        exact problems_checkName known entry
      · exact nodup_fieldNames_checkName names _ _
      · rw [List.map_append, List.nodup_append]
        refine ⟨distinct, List.nodup_singleton _, fun other mem new last => ?_⟩
        obtain rfl : new = interface := List.mem_singleton.mp last
        rintro rfl
        exact taken mem
      · intro clean
        obtain ⟨before, noted⟩ := fieldNames_checkName_of_clean clean
        show (survey.accepted ++ [(interface, entry.fieldName?)]).filterMap (·.2) = _
        rw [List.filterMap_append, asked before, noted]
        cases entry.fieldName? <;> rfl

/-- **A survey goes on to agree with all entries up to the first one whose interface is missing**, and
tells whether there is one. -/
theorem Reflects.addEntries (reflects : survey.Reflects table seen) (asked : List DelegateEntry) :
    ((survey.addEntries table seen.length asked).1 = true ↔
      ∀ entry ∈ asked, table.resolve entry.interface ≠ .missing) ∧
    (survey.addEntries table seen.length asked).2.Reflects table
      (seen ++ asked.takeWhile (table.resolve ·.interface ≠ .missing)) := by
  induction asked generalizing survey seen with
  | nil => simpa [Survey.addEntries] using reflects
  | cons entry rest ih =>
      cases added : survey.addEntry table seen.length entry with
      | none =>
          have missing := addEntry_eq_none_iff.mp added
          simpa [Survey.addEntries, added, missing] using reflects
      | some survey' =>
          have there : table.resolve entry.interface ≠ .missing := fun missing => by
            rw [addEntry_eq_none_iff.mpr missing] at added
            cases added
          obtain ⟨complete, reflects'⟩ := ih (reflects.addEntry added)
          rw [List.length_append, List.length_singleton] at complete reflects'
          simp only [Survey.addEntries, added]
          rw [List.takeWhile_cons_of_pos (by simpa using there), List.forall_mem_cons]
          refine ⟨complete.trans (and_iff_right there).symm, ?_⟩
          rwa [List.append_assoc] at reflects'

end Validation.Survey

/-! ## The delegates of a plan -/

section Plans

variable {table : SymbolTable} {decl : TypeDecl} {plan : Plan}

/-- An accepted plan has the delegates of a survey that has looked at all entries and found no
problem. -/
theorem exists_reflects_of_validate (accepted : validate table decl = .accepted plan) :
    ∃ survey : Survey, survey.Reflects table decl.request.delegates ∧ survey.problems = [] ∧
      plan.delegates = delegates survey.accepted := by
  obtain ⟨survey, superclass, surveyed, -, -, -, -, clean, rfl⟩ :=
    validate_eq_accepted_iff.mp accepted
  obtain ⟨complete, reflects⟩ := (Survey.reflects_empty table).addEntries decl.request.delegates
  simp only [List.nil_append, List.length_nil, surveyed, true_iff] at complete reflects
  rw [List.takeWhile_eq_self_iff.mpr (by simpa using complete)] at reflects
  exact ⟨survey, reflects, clean, rfl⟩

/-- Every delegate of an accepted plan has a visible interface. -/
theorem interface_of_validate (lawful : table.Lawful)
    (accepted : validate table decl = .accepted plan) {delegate : Delegate}
    (mem : delegate ∈ plan.delegates) :
    ∃ decl, table.lookup delegate.interface = some decl ∧ decl.kind = .interface := by
  obtain ⟨survey, reflects, -, same⟩ := exists_reflects_of_validate accepted
  have listed := List.mem_map_of_mem (f := Delegate.interface) mem
  rw [same, map_interface_delegates] at listed
  obtain ⟨entry, -, denotes⟩ := (reflects.mem_interfaces_iff _).mp listed
  obtain ⟨interface, -, isInterface, -, found⟩ := lawful.exists_of_interfaceOf? denotes
  exact ⟨interface, found, isInterface⟩

/-- The delegates of an accepted plan have different interfaces. -/
theorem nodup_interface_of_validate (accepted : validate table decl = .accepted plan) :
    (plan.delegates.map (·.interface)).Nodup := by
  obtain ⟨survey, reflects, -, same⟩ := exists_reflects_of_validate accepted
  rw [same, map_interface_delegates]
  exact reflects.nodup_interfaces

/-- The delegates of an accepted plan have different fields. -/
theorem nodup_field_of_validate (accepted : validate table decl = .accepted plan) :
    (plan.delegates.map (·.field)).Nodup := by
  obtain ⟨survey, reflects, clean, same⟩ := exists_reflects_of_validate accepted
  rw [same]
  exact nodup_field_delegates (reflects.names_eq clean ▸ reflects.nodup_names)

/-- The fields of an accepted plan can be written in a source. -/
theorem isIdentifier_field_of_validate (accepted : validate table decl = .accepted plan)
    {field : String} (mem : field ∈ plan.delegates.map (·.field)) : isIdentifier field := by
  obtain ⟨survey, reflects, clean, same⟩ := exists_reflects_of_validate accepted
  rw [same] at mem
  refine isIdentifier_field_delegates (fun name asked => ?_) mem
  rw [reflects.names_eq clean] at asked
  exact ((reflects.mem_names_iff name).mp asked).1

end Plans

end Delegation
