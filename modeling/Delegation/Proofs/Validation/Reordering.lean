import Delegation.Proofs.Validation.Agreement
import Delegation.Proofs.Validation.Fields
import Delegation.Proofs.Validation.Findings
import Mathlib.Data.Finset.Card

/-!
# The order of delegates

Validation blames a repetition on the entry that comes later, so which entry is blamed depends on the
order of the entries.  How many are blamed does not: of the entries that stand for one interface all
but one are, and of those that ask for one field name all but one.  So the order decides neither
whether a class is rejected nor how often for which reason.

## Main Definitions

* `repetitions` — how many elements of a list have come before.
* `problemCount` — how many problems of each sort some entries have, whatever their order.
* `SymbolTable.SameTypes` — two tables show types of the same names and kinds.
* `AnswerAlike` — two plans differ at most in the order of the delegates and in made-up names.

## Main Statements

* `repetitions_perm` — the repetitions do not depend on the order.
* `count_code_delegateProblems` — the problems of some entries, counted.
* `perm_code_findings` — what is wrong with a class, in another order.
* `validate_reordered` — the verdict on a class with its delegates in another order.
-/

namespace Delegation

open Java Validation

/-! ## Repetitions -/

section Repetitions

variable {α κ : Type} [DecidableEq κ]

/-- How many elements of a list have come before: all but one of each kind. -/
def repetitions (keys : List κ) : Nat := keys.length - keys.toFinset.card

/-- One more element is a repetition if it has come before. -/
theorem repetitions_concat (keys : List κ) (key : κ) :
    repetitions (keys ++ [key]) = repetitions keys + if key ∈ keys then 1 else 0 := by
  have bound : keys.toFinset.card ≤ keys.length := List.toFinset_card_le keys
  have inserted : (keys ++ [key]).toFinset = insert key keys.toFinset := by
    ext other
    simp
  rw [repetitions, repetitions, inserted, List.length_append, List.length_singleton]
  by_cases known : key ∈ keys
  · rw [Finset.insert_eq_of_mem (List.mem_toFinset.mpr known), if_pos known]
    omega
  · rw [Finset.card_insert_of_notMem (known ∘ List.mem_toFinset.mp), if_neg known]
    omega

/-- In another order there are as many repetitions. -/
theorem repetitions_perm {keys others : List κ} (perm : keys.Perm others) :
    repetitions keys = repetitions others := by
  rw [repetitions, repetitions, perm.length_eq, List.toFinset_eq_of_perm _ _ perm]

/-- An element adds a repetition if it has a key that an earlier one has. -/
theorem repetitions_filterMap_concat (key? : α → Option κ) (earlier : List α) (a : α) :
    repetitions ((earlier ++ [a]).filterMap key?) = repetitions (earlier.filterMap key?) +
      if ∃ key, key? a = some key ∧ ∃ other ∈ earlier, key? other = some key then 1 else 0 := by
  rw [List.filterMap_append]
  cases keyed : key? a with
  | none => simp [keyed]
  | some key =>
      have single : [a].filterMap key? = [key] := by simp [keyed]
      rw [single, repetitions_concat]
      simp [List.mem_filterMap]

end Repetitions

/-! ## Counting problems -/

/-- The name of its field that an entry asks for, if it can be one. -/
def DelegateEntry.properName? (entry : DelegateEntry) : Option String :=
  entry.fieldName?.filter isIdentifier

/-- How many problems of a sort some entries have. -/
def problemCount (table : SymbolTable) (entries : List DelegateEntry) : Code → Nat
  | .notInterface => entries.countP fun entry => table.isUnsuited .interface entry.interface
  | .invalidName => entries.countP fun entry => entry.fieldName?.any (!isIdentifier ·)
  | .duplicateName => repetitions (entries.filterMap (·.properName?))
  | .duplicateInterface => repetitions (entries.filterMap (table.interfaceOf? ·.interface))
  | _ => 0

/-- The sorts of the problems with a field name.  An earlier entry that asks for the same name asks
for a proper one. -/
theorem map_code_fieldNameProblems (earlier : List DelegateEntry) (entry : DelegateEntry) :
    (fieldNameProblems earlier entry).map Problem.code =
      (if entry.fieldName?.any (!isIdentifier ·) then [.invalidName] else []) ++
      (if ∃ name, entry.properName? = some name ∧
          ∃ other ∈ earlier, other.properName? = some name then [.duplicateName] else []) := by
  unfold fieldNameProblems DelegateEntry.properName?
  cases entry.fieldName? with
  | none => simp
  | some name =>
      by_cases proper : isIdentifier name
      · by_cases asked : ∃ other ∈ earlier, other.fieldName? = some name <;>
          simp [proper, asked, Problem.code]
      · simp [proper, Problem.code]

/-- The sorts of the problems with a repeated interface. -/
theorem map_code_repetitionProblems (table : SymbolTable) (earlier : List DelegateEntry)
    (entry : DelegateEntry) : (repetitionProblems table earlier entry).map Problem.code =
      if ∃ interface, table.interfaceOf? entry.interface = some interface ∧
          ∃ other ∈ earlier, table.interfaceOf? other.interface = some interface then
        [.duplicateInterface] else [] := by
  unfold repetitionProblems
  cases table.interfaceOf? entry.interface with
  | none => simp
  | some interface =>
      by_cases taken : ∃ other ∈ earlier, table.interfaceOf? other.interface = some interface <;>
        simp [taken, Problem.code]

/-- A sort that stands there on a condition counts on that condition. -/
theorem count_ite_singleton (p : Prop) [Decidable p] (code other : Code) :
    (if p then [code] else []).count other = if p ∧ code = other then 1 else 0 := by
  by_cases here : p <;> by_cases same : code = other <;> simp [here, same]

/-- **The problems of some entries, counted.** -/
theorem count_code_delegateProblems (table : SymbolTable) (entries : List DelegateEntry)
    (code : Code) : ((delegateProblems table entries).map Problem.code).count code =
      problemCount table entries code := by
  induction entries using List.reverseRecOn with
  | nil => cases code <;> rfl
  | append_singleton entries entry ih =>
      have unsuited : ((if table.isUnsuited .interface entry.interface then
          [.notInterface entries.length (table.shown entry.interface)]
          else [] : List Problem).map Problem.code) =
          if table.isUnsuited .interface entry.interface then [.notInterface] else [] := by
        split <;> rfl
      rw [delegateProblems_concat, List.map_append, List.count_append, ih, entryProblems,
        List.map_append, List.map_append, unsuited, map_code_fieldNameProblems,
        map_code_repetitionProblems]
      simp only [List.count_append, count_ite_singleton]
      -- Each sort is counted by itself, and the entry has at most one problem of each.
      cases code
      case notInterface => simp [problemCount, List.countP_append, List.countP_singleton]
      case invalidName => simp [problemCount, List.countP_append, List.countP_singleton]
      case duplicateName =>
        rw [problemCount, problemCount, repetitions_filterMap_concat]
        simp
      case duplicateInterface =>
        rw [problemCount, problemCount, repetitions_filterMap_concat]
        simp
      all_goals simp [problemCount]

/-- The order of the entries does not matter to the number of problems. -/
theorem problemCount_perm (table : SymbolTable) {entries others : List DelegateEntry}
    (perm : entries.Perm others) (code : Code) :
    problemCount table entries code = problemCount table others code := by
  cases code
  case notInterface => exact perm.countP_eq _
  case invalidName => exact perm.countP_eq _
  case duplicateName => exact repetitions_perm (perm.filterMap _)
  case duplicateInterface => exact repetitions_perm (perm.filterMap _)
  all_goals rfl

/-- In another order, some entries have problems of the same sorts. -/
theorem perm_code_delegateProblems (table : SymbolTable) {entries others : List DelegateEntry}
    (perm : entries.Perm others) :
    ((delegateProblems table entries).map Problem.code).Perm
      ((delegateProblems table others).map Problem.code) := by
  refine List.perm_iff_count.mpr fun code => ?_
  rw [count_code_delegateProblems, count_code_delegateProblems, problemCount_perm table perm]

/-! ## Another order -/

/-- Two tables show types of the same names and kinds, and have the same root class.  How the types
are declared otherwise, and what is asked of them, may differ. -/
structure SymbolTable.SameTypes (first second : SymbolTable) : Prop where
  rooted : first.root = second.root
  shown : ∀ name, (first.lookup name).map (fun decl => (decl.name, decl.kind)) =
    (second.lookup name).map (fun decl => (decl.name, decl.kind))

namespace SymbolTable.SameTypes

variable {first second : SymbolTable}

/-- Every value denotes the same in both tables. -/
theorem sense_eq (same : first.SameTypes second) (value : String) :
    first.sense value = second.sense value := by
  unfold sense resolve
  cases (TypeName.ofText? value).bind TypeName.plainClass? with
  | none => rfl
  | some name =>
      have shown := same.shown name
      cases inFirst : first.lookup name <;> cases inSecond : second.lookup name <;>
        simp_all [Resolution.sense]

/-- The same types make their members static. -/
theorem isImplicitlyStatic_eq (same : first.SameTypes second) (name : ClassName) :
    first.isImplicitlyStatic name = second.isImplicitlyStatic name := by
  unfold isImplicitlyStatic
  cases name.enclosing? with
  | none => rfl
  | some outer =>
      have shown := same.shown outer
      cases inFirst : first.lookup outer <;> cases inSecond : second.lookup outer <;>
        simp_all

/-- A class is judged the same by both tables. -/
theorem validate_eq (same : first.SameTypes second) (decl : TypeDecl) :
    validate first decl = validate second decl := by
  refine validate_congr same.rooted ?_ fun value _ => same.sense_eq value
  rw [nestingProblems, nestingProblems, same.isImplicitlyStatic_eq]

end SymbolTable.SameTypes

/-- A declaration with other delegates in its request. -/
def TypeDecl.withDelegates (decl : TypeDecl) (entries : List DelegateEntry) : TypeDecl :=
  { decl with request? := some { decl.request with delegates := entries } }

section Reordered

variable {table : SymbolTable} {decl : TypeDecl} {entries : List DelegateEntry}

/-- The values of a request in another order are the same. -/
theorem mem_values_withDelegates (perm : entries.Perm decl.request.delegates) {value : String} :
    value ∈ (decl.withDelegates entries).request.values ↔ value ∈ decl.request.values := by
  change value ∈ entries.map _ ++ _ ↔ value ∈ decl.request.delegates.map _ ++ _
  rw [List.mem_append, List.mem_append, (perm.map _).mem_iff]
  rfl

/-- Where nothing is missing, all that is wrong can be told. -/
theorem findings_of_values (there : ∀ value ∈ decl.request.values, table.resolve value ≠ .missing) :
    findings table decl = classProblems table decl ++
      delegateProblems table decl.request.delegates ++ extendProblems table decl.request.extend? := by
  have all : ∀ entry ∈ decl.request.delegates, table.resolve entry.interface ≠ .missing :=
    fun entry mem => there _ (List.mem_append_left _ (List.mem_map_of_mem mem))
  have known : decl.request.delegates.takeWhile (table.resolve ·.interface ≠ .missing) =
      decl.request.delegates := List.takeWhile_eq_self_iff.mpr (by simpa using all)
  rw [findings, known, if_pos all]

/-- In another order the findings are of the same sorts. -/
theorem perm_code_findings (there : ∀ value ∈ decl.request.values, table.resolve value ≠ .missing)
    (perm : entries.Perm decl.request.delegates) :
    ((findings table decl).map Problem.code).Perm
      ((findings table (decl.withDelegates entries)).map Problem.code) := by
  have thereOther : ∀ value ∈ (decl.withDelegates entries).request.values,
      table.resolve value ≠ .missing := fun value mem =>
    there value ((mem_values_withDelegates perm).mp mem)
  rw [findings_of_values there, findings_of_values thereOther]
  simp only [List.map_append]
  exact ((perm_code_delegateProblems table perm.symm).append_left _).append_right _

/-- The interfaces of an accepted plan are those that the entries of the request stand for. -/
theorem map_interface_of_validate {plan : Plan} (accepted : validate table decl = .accepted plan) :
    plan.delegates.map (·.interface) =
      decl.request.delegates.filterMap (table.interfaceOf? ·.interface) := by
  have answered := forall₂_delegates_of_validate accepted
  generalize decl.request.delegates = asked at answered
  generalize plan.delegates = delegates at answered
  induction answered with
  | nil => rfl
  | cons both _ ih => simp only [List.map_cons, List.filterMap_cons, both.1, ih]

/-- An entry that asks for a field name gets it in an accepted plan. -/
theorem mem_delegates_of_validate {plan : Plan} (accepted : validate table decl = .accepted plan)
    {entry : DelegateEntry} (mem : entry ∈ decl.request.delegates) {name : String}
    (asked : entry.fieldName? = some name) : ∃ interface,
      table.interfaceOf? entry.interface = some interface ∧ ⟨interface, name⟩ ∈ plan.delegates := by
  have answered := forall₂_delegates_of_validate accepted
  obtain ⟨index, within, rfl⟩ := List.getElem_of_mem mem
  have withinDelegates : index < plan.delegates.length := answered.length_eq ▸ within
  obtain ⟨denotes, field⟩ := answered.get within withinDelegates
  refine ⟨_, denotes, ?_⟩
  rw [← field name asked]
  exact List.getElem_mem withinDelegates

end Reordered

/-- Two plans for one class, from the same entries in different orders: they differ at most in the
order of the delegates and in the fields of entries that ask for none. -/
structure AnswerAlike (table : SymbolTable) (entries : List DelegateEntry) (plan other : Plan) :
    Prop where
  annotated : plan.annotated = other.annotated
  target : plan.target = other.target
  superclass : plan.superclass = other.superclass
  interfaces : (plan.delegates.map (·.interface)).Perm (other.delegates.map (·.interface))
  /-- An entry that asks for a field name gets it from both. -/
  kept : ∀ entry ∈ entries, ∀ name, entry.fieldName? = some name → ∃ interface,
    table.interfaceOf? entry.interface = some interface ∧
      ⟨interface, name⟩ ∈ plan.delegates ∧ ⟨interface, name⟩ ∈ other.delegates

/-- Two plans accepted for one request in different orders answer it alike. -/
theorem answerAlike_of_validate {table : SymbolTable} {decl : TypeDecl}
    {entries : List DelegateEntry} {plan other : Plan} (perm : entries.Perm decl.request.delegates)
    (accepted : validate table decl = .accepted plan)
    (acceptedOther : validate table (decl.withDelegates entries) = .accepted other) :
    AnswerAlike table decl.request.delegates plan other := by
  obtain ⟨survey, superclass, -, found, -, -, -, -, planned⟩ := validate_eq_accepted_iff.mp accepted
  obtain ⟨surveyOther, superclassOther, -, foundOther, -, -, -, -, plannedOther⟩ :=
    validate_eq_accepted_iff.mp acceptedOther
  constructor
  · rw [planned, plannedOther]
    rfl
  · rw [planned, plannedOther]
    rfl
  · have agree : some (superclass, []) = some (superclassOther, []) := found.symm.trans foundOther
    cases agree
    rw [planned, plannedOther]
  · rw [map_interface_of_validate accepted, map_interface_of_validate acceptedOther]
    exact perm.symm.filterMap _
  · intro entry mem name asked
    obtain ⟨interface, denotes, listed⟩ := mem_delegates_of_validate accepted mem asked
    obtain ⟨interfaceOther, denotesOther, listedOther⟩ :=
      mem_delegates_of_validate acceptedOther (perm.mem_iff.mpr mem) asked
    obtain rfl := Option.some.inj (denotes.symm.trans denotesOther)
    exact ⟨interface, denotes, listed, listedOther⟩

/-- **The order of delegates decides neither whether a class is rejected nor for which reasons.**  A
class whose request names nothing that is missing is rejected with its delegates in any order or
accepted with them in any order.  Either way the same sorts of diagnostics are reported, each as often,
and the plans differ at most in the order of the delegates and in the names that are made up. -/
theorem validate_reordered {first second : SymbolTable} (same : first.SameTypes second)
    {decl : TypeDecl} {entries : List DelegateEntry}
    (there : ∀ value ∈ decl.request.values, first.resolve value ≠ .missing)
    (perm : entries.Perm decl.request.delegates) :
    ((∃ problems others, validate first decl = .rejected problems ∧
        validate second (decl.withDelegates entries) = .rejected others) ∨
      ∃ plan other, validate first decl = .accepted plan ∧
        validate second (decl.withDelegates entries) = .accepted other ∧
        AnswerAlike first decl.request.delegates plan other) ∧
    (((validate first decl).reported decl.name).map (·.code)).Perm
      (((validate second (decl.withDelegates entries)).reported decl.name).map (·.code)) := by
  rw [← same.validate_eq (decl.withDelegates entries)]
  have thereOther : ∀ value ∈ (decl.withDelegates entries).request.values,
      first.resolve value ≠ .missing := fun value mem =>
    there value ((mem_values_withDelegates perm).mp mem)
  have codes := perm_code_findings there perm
  rcases validate_cases first decl with
    ⟨some_found, rejected⟩ | ⟨-, ⟨value, mem, missing⟩, -⟩ | ⟨none_found, -, plan, accepted⟩
  · rcases validate_cases first (decl.withDelegates entries) with
      ⟨-, rejectedOther⟩ | ⟨-, ⟨value, mem, missing⟩, -⟩ | ⟨none_other, -, -⟩
    · refine ⟨.inl ⟨_, _, rejected, rejectedOther⟩, ?_⟩
      rw [rejected, rejectedOther]
      simp only [Verdict.reported, List.map_map]
      exact codes
    · exact absurd missing (thereOther value mem)
    · rw [none_other, List.map_nil, List.perm_nil, List.map_eq_nil_iff] at codes
      exact absurd codes some_found
  · exact absurd missing (there value mem)
  · rcases validate_cases first (decl.withDelegates entries) with
      ⟨some_other, -⟩ | ⟨-, ⟨value, mem, missing⟩, -⟩ | ⟨-, -, other, acceptedOther⟩
    · rw [none_found, List.map_nil, List.nil_perm, List.map_eq_nil_iff] at codes
      exact absurd codes some_other
    · exact absurd missing (thereOther value mem)
    · refine ⟨.inr ⟨plan, other, accepted, acceptedOther,
        answerAlike_of_validate perm accepted acceptedOther⟩, ?_⟩
      rw [accepted, acceptedOther]
      exact .nil

/-! ## Another order in a table -/

/-- A table whose declaration of a type has other delegates in its request. -/
def SymbolTable.withDelegates (table : SymbolTable) (type : ClassName)
    (entries : List DelegateEntry) : SymbolTable :=
  { table with
    lookup := fun name => (table.lookup name).map fun decl =>
      if name = type then decl.withDelegates entries else decl
    mem_names := fun name visible => table.mem_names name (by simpa using visible) }

/-- Other delegates in a request leave all names and kinds. -/
theorem SymbolTable.sameTypes_withDelegates (table : SymbolTable) (type : ClassName)
    (entries : List DelegateEntry) : table.SameTypes (table.withDelegates type entries) where
  rooted := rfl
  shown name := by
    change _ = ((table.lookup name).map _).map _
    rw [Option.map_map]
    congr 1
    funext decl
    by_cases here : name = type <;> simp [here, TypeDecl.withDelegates]

/-- A class with something wrong with each of its delegates but the first, and a class with two made-up
field names. -/
def wrongOrder : List TypeDefinition :=
  [{ name := "a.I", kind := .interface },
   { name := "b.I", kind := .interface },
   { name := "c.I", kind := .interface },
   { name := "a.K", kind := .class_ },
   { name := "a.C", kind := .class_, extends? := some "a.AutoDelegate_C"
     request? := some ⟨[⟨"a.I", some "x"⟩, ⟨"a.K", some "x"⟩, ⟨" a.I", none⟩, ⟨"b.I", some "1"⟩],
       none⟩ },
   { name := "a.D", kind := .class_, extends? := some "a.AutoDelegate_D"
     request? := some ⟨[⟨"a.I", none⟩, ⟨"b.I", none⟩, ⟨"c.I", some "c"⟩], some "a.K"⟩ }]

/-- Backwards, the first class is rejected for the same reasons, which now fall on other entries, and
the second is accepted with the made-up names exchanged. -/
theorem validate_reordered_backwards :
    let table := (Snapshot.sample wrongOrder).table
    let ofC := (table.lookup ⟨"a", "C", []⟩).getD default
    let ofD := (table.lookup ⟨"a", "D", []⟩).getD default
    let otherC := ofC.withDelegates ofC.request.delegates.reverse
    let otherD := ofD.withDelegates ofD.request.delegates.reverse
    let backwardsC := table.withDelegates ⟨"a", "C", []⟩ ofC.request.delegates.reverse
    let backwardsD := table.withDelegates ⟨"a", "D", []⟩ ofD.request.delegates.reverse
    let planOfD : Plan := ⟨⟨"a", "D", []⟩, ⟨"a", "AutoDelegate_D", []⟩, ⟨"a", "K", []⟩,
      [⟨⟨"a", "I", []⟩, "__I_unlikelyToConflictWithExistingMember"⟩,
       ⟨⟨"b", "I", []⟩, "__I_unlikelyToConflictWithExistingMember_"⟩, ⟨⟨"c", "I", []⟩, "c"⟩]⟩
    let otherPlanOfD : Plan := ⟨⟨"a", "D", []⟩, ⟨"a", "AutoDelegate_D", []⟩, ⟨"a", "K", []⟩,
      [⟨⟨"c", "I", []⟩, "c"⟩, ⟨⟨"b", "I", []⟩, "__I_unlikelyToConflictWithExistingMember"⟩,
       ⟨⟨"a", "I", []⟩, "__I_unlikelyToConflictWithExistingMember_"⟩]⟩
    (table.lookup ⟨"a", "C", []⟩ = some ofC ∧ backwardsC.lookup ⟨"a", "C", []⟩ = some otherC ∧
      validate table ofC = .rejected [.notInterface 1 "a.K", .duplicateName 1 "x",
        .duplicateInterface 2 ⟨"a", "I", []⟩, .invalidName 3 "1"] ∧
      validate backwardsC otherC = .rejected [.invalidName 0 "1", .notInterface 2 "a.K",
        .duplicateName 3 "x", .duplicateInterface 3 ⟨"a", "I", []⟩] ∧
      (((validate table ofC).reported ofC.name).map (·.code)).Perm
        (((validate backwardsC otherC).reported ofC.name).map (·.code))) ∧
    table.lookup ⟨"a", "D", []⟩ = some ofD ∧ backwardsD.lookup ⟨"a", "D", []⟩ = some otherD ∧
      validate table ofD = .accepted planOfD ∧ validate backwardsD otherD = .accepted otherPlanOfD ∧
      AnswerAlike table ofD.request.delegates planOfD otherPlanOfD := by
  intro table ofC ofD otherC otherD backwardsC backwardsD planOfD otherPlanOfD
  obtain ⟨thereC, foundC, foundOtherC, rejectedC, rejectedOtherC⟩ :
      (∀ value ∈ ofC.request.values, table.resolve value ≠ .missing) ∧
      table.lookup ⟨"a", "C", []⟩ = some ofC ∧ backwardsC.lookup ⟨"a", "C", []⟩ = some otherC ∧
      validate table ofC = .rejected [.notInterface 1 "a.K", .duplicateName 1 "x",
        .duplicateInterface 2 ⟨"a", "I", []⟩, .invalidName 3 "1"] ∧
      validate backwardsC otherC = .rejected [.invalidName 0 "1", .notInterface 2 "a.K",
        .duplicateName 3 "x", .duplicateInterface 3 ⟨"a", "I", []⟩] := by
    decide +kernel
  obtain ⟨thereD, foundD, foundOtherD, acceptedD, acceptedOtherD⟩ :
      (∀ value ∈ ofD.request.values, table.resolve value ≠ .missing) ∧
      table.lookup ⟨"a", "D", []⟩ = some ofD ∧ backwardsD.lookup ⟨"a", "D", []⟩ = some otherD ∧
      validate table ofD = .accepted planOfD ∧
      validate backwardsD otherD = .accepted otherPlanOfD := by
    decide +kernel
  have reorderedC := validate_reordered (table.sameTypes_withDelegates ⟨"a", "C", []⟩
    ofC.request.delegates.reverse) thereC ofC.request.delegates.reverse_perm
  have reorderedD := validate_reordered (table.sameTypes_withDelegates ⟨"a", "D", []⟩
    ofD.request.delegates.reverse) thereD ofD.request.delegates.reverse_perm
  refine ⟨⟨foundC, foundOtherC, rejectedC, rejectedOtherC, reorderedC.2⟩, foundD, foundOtherD,
    acceptedD, acceptedOtherD, ?_⟩
  rcases reorderedD.1 with ⟨problems, -, rejected, -⟩ | ⟨plan, other, accepted, acceptedOther, alike⟩
  · rw [acceptedD] at rejected
    cases rejected
  · obtain rfl := Verdict.accepted.inj (acceptedD.symm.trans accepted)
    obtain rfl := Verdict.accepted.inj (acceptedOtherD.symm.trans acceptedOther)
    exact alike

end Delegation
