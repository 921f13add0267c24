import Delegation.Proofs.Snapshot.WellFormed
import Delegation.Proofs.Validation.Survey

/-!
# The delegates of a plan

An accepted plan has one delegate for each entry of the request, in the same order.  Names that are
asked for are set aside before any name is made up, so an entry without a name never takes one that
another entry asks for, wherever that stands; and of the names made up, each gives way to those made
up before it.

## Main Definitions

* `madeUp` — the fields of some delegates whose entries ask for no name.
* `Answers` — delegates answer the entries of a request.

## Main Statements

* `Validation.nameFields_append` — naming fields goes on with the names in use by then.
* `Validation.Survey.accepted_of_addEntries` — a survey without problems has taken every entry.
* `delegates_answer` — the delegates of an accepted plan answer its request.
-/

namespace Delegation

open Java Validation

/-! ## Names that are made up -/

/-- The sanitised suggestion for an interface is no reserved word: it is too long for one. -/
theorem sanitise_suggestedField_notMem (interface : ClassName) :
    sanitise interface.suggestedField ∉ reservedWords := by
  have words : ∀ word ∈ reservedWords, word.length ≤ 12 := by decide
  intro reserved
  have short := words _ reserved
  have kept := length_le_length_sanitise interface.suggestedField
  have ending : "_unlikelyToConflictWithExistingMember".length = 37 := by decide
  have length : 37 ≤ interface.suggestedField.length := by
    rw [ClassName.suggestedField, String.length_append, ending]
    exact Nat.le_add_left ..
  omega

/-- The fields of some delegates whose entries ask for no name. -/
def madeUp (asked : List (Option String)) (delegates : List Delegate) : List String :=
  (asked.zip delegates).filterMap fun (name?, delegate) =>
    if name?.isNone then some delegate.field else none

namespace Validation

variable {supply : NameSupply} {accepted : List (ClassName × Option String)}

/-- What is in use after some fields have been named. -/
def supplyAfter (supply : NameSupply) (accepted : List (ClassName × Option String)) : NameSupply :=
  ⟨(madeUp (accepted.map (·.2)) (nameFields supply accepted)).reverse ++ supply.taken⟩

/-- Naming fields goes on with what is in use by then. -/
theorem nameFields_append (supply : NameSupply) (before after : List (ClassName × Option String)) :
    nameFields supply (before ++ after) =
      nameFields supply before ++ nameFields (supplyAfter supply before) after := by
  induction before generalizing supply with
  | nil => rfl
  | cons first rest ih =>
      obtain ⟨interface, asked⟩ := first
      cases asked with
      | some name => exact congrArg (⟨interface, name⟩ :: ·) (ih supply)
      | none =>
          have later : supplyAfter supply ((interface, none) :: rest) =
              supplyAfter (supply.allocate interface.suggestedField).2 rest := by
            simp [supplyAfter, nameFields, madeUp, NameSupply.taken_allocate]
          rw [later]
          exact congrArg (_ :: ·) (ih (supply.allocate interface.suggestedField).2)

/-- Every interface gets the field that is asked for, if one is. -/
theorem forall₂_nameFields (supply : NameSupply) (accepted : List (ClassName × Option String)) :
    List.Forall₂ (fun taken delegate => delegate.interface = taken.1 ∧
      ∀ name, taken.2 = some name → delegate.field = name) accepted
      (nameFields supply accepted) := by
  induction accepted generalizing supply with
  | nil => exact .nil
  | cons first rest ih =>
      obtain ⟨interface, asked⟩ := first
      cases asked with
      | some name => exact .cons ⟨rfl, fun _ same => Option.some.inj same⟩ (ih supply)
      | none => exact .cons ⟨rfl, nofun⟩ (ih _)

/-- What answers entries goes on to answer them when its fields have been named. -/
theorem forall₂_delegates {table : SymbolTable} {entries : List DelegateEntry}
    (taken : List.Forall₂ (fun entry pair => table.interfaceOf? entry.interface = some pair.1 ∧
      entry.fieldName? = pair.2) entries accepted) :
    List.Forall₂ (fun entry delegate =>
      table.interfaceOf? entry.interface = some delegate.interface ∧
        ∀ name, entry.fieldName? = some name → delegate.field = name)
      entries (delegates accepted) := by
  have named := forall₂_nameFields (NameSupply.empty.reserveAll (accepted.filterMap (·.2))) accepted
  refine List.forall₂_iff_get.mpr
    ⟨taken.length_eq.trans named.length_eq, fun index within withinDelegates => ?_⟩
  have withinAccepted : index < accepted.length := taken.length_eq ▸ within
  obtain ⟨denotes, asks⟩ := taken.get within withinAccepted
  obtain ⟨interface, field⟩ := named.get withinAccepted withinDelegates
  exact ⟨denotes.trans (congrArg some interface.symm), fun name asked => field name (asks ▸ asked)⟩

/-- An interface for which no field is asked gets the suggested name with the fewest underscores that
tell it from the names asked for and from those made up before. -/
theorem fewestUnderscores_of_delegates {index : Nat} {interface : ClassName} {delegate : Delegate}
    (unasked : accepted[index]? = some (interface, none))
    (named : (delegates accepted)[index]? = some delegate) :
    FewestUnderscores (sanitise interface.suggestedField)
      (accepted.filterMap (·.2) ++
        madeUp ((accepted.map (·.2)).take index) ((delegates accepted).take index))
      delegate.field := by
  obtain ⟨within, here⟩ := List.getElem?_eq_some_iff.mp unasked
  have split : accepted = accepted.take index ++ (interface, none) :: accepted.drop (index + 1) := by
    rw [← here, ← List.drop_eq_getElem_cons, List.take_append_drop]
  unfold delegates at named ⊢
  generalize reserved : NameSupply.empty.reserveAll (accepted.filterMap (·.2)) = supply at named ⊢
  have parts := nameFields_append supply (accepted.take index)
    ((interface, none) :: accepted.drop (index + 1))
  rw [← split] at parts
  have length : (nameFields supply (accepted.take index)).length = index := by
    rw [← (forall₂_nameFields supply _).length_eq, List.length_take]
    omega
  have earlier : (nameFields supply accepted).take index =
      nameFields supply (accepted.take index) := by
    rw [parts, List.take_left' length]
  have same : delegate.field =
      ((supplyAfter supply (accepted.take index)).allocate interface.suggestedField).1 := by
    rw [parts, List.getElem?_append_right (Nat.le_of_eq length), length, Nat.sub_self] at named
    exact congrArg Delegate.field (Option.some.inj named).symm
  obtain ⟨count, found, fresh, used⟩ :=
    (supplyAfter supply (accepted.take index)).fewestUnderscores_allocate
      (sanitise_suggestedField_notMem interface)
  have taken_iff : ∀ name, name ∈ (supplyAfter supply (accepted.take index)).taken ↔
      name ∈ accepted.filterMap (·.2) ++
        madeUp ((accepted.map (·.2)).take index) ((nameFields supply accepted).take index) := by
    intro name
    rw [supplyAfter, earlier, ← List.map_take, List.mem_append, List.mem_append, List.mem_reverse,
      or_comm, ← reserved, NameSupply.mem_taken_reserveAll,
      or_iff_right (show name ∉ NameSupply.empty.taken from List.not_mem_nil)]
  refine ⟨count, same.trans found, ?_, fun fewer before => (taken_iff _).mp (used fewer before)⟩
  rw [same, ← taken_iff]
  exact fresh

/-! ## A survey without problems -/

namespace Survey

variable {table : SymbolTable} {survey survey' : Survey}

/-- If there is no problem after an entry, there was none before, and the entry has been taken. -/
theorem accepted_of_addEntry {index : Nat} {entry : DelegateEntry}
    (added : survey.addEntry table index entry = some survey') (clean : survey'.problems = []) :
    survey.problems = [] ∧ ∃ interface, table.interfaceOf? entry.interface = some interface ∧
      survey'.accepted = survey.accepted ++ [(interface, entry.fieldName?)] := by
  rcases cases_of_addEntry added with ⟨-, -, rfl⟩ | ⟨-, interface, denoted, rfl⟩
  · have before := (fieldNames_checkName_of_clean clean).1
    simp [report] at before
  · by_cases taken : interface ∈ (survey.checkName index entry.fieldName?).accepted.map (·.1)
    · rw [accept_of_mem taken] at clean
      simp [report] at clean
    · rw [accept_of_notMem taken] at clean ⊢
      refine ⟨(fieldNames_checkName_of_clean clean).1, interface, denoted, ?_⟩
      rw [accepted_checkName]

/-- If there is no problem after all entries, each has been taken, with the field name that it asks
for. -/
theorem accepted_of_addEntries {index : Nat} {entries : List DelegateEntry}
    (surveyed : survey.addEntries table index entries = (true, survey'))
    (clean : survey'.problems = []) :
    survey.problems = [] ∧ ∃ taken, survey'.accepted = survey.accepted ++ taken ∧
      List.Forall₂ (fun entry pair => table.interfaceOf? entry.interface = some pair.1 ∧
        entry.fieldName? = pair.2) entries taken := by
  induction entries generalizing survey index with
  | nil =>
      cases surveyed
      exact ⟨clean, [], (List.append_nil _).symm, .nil⟩
  | cons entry rest ih =>
      rw [addEntries] at surveyed
      split at surveyed
      · rename_i mid added
        obtain ⟨cleanMid, taken, all, answered⟩ := ih surveyed
        obtain ⟨before, interface, denoted, first⟩ := accepted_of_addEntry added cleanMid
        refine ⟨before, (interface, entry.fieldName?) :: taken, ?_, .cons ⟨denoted, rfl⟩ answered⟩
        rw [all, first, List.append_assoc]
        rfl
      · cases surveyed

end Survey

end Validation

/-- The delegates of an accepted plan answer the entries of its request one by one. -/
theorem forall₂_delegates_of_validate {table : SymbolTable} {decl : TypeDecl} {plan : Plan}
    (accepted : validate table decl = .accepted plan) :
    List.Forall₂ (fun entry delegate =>
      table.interfaceOf? entry.interface = some delegate.interface ∧
        ∀ name, entry.fieldName? = some name → delegate.field = name)
      decl.request.delegates plan.delegates := by
  obtain ⟨survey, superclass, surveyed, -, -, -, -, clean, rfl⟩ :=
    validate_eq_accepted_iff.mp accepted
  obtain ⟨-, _, rfl, taken⟩ := Survey.accepted_of_addEntries surveyed clean
  exact forall₂_delegates taken

/-! ## The delegates -/

/-- Delegates answer the entries of a request, one each and in their order. -/
structure Answers (table : SymbolTable) (entries : List DelegateEntry) (delegates : List Delegate) :
    Prop where
  /-- Each entry denotes a visible interface, and its delegate has the name of that. -/
  interfaces : List.Forall₂ (fun entry delegate => ∃ decl,
    table.resolve entry.interface = .declared decl ∧ decl.kind = .interface ∧
      decl.name = delegate.interface ∧ table.lookup delegate.interface = some decl)
    entries delegates
  /-- No interface occurs twice, however the entries spell it. -/
  distinct : (delegates.map (·.interface)).Nodup
  /-- The fields can be written in a source. -/
  identifiers : ∀ delegate ∈ delegates, isIdentifier delegate.field
  /-- No two delegates share a field. -/
  nodup : (delegates.map (·.field)).Nodup
  /-- A field name that is asked for is kept as it is. -/
  kept : ∀ (index : Nat) (entry : DelegateEntry) (delegate : Delegate) (name : String),
    entries[index]? = some entry → delegates[index]? = some delegate →
      entry.fieldName? = some name → delegate.field = name
  /-- Where none is asked for, the suggested name gets the fewest underscores that tell it from all
  names asked for, before and after, and from the names made up before. -/
  fewest : ∀ (index : Nat) (entry : DelegateEntry) (delegate : Delegate),
    entries[index]? = some entry → delegates[index]? = some delegate → entry.fieldName? = none →
      FewestUnderscores (sanitise delegate.interface.suggestedField)
        (entries.filterMap (·.fieldName?) ++
          madeUp ((entries.map (·.fieldName?)).take index) (delegates.take index))
        delegate.field

namespace Snapshot

/-- **The delegates of an accepted plan answer its request.** -/
theorem Reached.delegates_answer {snapshot : Snapshot} (reached : snapshot.Reached)
    {decl : TypeDecl} {plan : Plan} (accepted : validate snapshot.table decl = .accepted plan) :
    Answers snapshot.table decl.request.delegates plan.delegates := by
  have lawful := reached.wellFormed.lawful
  have distinct := nodup_interface_of_validate accepted
  have nodup := nodup_field_of_validate accepted
  have identifiers : ∀ delegate ∈ plan.delegates, isIdentifier delegate.field := fun delegate mem =>
    isIdentifier_field_of_validate accepted (List.mem_map_of_mem mem)
  obtain ⟨survey, superclass, surveyed, -, -, -, -, clean, rfl⟩ :=
    validate_eq_accepted_iff.mp accepted
  obtain ⟨-, _, rfl, taken⟩ := Survey.accepted_of_addEntries surveyed clean
  have answered := forall₂_delegates taken
  have asked : survey.accepted.map (·.2) = decl.request.delegates.map (·.fieldName?) := by
    rw [← List.forall₂_eq_eq_eq, List.forall₂_map_left_iff, List.forall₂_map_right_iff]
    exact (taken.imp fun _ _ both => both.2.symm).flip
  constructor
  · exact answered.imp fun _ _ both => lawful.exists_of_interfaceOf? both.1
  · exact distinct
  · exact identifiers
  · exact nodup
  · intro index entry delegate name here there asks
    obtain ⟨within, rfl⟩ := List.getElem?_eq_some_iff.mp here
    obtain ⟨withinDelegates, rfl⟩ := List.getElem?_eq_some_iff.mp there
    exact (answered.get within withinDelegates).2 name asks
  · intro index entry delegate here there unasked
    have place : survey.accepted[index]? = some (delegate.interface, none) := by
      obtain ⟨within, rfl⟩ := List.getElem?_eq_some_iff.mp here
      obtain ⟨withinDelegates, rfl⟩ := List.getElem?_eq_some_iff.mp there
      have withinAccepted : index < survey.accepted.length := taken.length_eq ▸ within
      obtain ⟨denotes, asks⟩ := taken.get within withinAccepted
      have same := Option.some.inj
        (denotes.symm.trans (answered.get within withinDelegates).1)
      rw [List.getElem?_eq_getElem withinAccepted]
      exact congrArg some (Prod.ext same (asks.symm.trans unasked))
    have names : survey.accepted.filterMap (·.2) =
        decl.request.delegates.filterMap (·.fieldName?) := by
      have same := congrArg (List.filterMap id) asked
      rwa [List.filterMap_map, List.filterMap_map] at same
    rw [← names, ← asked]
    exact fewestUnderscores_of_delegates place there

/-- Four interfaces of one simple name, and a class that asks for the first two candidates of the name
that is suggested for them. -/
def sameSuggestion : List TypeDefinition :=
  [{ name := "a.I", kind := .interface },
   { name := "b.I", kind := .interface },
   { name := "c.I", kind := .interface },
   { name := "d.I", kind := .interface },
   { name := "a.C", kind := .class_, extends? := some "a.AutoDelegate_C"
     request? := some ⟨[⟨"a.I", none⟩, ⟨"b.I", some "__I_unlikelyToConflictWithExistingMember_"⟩,
       ⟨" c.I ", none⟩, ⟨"d.I", some "__I_unlikelyToConflictWithExistingMember"⟩], none⟩ }]

/-- The first and the third entry get two and three underscores. -/
theorem delegates_answer_sameSuggestion :
    let snapshot := sample sameSuggestion
    let decl := (snapshot.lookup ⟨"a", "C", []⟩).getD default
    let delegates : List Delegate :=
      [⟨⟨"a", "I", []⟩, "__I_unlikelyToConflictWithExistingMember__"⟩,
       ⟨⟨"b", "I", []⟩, "__I_unlikelyToConflictWithExistingMember_"⟩,
       ⟨⟨"c", "I", []⟩, "__I_unlikelyToConflictWithExistingMember___"⟩,
       ⟨⟨"d", "I", []⟩, "__I_unlikelyToConflictWithExistingMember"⟩]
    snapshot.Reached ∧ snapshot.lookup ⟨"a", "C", []⟩ = some decl ∧
    validate snapshot.table decl =
      .accepted ⟨⟨"a", "C", []⟩, ⟨"a", "AutoDelegate_C", []⟩, .object, delegates⟩ ∧
    Answers snapshot.table decl.request.delegates delegates := by
  intro snapshot decl delegates
  have reached : snapshot.Reached := .read (ofTypes_sample (by decide +kernel))
  have accepted : validate snapshot.table decl =
      .accepted ⟨⟨"a", "C", []⟩, ⟨"a", "AutoDelegate_C", []⟩, .object, delegates⟩ := by
    decide +kernel
  exact ⟨reached, by decide +kernel, accepted, reached.delegates_answer accepted⟩

end Snapshot

end Delegation
