import Delegation.Proofs.Keyed
import Delegation.Proofs.Outcome
import Delegation.Proofs.Symbol.Growth

/-!
# What puts a class off

A class is put off for one of two reasons: its request has a value that names a type which is not
there, or the request can be met but an interface that one of its delegates inherits from is not
there.  If the first reason persists to the end, the message about the class lists the values; if
there is none, the message says so in general words.

## Main Definitions

* `SymbolTable.Stuck` — the reasons to put a class off.
* `SymbolTable.Misses` — the values of a class's request that name missing types, each once.

## Main Statements

* `stuck_of_judge` — a class that is put off has a reason.
* `exists_misses_of_undefinedDiagnostic` — what the message about the class says.
-/

namespace Delegation

open Java Synthesis Validation

/-! ## Reasons to put a class off -/

/-- A class is stuck: something that it refers to is not there.  Either a value of its request names
a missing type, or the request is accepted and a delegate inherits from a missing interface. -/
inductive SymbolTable.Stuck (table : SymbolTable) (decl : TypeDecl) : Prop
  | value {value : String} (asked : value ∈ decl.request.values)
      (missing : table.resolve value = .missing)
  | parent {plan : Plan} {delegate : Delegate} {interface ancestor : TypeDecl} {parent : ClassName}
      (accepted : validate table decl = .accepted plan) (mem : delegate ∈ plan.delegates)
      (found : table.lookup delegate.interface = some interface)
      (inherits : table.Inherits interface ancestor) (listed : parent ∈ ancestor.interfaces)
      (missing : table.lookup parent = none)

/-- Looking at delegates stops at one whose interface is missing. -/
theorem Validation.Survey.exists_missing_of_addEntries {table : SymbolTable} {survey : Survey}
    {index : Nat} {asked : List DelegateEntry}
    (incomplete : (survey.addEntries table index asked).1 = false) :
    ∃ entry ∈ asked, table.resolve entry.interface = .missing := by
  induction asked generalizing survey index with
  | nil => cases incomplete
  | cons entry rest ih =>
      rw [addEntries] at incomplete
      split at incomplete
      · obtain ⟨other, mem, missing⟩ := ih incomplete
        exact ⟨other, List.mem_cons_of_mem _ mem, missing⟩
      · rename_i stopped
        refine ⟨entry, List.mem_cons_self, ?_⟩
        unfold addEntry at stopped
        split at stopped
        · assumption
        · cases stopped
        · split at stopped <;> cases stopped

/-- There is no answer about the class to extend when it is missing. -/
theorem Validation.exists_missing_of_superclassOf {table : SymbolTable} {extend? : Option String}
    (unanswered : superclassOf table extend? = none) :
    ∃ value, extend? = some value ∧ table.resolve value = .missing := by
  unfold superclassOf at unanswered
  split at unanswered
  · cases unanswered
  · rename_i value
    refine ⟨value, rfl, ?_⟩
    split at unanswered
    · assumption
    · cases unanswered
    · split at unanswered <;> cases unanswered

/-- A request is put off only if one of its values names a missing type. -/
theorem exists_missing_of_validate {table : SymbolTable} {decl : TypeDecl}
    (deferred : validate table decl = .deferred) :
    ∃ value ∈ decl.request.values, table.resolve value = .missing := by
  cases surveyed : Survey.empty.addEntries table 0 decl.request.delegates with
  | mk complete survey =>
      simp only [validate, surveyed] at deferred
      split at deferred
      · cases deferred
      · rename_i none_found unanswered
        cases complete with
        | true =>
            obtain ⟨value, said, missing⟩ := exists_missing_of_superclassOf unanswered
            refine ⟨value, List.mem_append_right _ ?_, missing⟩
            rw [said]
            exact List.mem_cons_self
        | false =>
            obtain ⟨entry, mem, missing⟩ :=
              Survey.exists_missing_of_addEntries (congrArg Prod.fst surveyed)
            exact ⟨_, List.mem_append_left _ (List.mem_map_of_mem mem), missing⟩
      · cases deferred

/-- A plan that has to wait has a delegate with a missing parent. -/
theorem exists_missingParent_of_synthesise {table : SymbolTable} {plan : Plan} {parent : ClassName}
    (awaits : synthesise table plan = .error (.awaits parent)) :
    ∃ delegate ∈ plan.delegates, ∃ interface, table.lookup delegate.interface = some interface ∧
      table.missingParent? interface = some parent := by
  rcases bind_eq_error_iff.mp awaits with failed | ⟨decls, -, failed⟩
  · obtain ⟨delegate, mem, failed⟩ := exists_of_mapM_eq_error failed
    refine ⟨delegate, mem, ?_⟩
    unfold delegateDecl at failed
    split at failed
    · cases failed
    · rename_i interface found
      refine ⟨interface, found, ?_⟩
      split at failed
      · split at failed
        · cases failed
          assumption
        · cases failed
      · cases failed
  · rcases bind_eq_error_iff.mp failed with failed | ⟨superclass, -, failed⟩
    · unfold superclassDecl at failed
      split at failed
      · cases failed
      · split at failed <;> cases failed
    · cases failed

/-- What is missing among the parents of a type is an interface of something it inherits from. -/
theorem SymbolTable.inherits_of_missingParent? {table : SymbolTable} {decl : TypeDecl}
    {parent : ClassName} (missing : table.missingParent? decl = some parent) :
    ∃ ancestor, table.Inherits decl ancestor ∧ parent ∈ ancestor.interfaces ∧
      table.lookup parent = none := by
  have among : parent ∈ table.parents decl := List.mem_of_find?_eq_some missing
  have invisible : table.lookup parent = none := by
    simpa [isVisible] using List.find?_some missing
  obtain ⟨ancestor, reached, listed⟩ := List.mem_flatMap.mp among
  rcases List.mem_cons.mp reached with rfl | reached
  · exact ⟨ancestor, .self, listed, invisible⟩
  · obtain ⟨name, extended, next, found, inherits⟩ := inherits_of_mem_reach reached
    exact ⟨ancestor, .ofParent extended found inherits, listed, invisible⟩

/-- **A class that is put off is stuck.** -/
theorem stuck_of_judge {table : SymbolTable} {decl : TypeDecl}
    (deferred : judge table decl = .defer) : table.Stuck decl := by
  unfold judge at deferred
  split at deferred
  · cases deferred
  · rename_i putOff
    obtain ⟨value, asked, missing⟩ := exists_missing_of_validate putOff
    exact .value asked missing
  · rename_i plan accepted
    split at deferred
    · cases deferred
    · rename_i parent awaits
      obtain ⟨delegate, mem, interface, found, missing⟩ :=
        exists_missingParent_of_synthesise awaits
      obtain ⟨ancestor, inherits, listed, invisible⟩ :=
        SymbolTable.inherits_of_missingParent? missing
      exact .parent accepted mem found inherits listed invisible
    · cases deferred

/-! ## The message in the end -/

/-- The values of a class's request that name missing types: all of them, each once, in the order in
which they are written, the class to extend last. -/
structure SymbolTable.Misses (table : SymbolTable) (request : Request) (values : List String) :
    Prop where
  mem_iff : ∀ value, value ∈ values ↔ value ∈ request.values ∧ table.resolve value = .missing
  ordered : values.Pairwise fun first second =>
    request.values.idxOf first < request.values.idxOf second

/-- The values that are looked for in the end are those that name missing types. -/
theorem misses_missingValues {table : SymbolTable} {type : ClassName} {decl : TypeDecl}
    (found : table.lookup type = some decl) :
    table.Misses decl.request (missingValues table type) := by
  have same : missingValues table type =
      (decl.request.values.filter (table.resolve · = .missing)).eraseDups := by
    rw [missingValues, found]
    rfl
  rw [same]
  constructor
  · intro value
    rw [List.mem_eraseDups, List.mem_filter, decide_eq_true_eq]
  · refine (pairwise_idxOf_eraseDups _).imp_of_mem fun {first second} mem otherMem lt => ?_
    rw [List.mem_eraseDups] at mem otherMem
    refine idxOf_lt_of_idxOf_filter_lt ?_ ?_ lt
    · exact (List.mem_filter.mp mem).2
    · exact (List.mem_filter.mp otherMem).2

/-- **The message about a class that is put off to the end** lists the values that name missing
types, and speaks in general words exactly if there are none. -/
theorem exists_misses_of_undefinedDiagnostic {table : SymbolTable} {type : ClassName}
    {decl : TypeDecl} (found : table.lookup type = some decl) :
    ∃ values, table.Misses decl.request values ∧
      ((undefinedDiagnostic table type).message =
        "@AutoDelegate references types that were never generated" ↔ values = []) ∧
      (values ≠ [] → (undefinedDiagnostic table type).message =
        "@AutoDelegate references undefined types: " ++ ", ".intercalate values) := by
  refine ⟨_, misses_missingValues found, ?_⟩
  cases missed : missingValues table type with
  | nil => simp [undefinedDiagnostic, missed, Diagnostic.error]
  | cons value rest =>
      have message : (undefinedDiagnostic table type).message =
          "@AutoDelegate references undefined types: " ++ ", ".intercalate (value :: rest) := by
        rw [undefinedDiagnostic, missed]
        rfl
      refine ⟨iff_of_false ?_ (List.cons_ne_nil _ _), fun _ => message⟩
      rw [message]
      -- the two texts part after their first words
      intro same
      have texts := congrArg (fun text => text.toList.take 26) same
      rw [String.toList_append, List.take_append_of_le_length (by decide)] at texts
      exact absurd texts (by decide)

end Delegation
