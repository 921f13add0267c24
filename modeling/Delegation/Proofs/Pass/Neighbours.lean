import Delegation.Proofs.Pass.Attempts
import Delegation.Proofs.Pass.Reports
import Delegation.Proofs.Snapshot.WellFormed

/-!
# Classes beside each other in a pass

A pass takes its classes through one state, one output and one list of diagnostics.  Still the classes
do not influence each other: as long as the pass ends well, what it does with a class can be read off
the declaration of the class and the symbols of the round, whatever else the pass looks at, in which
order, and what has been done before.

What a pass hands to its output for one class of several is not to be seen in the store afterwards,
because an output may do with it what it likes.  So it is observed on the way, by an output that notes
down what it gets and passes it on.

## Main Definitions

* `Output.noting` — an output that notes down what it is handed.
* `Pass.handed` — what a pass hands to its output while it looks at classes of one name.
* `Lot`, `Pass.Allots` — what becomes of a class.

## Main Statements

* `Pass.process_noting` — noting down does not change what a pass does.
* `Pass.handed_of_processAll` — what is handed to the output, read off the judgements.
* `Pass.unaffected_by_others` — two passes that both look at a class treat it the same way.
-/

namespace Delegation

open Java

/-! ## Observed outputs -/

namespace Output

variable {σ : Type}

/-- An output that notes down what it is handed and leaves it to the given one what becomes of it. -/
def noting (output : Output σ) : Output (σ × List (BaseClass × SourceFile)) where
  write store base file :=
    let (outcome, inner) := output.write store.1 base file
    (outcome, inner, store.2 ++ [(base, file)])

/-- Classes with their own sources. -/
def withSources (options : Options) (bases : List BaseClass) : List (BaseClass × SourceFile) :=
  bases.map fun base => (base, render base options)

/-- Noting down does not change the answers. -/
theorem answers_noting (output : Output σ) (options : Options) (store : σ)
    (noted : List (BaseClass × SourceFile)) (bases : List BaseClass) :
    output.noting.answers options (store, noted) bases = output.answers options store bases := by
  induction bases generalizing store noted with
  | nil => rfl
  | cons base rest ih => exact congrArg (List.cons _) (ih _ _)

/-- In the end the classes have been noted down, with their sources and in their order. -/
theorem after_noting (output : Output σ) (options : Options) (store : σ)
    (noted : List (BaseClass × SourceFile)) (bases : List BaseClass) :
    output.noting.after options (store, noted) bases =
      (output.after options store bases, noted ++ withSources options bases) := by
  induction bases generalizing store noted with
  | nil => exact congrArg (Prod.mk _) (List.append_nil _).symm
  | cons base rest ih =>
      refine (ih _ _).trans (congrArg (Prod.mk _) ?_)
      exact List.append_assoc ..

end Output

/-! ## What is handed to the output -/

namespace Pass

variable {σ : Type} {options : Options} {output : Output σ} {table : SymbolTable}

/-- What a pass over some classes hands to its output while it looks at those of a name. -/
def handed (options : Options) (output : Output σ) (table : SymbolTable) (type : ClassName)
    (pass : Pass σ) : List TypeDecl → List (BaseClass × SourceFile)
  | [] => []
  | decl :: rest =>
    let (fault?, next) := (pass.withStore (pass.store, [])).process options output.noting table decl
    (if decl.name = type then next.store.2 else []) ++
      match fault? with
      | none => (next.withStore next.store.1).handed options output table type rest
      | some _ => []

/-- Noting down does not change what becomes of a class, and what is noted is its base class. -/
theorem process_noting (pass : Pass σ) (decl : TypeDecl) :
    (pass.withStore (pass.store, [])).process options output.noting table decl =
      ((pass.process options output table decl).1,
        (pass.process options output table decl).2.withStore
          ((pass.process options output table decl).2.store,
            Output.withSources options (basesAmong table [decl]))) := by
  rw [process_withStore (output.answers_noting options pass.store [] _), Output.after_noting,
    ← store_process options output table pass decl, List.nil_append]

/-- A class that is carried out without a fault hands its base class to the output. -/
theorem handed_cons_of_process {pass next : Pass σ} {decl : TypeDecl}
    (processed : pass.process options output table decl = (none, next)) (type : ClassName)
    (rest : List TypeDecl) :
    pass.handed options output table type (decl :: rest) =
      (if decl.name = type then Output.withSources options (basesAmong table [decl]) else []) ++
        next.handed options output table type rest := by
  rw [handed, process_noting, processed]
  rfl

/-- A pass that ends well hands to its output the base classes of the classes of a name, with their
sources. -/
theorem handed_of_processAll {pass pass' : Pass σ} {decls : List TypeDecl}
    (ran : pass.processAll options output table decls = (none, pass')) (type : ClassName) :
    pass.handed options output table type decls = (decls.filter (·.name = type)).flatMap
      fun decl => Output.withSources options (basesAmong table [decl]) := by
  induction decls generalizing pass with
  | nil => rfl
  | cons decl rest ih =>
      rw [processAll] at ran
      split at ran
      · rename_i next processed
        rw [handed_cons_of_process processed, ih ran]
        by_cases same : decl.name = type
        · rw [List.filter_cons_of_pos (by simpa using same), List.flatMap_cons, if_pos same]
        · rw [List.filter_cons_of_neg (by simpa using same), if_neg same, List.nil_append]
      · cases ran

end Pass

/-! ## What becomes of a class -/

/-- What can become of a class that a pass looks at. -/
inductive Lot
  /-- Its base class is written. -/
  | generated
  /-- It is put off to a later round. -/
  | deferred
  /-- It is rejected. -/
  | invalid
deriving DecidableEq

/-- What becomes of a class that is judged this way, unless there is a fault. -/
def Judgement.lot? : Judgement → Option Lot
  | generate _ => some .generated
  | defer => some .deferred
  | reject _ => some .invalid
  | fail _ => none

namespace Pass

variable {σ τ : Type} {options : Options} {table : SymbolTable}

/-- Whether a pass says that this has become of a class which was not done before. -/
def Allots (pass : Pass σ) (type : ClassName) : Lot → Prop
  | .generated => type ∈ pass.progress.emitted
  | .deferred => type ∈ pass.report.deferred
  | .invalid => type ∈ pass.report.invalid

section Single

variable {output : Output σ} {progress : Progress} {annotated : List ClassName} {store : σ}
variable {pass : Pass σ} {decl : TypeDecl}

/-- What becomes of a class is its judgement. -/
theorem allots_iff (lawful : table.Lawful)
    (ran : run options output table progress annotated store = (none, pass))
    (mem : decl ∈ candidates progress annotated table) (lot : Lot) :
    pass.Allots decl.name lot ↔ (judge table decl).lot? = some lot := by
  have nodup := nodup_map_name_candidates lawful progress annotated
  have new : decl.name ∉ progress.emitted :=
    ((mem_map_name_candidates_iff lawful).mp (List.mem_map_of_mem mem)).2.1
  obtain ⟨-, store', -, rfl⟩ := processAll_eq_none_iff.mp ran
  cases lot with
  | generated =>
      rw [Allots, mem_emitted_settled, emitted_start, or_iff_right new]
      refine (mem_map_filter_iff nodup mem _).trans ?_
      cases judge table decl <;> simp [Judgement.lot?]
  | deferred =>
      change decl.name ∈ [] ++ deferredAmong table _ ↔ _
      rw [List.nil_append]
      refine (mem_map_filter_iff nodup mem _).trans ?_
      cases judge table decl <;> simp [Judgement.lot?]
  | invalid =>
      change decl.name ∈ [] ++ rejectedAmong table _ ↔ _
      rw [List.nil_append]
      refine (mem_map_filter_iff nodup mem _).trans ?_
      cases judge table decl <;> simp [Judgement.lot?]

/-- What is handed to the output for a class is a matter of its judgement. -/
theorem handed_of_run (lawful : table.Lawful)
    (ran : run options output table progress annotated store = (none, pass))
    (mem : decl ∈ candidates progress annotated table) :
    (start progress store).handed options output table decl.name
        (candidates progress annotated table) =
      Output.withSources options (basesAmong table [decl]) := by
  rw [handed_of_processAll ran, filter_eq_singleton
    (nodup_map_name_candidates lawful progress annotated) mem, List.flatMap_singleton]

end Single

/-- **The classes of a pass do not influence each other.**  In two passes that end well and both look
at a class, by the same symbols, one and the same thing becomes of the class, the same is reported about
it in the same order, and the same is handed to the output for it: if it is generated, one base class
with its source, and otherwise nothing. -/
theorem unaffected_by_others (lawful : table.Lawful) {type : ClassName}
    (visible : table.isVisible type)
    {output : Output σ} {progress : Progress} {annotated : List ClassName} {store : σ}
    {pass : Pass σ} (ran : run options output table progress annotated store = (none, pass))
    (new : type ∉ progress.emitted) (asked : type ∈ progress.deferred ∨ type ∈ annotated)
    {output' : Output τ} {progress' : Progress} {annotated' : List ClassName} {store' : τ}
    {pass' : Pass τ} (ran' : run options output' table progress' annotated' store' = (none, pass'))
    (new' : type ∉ progress'.emitted) (asked' : type ∈ progress'.deferred ∨ type ∈ annotated') :
    ∃ lot files,
      (∀ other, pass.Allots type other ↔ other = lot) ∧
      (∀ other, pass'.Allots type other ↔ other = lot) ∧
      Diagnostic.about pass.diagnostics type = Diagnostic.about pass'.diagnostics type ∧
      (start progress store).handed options output table type
        (candidates progress annotated table) = files ∧
      (start progress' store').handed options output' table type
        (candidates progress' annotated' table) = files ∧
      (lot = .generated → ∃ base, base.name = type.generated ∧
        files = [(base, render base options)]) ∧
      (lot ≠ .generated → files = []) := by
  obtain ⟨decl, mem, rfl⟩ :=
    List.mem_map.mp ((mem_map_name_candidates_iff lawful).mpr ⟨visible, new, asked⟩)
  obtain ⟨decl', mem', named⟩ :=
    List.mem_map.mp ((mem_map_name_candidates_iff lawful).mpr ⟨visible, new', asked'⟩)
  -- Both passes look at the declaration that the name has in the table.
  obtain rfl : decl' = decl := Option.some.inj <|
    (lookup_of_mem_candidates lawful mem').symm.trans
      (named ▸ lookup_of_mem_candidates lawful mem)
  have sound := (processAll_eq_none_iff.mp ran).1 decl' mem
  obtain ⟨lot, judged⟩ : ∃ lot, (judge table decl').lot? = some lot := by
    cases outcome : judge table decl' <;> simp_all [Judgement.lot?]
  have allots : ∀ {ρ : Type} {ended : Pass ρ},
      (∀ other, ended.Allots decl'.name other ↔ (judge table decl').lot? = some other) →
      ∀ other, ended.Allots decl'.name other ↔ other = lot := by
    intro ρ ended told other
    rw [told, judged, Option.some.injEq, eq_comm]
  refine ⟨lot, _, allots (allots_iff lawful ran mem), allots (allots_iff lawful ran' mem'),
    (about_of_run lawful ran mem).trans (about_of_run lawful ran' mem').symm,
    handed_of_run lawful ran mem, handed_of_run lawful ran' mem', ?_, ?_⟩
  · rintro rfl
    cases outcome : judge table decl' with
    | generate result =>
        refine ⟨result.base, name_base_of_judge outcome, ?_⟩
        simp [Output.withSources, basesAmong, outcome]
    | _ => simp [outcome, Judgement.lot?] at judged
  · intro other
    cases outcome : judge table decl' with
    | generate result =>
        rw [outcome] at judged
        exact absurd (Option.some.inj judged).symm other
    | _ => simp [Output.withSources, basesAmong, outcome]

/-- A class with two interfaces that share a method, and annotated types that are generated, put off
and rejected beside it. -/
def crowded : List TypeDefinition :=
  [{ name := "a.I", kind := .interface, methods := [{ name := "m" }] },
   { name := "a.J", kind := .interface, methods := [{ name := "m" }] },
   { name := "a.C", kind := .class_, extends? := some "a.AutoDelegate_C"
     request? := some ⟨[⟨"a.I", some "i"⟩, ⟨"a.J", some "j"⟩], none⟩ },
   { name := "a.Done", kind := .class_, extends? := some "a.AutoDelegate_Done"
     request? := some ⟨[⟨"a.I", none⟩], none⟩ },
   { name := "a.Waiting", kind := .class_, extends? := some "a.AutoDelegate_Waiting"
     request? := some ⟨[⟨"a.Missing", none⟩], none⟩ },
   { name := "a.Wrong", kind := .interface, request? := some ⟨[⟨"a.C", some "1"⟩], none⟩ }]

/-- The class is generated with a warning in a pass of its own, and also after a pass over the others,
beside one that is rejected and one that goes on to wait. -/
theorem unaffected_by_others_crowded :
    let table := (Snapshot.sample crowded).table
    let ofC : ClassName := ⟨"a", "C", []⟩
    let others : List ClassName :=
      [⟨"a", "Wrong", []⟩, ⟨"a", "Waiting", []⟩, ⟨"a", "Done", []⟩]
    let alone := run .standard MemoryStore.output table .empty [ofC] .empty
    let before := (run .standard MemoryStore.output table .empty others .empty).2
    let beside := run .standard MemoryStore.output table before.progress (others ++ [ofC]) before.store
    table.Lawful ∧ table.isVisible ofC ∧ alone.1 = none ∧ beside.1 = none ∧
    beside.2.report = ⟨[⟨"a", "AutoDelegate_C", []⟩], [⟨"a", "Waiting", []⟩],
      [⟨"a", "Wrong", []⟩]⟩ ∧
    Diagnostic.about alone.2.diagnostics ofC = Diagnostic.about beside.2.diagnostics ofC ∧
    alone.2.diagnostics ≠ beside.2.diagnostics ∧
    ∃ base, base.name = ofC.generated ∧
      (start .empty .empty).handed .standard MemoryStore.output table ofC
        (candidates .empty [ofC] table) = [(base, render base .standard)] ∧
      (start before.progress before.store).handed .standard MemoryStore.output table ofC
        (candidates before.progress (others ++ [ofC]) table) = [(base, render base .standard)] := by
  intro table ofC others alone before beside
  have reached : (Snapshot.sample crowded).Reached :=
    .read (Snapshot.ofTypes_sample (by decide +kernel))
  have lawful := reached.wellFormed.lawful
  obtain ⟨visible, aloneEnds, done, besideEnds, new, report, differ⟩ :
      table.isVisible ofC ∧ alone.1 = none ∧ ofC ∈ alone.2.progress.emitted ∧ beside.1 = none ∧
        ofC ∉ before.progress.emitted ∧
        beside.2.report = ⟨[⟨"a", "AutoDelegate_C", []⟩], [⟨"a", "Waiting", []⟩],
          [⟨"a", "Wrong", []⟩]⟩ ∧
        alone.2.diagnostics ≠ beside.2.diagnostics := by
    decide +kernel
  obtain ⟨lot, files, ofAlone, -, told, handedAlone, handedBeside, generated, -⟩ :=
    unaffected_by_others lawful visible (Prod.ext aloneEnds rfl)
      Std.TreeSet.not_mem_emptyc (.inr List.mem_cons_self) (Prod.ext besideEnds rfl) new
      (.inr (List.mem_append_right _ List.mem_cons_self))
  obtain ⟨base, named, rfl⟩ := generated ((ofAlone .generated).mp done).symm
  exact ⟨lawful, visible, aloneEnds, besideEnds, report, told, differ, base, named, handedAlone,
    handedBeside⟩

end Pass

end Delegation
