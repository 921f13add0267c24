import Delegation.Proofs.Keyed
import Delegation.Proofs.Pass.Ledger
import Mathlib.Data.List.Perm.Basic

/-!
# The order of a pass

The order in which annotated classes are looked at decides in which order base classes are written
and diagnostics are reported, and nothing else.  It cannot decide whether a pass ends well: a pass
does when all judgements can be carried out and all base classes have new and different names, and
neither depends on an order.

## Main Definitions

* `Progress.Alike`, `MemoryStore.Alike` — the same progress, the same contents.
* `Pass.Alike` — two passes that differ in order only.

## Main Statements

* `MemoryStore.writeAll_eq_none_iff` — when base classes can be written, and what the store holds
  then.
* `Pass.exists_alike_of_run` — annotated classes in another order give a pass alike.
-/

namespace Delegation

open Java

/-! ## Progress -/

/-- The same classes are put off and done. -/
structure Progress.Alike (first second : Progress) : Prop where
  deferred : ∀ type, type ∈ first.deferred ↔ type ∈ second.deferred
  emitted : ∀ type, type ∈ first.emitted ↔ type ∈ second.emitted

/-! ## Stores -/

namespace MemoryStore

/-- A store finds the same under every name. -/
structure Alike (first second : MemoryStore) : Prop where
  files : ∀ name : ClassName, first.files[name]? = second.files[name]?
  classes : ∀ name : ClassName, first.classes[name]? = second.classes[name]?

/-- A store with some more base classes. -/
def withAll (store : MemoryStore) (options : Options) (bases : List BaseClass) : MemoryStore where
  files := store.files.insertMany (bases.map fun base => (base.name, render base options))
  classes := store.classes.insertMany (bases.map fun base => (base.name, base))

/-- A base class is refused when the store has its name. -/
theorem write_of_mem {store : MemoryStore} {base : BaseClass} (options : Options)
    (known : base.name ∈ store.files) : output.write store base (render base options) =
      (.error (.duplicateOutput base.name.qualified), store) := by
  show (if store.files.contains base.name then _ else _) = _
  rw [if_pos (Std.TreeMap.mem_iff_contains.mp known)]
  rfl

/-- A base class is written when its name is new. -/
theorem write_of_notMem {store : MemoryStore} {base : BaseClass} (options : Options)
    (fresh : base.name ∉ store.files) : output.write store base (render base options) =
      (.ok (), store.withAll options [base]) := by
  show (if store.files.contains base.name then _ else _) = _
  rw [if_neg fun held => fresh (Std.TreeMap.mem_iff_contains.mpr held)]
  rfl

theorem withAll_cons (store : MemoryStore) (options : Options) (base : BaseClass)
    (rest : List BaseClass) :
    store.withAll options (base :: rest) = (store.withAll options [base]).withAll options rest := by
  simp only [withAll, List.map_cons, List.map_nil, Std.TreeMap.insertMany_cons]
  rfl

theorem mem_files_withAll_singleton {store : MemoryStore} {options : Options} {base : BaseClass}
    {name : ClassName} :
    name ∈ (store.withAll options [base]).files ↔ base.name = name ∨ name ∈ store.files := by
  simp [withAll, Std.TreeMap.mem_insert]

theorem getElem?_classes_withAll_singleton {store : MemoryStore} {options : Options}
    {base : BaseClass} {name : ClassName} : (store.withAll options [base]).classes[name]? =
      if base.name = name then some base else store.classes[name]? := by
  simp [withAll, Std.TreeMap.getElem?_insert]

/-- Base classes are written when their names are different from each other and from those that the
store has; the store has them in addition then. -/
theorem writeAll_eq_none_iff {options : Options} {store store' : MemoryStore}
    {bases : List BaseClass} :
    output.writeAll options store bases = (none, store') ↔
      (bases.map (·.name)).Nodup ∧ (∀ base ∈ bases, base.name ∉ store.files) ∧
        store' = store.withAll options bases := by
  induction bases generalizing store with
  | nil =>
      show (none, store) = (none, store') ↔ _
      simp [withAll, eq_comm]
  | cons base rest ih =>
      by_cases known : base.name ∈ store.files
      · rw [Output.writeAll, write_of_mem options known]
        simp [known]
      · rw [Output.writeAll, write_of_notMem options known]
        show output.writeAll options (store.withAll options [base]) rest = _ ↔ _
        rw [ih, withAll_cons store options base rest]
        simp only [mem_files_withAll_singleton, List.map_cons, List.nodup_cons, List.forall_mem_cons, List.mem_map,
          not_or, not_exists, not_and]
        constructor
        · rintro ⟨nodup, fresh, rfl⟩
          exact ⟨⟨fun other mem same => (fresh other mem).1 same.symm, nodup⟩,
            ⟨known, fun other mem => (fresh other mem).2⟩, rfl⟩
        · rintro ⟨⟨different, nodup⟩, ⟨-, fresh⟩, rfl⟩
          exact ⟨nodup, fun other mem => ⟨fun same => different other mem same.symm,
            fresh other mem⟩, rfl⟩

/-- Adding things under different names to two maps that agree, in any order, keeps them so. -/
theorem getElem?_insertMany_of_perm {α : Type} {first second : ClassMap α}
    (agree : ∀ name : ClassName, first[name]? = second[name]?) {l l' : List (ClassName × α)}
    (perm : l.Perm l') (nodup : (l.map Prod.fst).Nodup) (name : ClassName) :
    (first.insertMany l)[name]? = (second.insertMany l')[name]? := by
  have distinct : ∀ {m : List (ClassName × α)}, (m.map Prod.fst).Nodup →
      m.Pairwise fun a b => ¬ compare a.1 b.1 = .eq := by
    intro m nodup
    refine (List.pairwise_map.mp nodup).imp fun {a b} different same => ?_
    exact different (Std.LawfulEqCmp.eq_of_compare same)
  by_cases added : ∃ value, (name, value) ∈ l
  · obtain ⟨value, mem⟩ := added
    rw [Std.TreeMap.getElem?_insertMany_list_of_mem Std.ReflCmp.compare_self (distinct nodup) mem,
      Std.TreeMap.getElem?_insertMany_list_of_mem Std.ReflCmp.compare_self
        (distinct ((perm.map _).nodup_iff.mp nodup)) (perm.mem_iff.mp mem)]
  · have absent : ∀ {m : List (ClassName × α)}, m.Perm l →
        (m.map Prod.fst).contains name = false := by
      intro m same
      rw [List.contains_eq_mem, decide_eq_false_iff_not]
      intro listed
      obtain ⟨⟨_, value⟩, mem, rfl⟩ := List.mem_map.mp listed
      exact added ⟨value, same.mem_iff.mp mem⟩
    rw [Std.TreeMap.getElem?_insertMany_list_of_contains_eq_false (absent (.refl _)),
      Std.TreeMap.getElem?_insertMany_list_of_contains_eq_false (absent perm.symm), agree]

/-- Base classes that can be written to one store can be written to a store alike, in any order, and
the stores stay alike. -/
theorem Alike.exists_writeAll {first second first' : MemoryStore} (alike : first.Alike second)
    {options : Options} {bases others : List BaseClass} (perm : bases.Perm others)
    (written : output.writeAll options first bases = (none, first')) :
    ∃ second', output.writeAll options second others = (none, second') ∧
      first'.Alike second' := by
  obtain ⟨nodup, fresh, rfl⟩ := writeAll_eq_none_iff.mp written
  refine ⟨_, writeAll_eq_none_iff.mpr ⟨(perm.map _).nodup_iff.mp nodup, ?_, rfl⟩, ?_, ?_⟩
  · intro base mem held
    refine fresh base (perm.mem_iff.mpr mem) ?_
    rwa [Std.TreeMap.mem_iff_isSome_getElem?, alike.files,
      ← Std.TreeMap.mem_iff_isSome_getElem?]
  · refine getElem?_insertMany_of_perm alike.files (perm.map _) ?_
    rw [List.map_map]
    exact nodup
  · refine getElem?_insertMany_of_perm alike.classes (perm.map _) ?_
    rw [List.map_map]
    exact nodup

end MemoryStore

/-! ## Passes -/

/-- Two passes that differ in order only. -/
structure Pass.Alike (first second : Pass MemoryStore) : Prop where
  progress : first.progress.Alike second.progress
  store : first.store.Alike second.store
  generated : first.report.generated.Perm second.report.generated
  written : first.written.Perm second.written
  diagnostics : first.diagnostics.Perm second.diagnostics
  about : ∀ type, Diagnostic.about first.diagnostics type = Diagnostic.about second.diagnostics type

namespace Pass

variable {table : SymbolTable} {options : Options}

/-- The same classes are looked at. -/
theorem candidates_perm {first second : Progress}
    (alike : first.Alike second) {annotated others : List ClassName}
    (perm : annotated.Perm others) :
    (candidates first annotated table).Perm (candidates second others table) := by
  unfold candidates
  refine List.Perm.filterMap _ ((List.perm_ext_iff_of_nodup (nodup_eraseDups _)
    (nodup_eraseDups _)).mpr fun type => ?_)
  have done : first.emitted.contains type = second.emitted.contains type := by
    rw [Bool.eq_iff_iff, ← Std.TreeSet.mem_iff_contains, ← Std.TreeSet.mem_iff_contains]
    exact alike.emitted type
  simp only [List.mem_eraseDups, List.mem_filter, List.mem_append, Std.TreeSet.mem_toList,
    alike.deferred, perm.mem_iff, done]

/-- A pass over the same annotated classes in another order, from the same progress and contents,
ends well where the first one does, and is alike. -/
theorem exists_alike_of_run (lawful : table.Lawful) {progress progress' : Progress}
    (sameProgress : progress.Alike progress') {annotated others : List ClassName}
    (perm : annotated.Perm others) {store store' : MemoryStore} (sameStore : store.Alike store')
    {first : Pass MemoryStore}
    (ran : run options MemoryStore.output table progress annotated store = (none, first)) :
    ∃ second, run options MemoryStore.output table progress' others store' = (none, second) ∧
      first.Alike second := by
  have looked : (candidates progress annotated table).Perm (candidates progress' others table) :=
    candidates_perm sameProgress perm
  have nodup := nodup_map_name_candidates lawful progress annotated
  obtain ⟨sound, stored, written, rfl⟩ := processAll_eq_none_iff.mp ran
  have bases : (basesAmong table (candidates progress annotated table)).Perm
      (basesAmong table (candidates progress' others table)) := looked.filterMap _
  obtain ⟨stored', written', sameStored⟩ := sameStore.exists_writeAll bases written
  have sound' : ∀ decl ∈ candidates progress' others table, (judge table decl).isSound :=
    fun decl mem => sound decl (looked.mem_iff.mpr mem)
  refine ⟨_, processAll_eq_none_iff.mpr ⟨sound', stored', written', rfl⟩, ?_⟩
  constructor
  · constructor
    · intro type
      simp only [mem_deferred_settled, notMem_deferred_start, false_or]
      exact ((looked.filter _).map _).mem_iff
    · intro type
      simp only [mem_emitted_settled, emitted_start, sameProgress.emitted]
      exact or_congr_right ((looked.filter _).map _).mem_iff
  · exact sameStored
  · exact (bases.map _).append_left _
  · exact bases.append_left _
  · exact (looked.flatMap_right _).append_left _
  · intro type
    show Diagnostic.about ([] ++ _) type = Diagnostic.about ([] ++ _) type
    rw [List.nil_append, List.nil_append]
    exact filter_flatMap_eq_of_perm looked nodup (fun _ _ _ => typeName_of_mem_diagnosticsOf) type

end Pass

end Delegation
