import Delegation.Proofs.Symbol.Reach
import Mathlib.Data.List.Flatten
import Mathlib.Data.List.Nodup

/-!
# The order of a search

The search goes to every type once.  Two searches that follow each other are one: the second passes
over what the first has found.  So the lineage of a type is its ancestry, which is what the type
itself inherits from, and then whatever the root class adds to it.  Methods are picked along the
lineage, and what the first part of it has is not picked again from the second one.

## Main Definitions

* `SymbolTable.ancestry` — what a type inherits from, in the order of the search.
* `TypeDecl.Declares` — a type declares a signature.
* `firsts` — of several methods, the first of each signature.

## Main Statements

* `SymbolTable.Lawful.reach_append` — one search after another.
* `SymbolTable.Lawful.nodup_map_name_reach` — no type is visited twice.
* `SymbolTable.mem_ancestry_iff` — the ancestry is what a type inherits from.
-/

namespace Delegation

open Java

/-! ## Searches -/

namespace SymbolTable

variable {table : SymbolTable}

/-- A search depends on which names were visited, and not on their order. -/
theorem reach_congr {visited other : List ClassName} (same : ∀ name, name ∈ visited ↔ name ∈ other)
    (names : List ClassName) : table.reach visited names = table.reach other names := by
  induction visited, names using reach.induct table generalizing other with
  | case1 => rw [reach_nil, reach_nil]
  | case2 visited name rest seen ih =>
      rw [reach_cons_of_mem rest seen, reach_cons_of_mem rest ((same name).mp seen), ih same]
  | case3 visited name rest fresh decl found ih =>
      rw [reach_cons_of_lookup rest fresh found,
        reach_cons_of_lookup rest (mt (same name).mpr fresh) found]
      congr 1
      apply ih
      intro other
      rw [List.mem_cons, List.mem_cons, same other]
  | case4 visited name rest fresh invisible ih =>
      rw [reach_cons_of_invisible rest invisible, reach_cons_of_invisible rest invisible, ih same]

/-- What is found was looked up under a name that had not been visited. -/
theorem exists_lookup_of_mem_reach {visited names : List ClassName} {decl : TypeDecl}
    (mem : decl ∈ table.reach visited names) :
    ∃ name, name ∉ visited ∧ table.lookup name = some decl := by
  induction visited, names using reach.induct table with
  | case1 => simp at mem
  | case2 visited name rest seen ih =>
      rw [reach_cons_of_mem rest seen] at mem
      exact ih mem
  | case3 visited name rest fresh other found ih =>
      rw [reach_cons_of_lookup rest fresh found] at mem
      rcases List.mem_cons.mp mem with rfl | mem
      · exact ⟨name, fresh, found⟩
      · obtain ⟨next, unseen, foundNext⟩ := ih mem
        exact ⟨next, mt (List.mem_cons_of_mem _) unseen, foundNext⟩
  | case4 visited name rest fresh invisible ih =>
      rw [reach_cons_of_invisible rest invisible] at mem
      exact ih mem

namespace Lawful

variable (lawful : table.Lawful)
include lawful

/-- What is found is visible under its name, which had not been visited. -/
theorem lookup_of_mem_reach {visited names : List ClassName} {decl : TypeDecl}
    (mem : decl ∈ table.reach visited names) :
    decl.name ∉ visited ∧ table.lookup decl.name = some decl := by
  obtain ⟨name, fresh, found⟩ := exists_lookup_of_mem_reach mem
  obtain rfl := lawful name decl found
  exact ⟨fresh, found⟩

/-- **No type is visited twice.** -/
theorem nodup_map_name_reach (visited names : List ClassName) :
    ((table.reach visited names).map (·.name)).Nodup := by
  induction visited, names using reach.induct table with
  | case1 => simp
  | case2 visited name rest seen ih => rwa [reach_cons_of_mem rest seen]
  | case3 visited name rest fresh decl found ih =>
      rw [reach_cons_of_lookup rest fresh found, List.map_cons, List.nodup_cons]
      refine ⟨?_, ih⟩
      rw [lawful name decl found, List.mem_map]
      rintro ⟨other, mem, same⟩
      exact (lawful.lookup_of_mem_reach mem).1 (same ▸ List.mem_cons_self)
  | case4 visited name rest fresh invisible ih => rwa [reach_cons_of_invisible rest invisible]

/-- **Two searches that follow each other are one.**  The second search passes over what the first
one has found. -/
theorem reach_append (visited first second : List ClassName) :
    table.reach visited (first ++ second) = table.reach visited first ++
      table.reach ((table.reach visited first).map (·.name) ++ visited) second := by
  induction visited, first using reach.induct table with
  | case1 => simp
  | case2 visited name rest seen ih =>
      rw [List.cons_append, reach_cons_of_mem _ seen, reach_cons_of_mem _ seen, ih]
  | case3 visited name rest fresh decl found ih =>
      rw [List.cons_append, reach_cons_of_lookup _ fresh found, reach_cons_of_lookup _ fresh found,
        ← List.append_assoc, ih, List.cons_append]
      congr 2
      apply reach_congr
      intro other
      simp only [List.map_cons, List.mem_append, List.mem_cons, lawful name decl found]
      rw [or_left_comm, or_assoc]
  | case4 visited name rest fresh invisible ih =>
      rw [List.cons_append, reach_cons_of_invisible _ invisible,
        reach_cons_of_invisible _ invisible, ih]

/-- A search that finds a type goes through all that the type leads to before it goes on. -/
theorem reach_cons {visited : List ClassName} {name : ClassName} {decl : TypeDecl}
    (rest : List ClassName) (fresh : name ∉ visited) (found : table.lookup name = some decl) :
    table.reach visited (name :: rest) = decl :: table.reach (name :: visited) decl.interfaces ++
      table.reach ((table.reach (name :: visited) decl.interfaces).map (·.name) ++
        name :: visited) rest := by
  rw [reach_cons_of_lookup rest fresh found, lawful.reach_append, List.cons_append]

end Lawful

/-- The more was visited, the less is pending. -/
theorem length_pending_le {visited more : List ClassName} (subset : visited ⊆ more) :
    (table.pending more).length ≤ (table.pending visited).length := by
  have fewer : table.names.filter (· ∉ more) = (table.names.filter (· ∉ visited)).filter
      (· ∉ more) := by
    rw [List.filter_filter]
    refine List.filter_congr fun name _ => ?_
    by_cases seen : name ∈ more
    · simp [seen]
    · simp [seen, mt (@subset name) seen]
  rw [pending, pending, pendingAmong, pendingAmong, fewer]
  exact (List.filter_sublist.flatMap _).length_le

/-- A search goes through what a type leads to, and then through the rest. -/
theorem searchInduction (table : SymbolTable) {motive : List ClassName → List ClassName → Prop}
    (nil : ∀ visited, motive visited [])
    (seen : ∀ visited name rest, name ∈ visited → motive visited rest →
      motive visited (name :: rest))
    (found : ∀ visited name rest decl, name ∉ visited → table.lookup name = some decl →
      motive (name :: visited) decl.interfaces →
      motive ((table.reach (name :: visited) decl.interfaces).map (·.name) ++ name :: visited)
        rest → motive visited (name :: rest))
    (invisible : ∀ visited name rest, table.lookup name = none → motive visited rest →
      motive visited (name :: rest)) (visited names : List ClassName) : motive visited names := by
  match names with
  | [] => exact nil visited
  | name :: rest =>
      by_cases known : name ∈ visited
      · exact seen visited name rest known
          (table.searchInduction nil seen found invisible visited rest)
      · cases lookup : table.lookup name with
        | none =>
            exact invisible visited name rest lookup
              (table.searchInduction nil seen found invisible visited rest)
        | some decl =>
            have less := table.length_pending_visit_add_le known lookup
            have fewer := table.length_pending_le (List.subset_append_right
              ((table.reach (name :: visited) decl.interfaces).map (·.name)) (name :: visited))
            exact found visited name rest decl known lookup
              (table.searchInduction nil seen found invisible (name :: visited) decl.interfaces)
              (table.searchInduction nil seen found invisible _ rest)
termination_by (table.pending visited).length + names.length
decreasing_by
  all_goals
    simp only [List.length_cons]
    omega

/-! ## Ancestry and lineage -/

/-- What a type inherits from, in the order of the search. -/
def ancestry (table : SymbolTable) (decl : TypeDecl) : List TypeDecl :=
  decl :: table.reach [decl.name] decl.interfaces

/-- The ancestry of a visible type is what the type inherits from. -/
theorem mem_ancestry_iff {decl ancestor : TypeDecl} (visible : table.lookup decl.name = some decl) :
    ancestor ∈ table.ancestry decl ↔ table.Inherits decl ancestor := by
  constructor
  · intro mem
    rcases List.mem_cons.mp mem with rfl | mem
    · exact .self
    · obtain ⟨name, listed, parent, found, inherits⟩ := inherits_of_mem_reach mem
      exact .ofParent listed found inherits
  · exact fun inherits => inherits.mem_reach visible

/-- What a visible type inherits from is visible. -/
theorem Inherits.lookup (lawful : table.Lawful) {decl ancestor : TypeDecl}
    (visible : table.lookup decl.name = some decl) (inherits : table.Inherits decl ancestor) :
    table.lookup ancestor.name = some ancestor := by
  cases inherits with
  | self => exact visible
  | parent _ _ found => rwa [lawful _ _ found]

theorem Inherits.trans {decl middle ancestor : TypeDecl} (first : table.Inherits decl middle)
    (second : table.Inherits middle ancestor) : table.Inherits decl ancestor := by
  induction second with
  | self => exact first
  | parent _ listed found ih => exact .parent ih listed found

namespace Lawful

variable (lawful : table.Lawful)
include lawful

/-- The lineage of a type is its ancestry and what the root class adds. -/
theorem lineage_eq (decl : TypeDecl) : table.lineage decl = table.ancestry decl ++
    table.reach ((table.ancestry decl).map (·.name)) [table.root] := by
  rw [lineage, lawful.reach_append, ancestry, List.cons_append]
  congr 2
  apply reach_congr
  intro name
  simp only [List.mem_append, List.map_cons, List.mem_cons, List.not_mem_nil, or_false]
  exact Or.comm

/-- No type comes twice in a lineage. -/
theorem nodup_map_name_lineage (decl : TypeDecl) :
    ((table.lineage decl).map (·.name)).Nodup := by
  rw [lineage, List.map_cons, List.nodup_cons]
  refine ⟨?_, lawful.nodup_map_name_reach _ _⟩
  rw [List.mem_map]
  rintro ⟨other, mem, same⟩
  exact (lawful.lookup_of_mem_reach mem).1 (same ▸ List.mem_cons_self)

end Lawful

end SymbolTable

/-! ## The first of each signature -/

/-- A type declares a signature. -/
def TypeDecl.Declares (decl : TypeDecl) (signature : Signature) : Prop :=
  ∃ method ∈ decl.methods, method.signature = signature

/-- Of several methods, the first of each signature. -/
def firsts (methods : List Method) : List Method :=
  (firstPerSignature (methods.map fun method => (method.signature, method))).map (·.2)

theorem members_eq_firsts (table : SymbolTable) (decl : TypeDecl) :
    table.members decl = firsts (table.declared decl) := rfl

/-- What comes first is picked, and of the rest what has another signature. -/
theorem firsts_cons (method : Method) (methods : List Method) :
    firsts (method :: methods) =
      method :: (firsts methods).filter (·.signature ≠ method.signature) := by
  have keyed : ∀ pair ∈ firstPerSignature (methods.map fun method => (method.signature, method)),
      pair.1 = pair.2.signature := by
    intro pair mem
    have listed := List.mem_of_find?_eq_some (mem_firstPerSignature_iff.mp mem)
    obtain ⟨other, -, rfl⟩ := List.mem_map.mp listed
    rfl
  rw [firsts, List.map_cons, firstPerSignature, List.map_cons, firsts, List.filter_map]
  congr 2
  refine List.filter_congr fun pair mem => ?_
  rw [Function.comp_apply, keyed pair mem]

theorem mem_firsts_of_mem {methods : List Method} {method : Method} (mem : method ∈ firsts methods) :
    method ∈ methods := by
  induction methods with
  | nil => exact mem
  | cons first rest ih =>
      rw [firsts_cons] at mem
      rcases List.mem_cons.mp mem with rfl | later
      · exact List.mem_cons_self
      · exact List.mem_cons_of_mem _ (ih (List.mem_filter.mp later).1)

/-- Every signature is picked. -/
theorem mem_map_signature_firsts {methods : List Method} {signature : Signature} :
    signature ∈ (firsts methods).map Method.signature ↔
      signature ∈ methods.map Method.signature := by
  induction methods with
  | nil => rfl
  | cons first rest ih =>
      rw [firsts_cons, List.map_cons, List.map_cons, List.mem_cons, List.mem_cons, ← ih]
      by_cases same : signature = first.signature
      · simp [same]
      · simp only [same, false_or, List.mem_map, List.mem_filter, decide_eq_true_eq]
        constructor
        · rintro ⟨method, ⟨mem, -⟩, named⟩
          exact ⟨method, mem, named⟩
        · rintro ⟨method, mem, rfl⟩
          exact ⟨method, ⟨mem, same⟩, rfl⟩

/-- No signature is picked twice. -/
theorem nodup_map_signature_firsts (methods : List Method) :
    ((firsts methods).map Method.signature).Nodup := by
  induction methods with
  | nil => exact List.nodup_nil
  | cons first rest ih =>
      rw [firsts_cons, List.map_cons, List.nodup_cons]
      constructor
      · rw [List.mem_map]
        rintro ⟨method, mem, same⟩
        simp [same] at mem
      · exact ih.sublist ((List.filter_sublist).map _)

/-- What the first part of a list has is not picked again from the second one. -/
theorem firsts_append (methods later : List Method) :
    firsts (methods ++ later) = firsts methods ++
      (firsts later).filter fun method => method.signature ∉ methods.map Method.signature := by
  induction methods with
  | nil => simp [firsts, firstPerSignature, List.filter_true]
  | cons first rest ih =>
      rw [List.cons_append, firsts_cons, firsts_cons, ih, List.filter_append, List.filter_filter,
        List.cons_append]
      congr 2
      refine List.filter_congr fun method _ => ?_
      simp [List.mem_cons, not_or, Bool.decide_and]

end Delegation
