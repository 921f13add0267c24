import Delegation.Proofs.Snapshot.WellFormed
import Delegation.Proofs.Symbol.Walk
import Mathlib.Data.List.Perm.Subperm

/-!
# The members of a type

Whatever the hierarchy is like, with circles, diamonds or missing parents, the members of a type have
exactly the signatures that are declared by a type that it or the root class inherits from, each
signature once.  They come in layers: first what the type inherits, then what only the root class
declares, and last what only the root class inherits.

## Main Definitions

* `SymbolTable.Contributes` — a type takes part in the members of another one.
* `SymbolTable.Layered` — members that are put together in layers.

## Main Statements

* `SymbolTable.Lawful.members_exact` — which members a type has, and in which layers.
-/

namespace Delegation

open Java

namespace SymbolTable

variable {table : SymbolTable}

/-- A type takes part in the members of another one when that type or the root class inherits from
it. -/
def Contributes (table : SymbolTable) (decl type : TypeDecl) : Prop :=
  table.Inherits decl type ∨
    ∃ root, table.lookup table.root = some root ∧ table.Inherits root type

/-- The members of a type in three layers, where `root` is the declaration of the root class. -/
structure Layered (table : SymbolTable) (decl root : TypeDecl)
    (inherited own further : List Method) : Prop where
  /-- The first layer comes from what the type inherits from. -/
  inherited_from : ∀ method ∈ inherited, ∃ type, table.Inherits decl type ∧ method ∈ type.methods
  /-- It has all signatures that are declared there. -/
  inherited_iff : ∀ signature, signature ∈ inherited.map Method.signature ↔
    ∃ type, table.Inherits decl type ∧ type.Declares signature
  /-- The second layer comes from the root class. -/
  own_from : ∀ method ∈ own, method ∈ root.methods
  /-- It has the signatures that the root class declares and nothing in the first layer does. -/
  own_iff : ∀ signature, signature ∈ own.map Method.signature ↔
    root.Declares signature ∧ ∀ type, table.Inherits decl type → ¬ type.Declares signature
  /-- The last layer comes from other types that the root class inherits from. -/
  further_from : ∀ method ∈ further, ∃ type, table.Inherits root type ∧
    ¬ table.Inherits decl type ∧ method ∈ type.methods

/-- Some of the types declare a signature when their methods have it. -/
theorem mem_map_signature_flatMap {types : List TypeDecl} {signature : Signature} :
    signature ∈ (types.flatMap (·.methods)).map Method.signature ↔
      ∃ type ∈ types, type.Declares signature := by
  simp only [List.mem_map, List.mem_flatMap, TypeDecl.Declares]
  constructor
  · rintro ⟨method, ⟨type, listed, mem⟩, same⟩
    exact ⟨type, listed, method, mem, same⟩
  · rintro ⟨type, listed, method, mem, same⟩
    exact ⟨method, ⟨type, listed, mem⟩, same⟩

/-- The members have the signatures that the types of the lineage declare. -/
theorem mem_map_signature_members {decl : TypeDecl} (visible : table.lookup decl.name = some decl)
    {signature : Signature} : signature ∈ (table.members decl).map Method.signature ↔
      ∃ type, table.Contributes decl type ∧ type.Declares signature := by
  rw [members_eq_firsts, mem_map_signature_firsts, declared, mem_map_signature_flatMap]
  simp only [mem_lineage_iff visible, Contributes]

/-- Every member is declared by a type of the lineage. -/
theorem exists_of_mem_members {decl : TypeDecl} (visible : table.lookup decl.name = some decl)
    {method : Method} (member : method ∈ table.members decl) :
    ∃ type, table.Contributes decl type ∧ method ∈ type.methods := by
  rw [members_eq_firsts] at member
  obtain ⟨type, listed, mem⟩ := List.mem_flatMap.mp (mem_firsts_of_mem member)
  exact ⟨type, (mem_lineage_iff visible).mp listed, mem⟩

namespace Lawful

variable (lawful : table.Lawful)
include lawful

/-- A lineage goes to each name of the table at most once. -/
theorem length_lineage_le {decl : TypeDecl} (visible : table.lookup decl.name = some decl) :
    (table.lineage decl).length ≤ table.names.length := by
  rw [← List.length_map (·.name)]
  apply List.Subperm.length_le
  apply List.subperm_of_subset (lawful.nodup_map_name_lineage decl)
  intro name mem
  obtain ⟨type, listed, rfl⟩ := List.mem_map.mp mem
  apply table.mem_names
  rcases List.mem_cons.mp listed with rfl | reached
  · rw [visible]
    rfl
  · rw [(lawful.lookup_of_mem_reach reached).2]
    rfl

/-- Where the root class is not inherited from, it comes right after the ancestry. -/
theorem lineage_eq_of_not_inherits {decl root : TypeDecl}
    (visible : table.lookup decl.name = some decl) (found : table.lookup table.root = some root)
    (apart : ¬ table.Inherits decl root) :
    table.lineage decl = table.ancestry decl ++
      root :: table.reach (table.root :: (table.ancestry decl).map (·.name)) root.interfaces := by
  have fresh : table.root ∉ (table.ancestry decl).map (·.name) := by
    rw [List.mem_map]
    rintro ⟨type, mem, same⟩
    have inherits := (mem_ancestry_iff visible).mp mem
    have foundType := inherits.lookup lawful visible
    rw [same, found] at foundType
    exact apart (Option.some.inj foundType ▸ inherits)
  rw [lawful.lineage_eq, reach_cons_of_lookup [] fresh found, List.append_nil]

/-- The members of a type come in layers. -/
theorem exists_layered {decl root : TypeDecl} (visible : table.lookup decl.name = some decl)
    (found : table.lookup table.root = some root) (apart : ¬ table.Inherits decl root) :
    ∃ inherited own further, table.members decl = inherited ++ own ++ further ∧
      table.Layered decl root inherited own further := by
  have ancestry_iff : ∀ signature,
      signature ∈ ((table.ancestry decl).flatMap (·.methods)).map Method.signature ↔
        ∃ type, table.Inherits decl type ∧ type.Declares signature := by
    intro signature
    simp only [mem_map_signature_flatMap, mem_ancestry_iff visible]
  have parts := lawful.lineage_eq_of_not_inherits visible found apart
  rw [members_eq_firsts, declared, parts, List.flatMap_append, List.flatMap_cons, firsts_append,
    firsts_append, List.filter_append, ← List.append_assoc]
  refine ⟨_, _, _, rfl, ?_, ?_, ?_, ?_, ?_⟩
  · intro method mem
    obtain ⟨type, listed, declared⟩ := List.mem_flatMap.mp (mem_firsts_of_mem mem)
    exact ⟨type, (mem_ancestry_iff visible).mp listed, declared⟩
  · intro signature
    rw [mem_map_signature_firsts, ancestry_iff]
  · intro method mem
    exact mem_firsts_of_mem (List.mem_filter.mp mem).1
  · intro signature
    have declares_iff : root.Declares signature ↔
        signature ∈ (firsts root.methods).map Method.signature := by
      rw [mem_map_signature_firsts, List.mem_map]
      rfl
    have nowhere_iff : (∀ type, table.Inherits decl type → ¬ type.Declares signature) ↔
        signature ∉ ((table.ancestry decl).flatMap (·.methods)).map Method.signature := by
      rw [ancestry_iff]
      push Not
      rfl
    rw [declares_iff, nowhere_iff, List.mem_map, List.mem_map]
    simp only [List.mem_filter, decide_eq_true_eq]
    constructor
    · rintro ⟨method, ⟨mem, unseen⟩, rfl⟩
      exact ⟨⟨method, mem, rfl⟩, unseen⟩
    · rintro ⟨⟨method, mem, rfl⟩, unseen⟩
      exact ⟨method, ⟨mem, unseen⟩, rfl⟩
  · intro method mem
    have picked := (List.mem_filter.mp (List.mem_filter.mp mem).1).1
    obtain ⟨type, reached, declared⟩ := List.mem_flatMap.mp (mem_firsts_of_mem picked)
    obtain ⟨name, listed, parent, foundParent, inherits⟩ := inherits_of_mem_reach reached
    refine ⟨type, .ofParent listed foundParent inherits, fun also => ?_, declared⟩
    -- what the type inherits from had been visited when the search came to the root class
    apply (lawful.lookup_of_mem_reach reached).1
    exact List.mem_cons_of_mem _ (List.mem_map_of_mem ((mem_ancestry_iff visible).mpr also))

/-- **Which members a type has.**  The search for them goes to each type once and ends.  No signature
comes twice; the signatures are exactly those that are declared by the type, by a visible type that
it inherits from, or by the root class or a visible type that this inherits from; and every member is
one of these declarations.  If the type does not inherit from the root class, the members come in
layers: a signature of the root class is represented by a method of the root class exactly when
nothing declares it that the type inherits from, and these methods come after all that is inherited. -/
theorem members_exact {decl : TypeDecl} (visible : table.lookup decl.name = some decl) :
    ((table.lineage decl).map (·.name)).Nodup ∧
    (table.lineage decl).length ≤ table.names.length ∧
    ((table.members decl).map Method.signature).Nodup ∧
    (∀ signature, signature ∈ (table.members decl).map Method.signature ↔
      ∃ type, table.Contributes decl type ∧ type.Declares signature) ∧
    (∀ method ∈ table.members decl, ∃ type, table.Contributes decl type ∧
      method ∈ type.methods) ∧
    ∀ root, table.lookup table.root = some root → ¬ table.Inherits decl root →
      ∃ inherited own further, table.members decl = inherited ++ own ++ further ∧
        table.Layered decl root inherited own further := by
  refine ⟨lawful.nodup_map_name_lineage decl, lawful.length_lineage_le visible, ?_,
    fun _ => mem_map_signature_members visible, fun _ => exists_of_mem_members visible,
    fun root found apart => lawful.exists_layered visible found apart⟩
  rw [members_eq_firsts]
  exact nodup_map_signature_firsts _

end Lawful

/-- `I` and `A` inherit from each other, `B` comes in twice, and one parent of `I` is missing.  `B`
declares a method of the root class again. -/
def circleWithGap : List TypeDefinition :=
  [{ name := "foo.I", kind := .interface, interfaces := ["foo.A", "foo.Gone", "foo.B"] },
   { name := "foo.A", kind := .interface, methods := [{ name := "m" }]
     interfaces := ["foo.B", "foo.I"] },
   { name := "foo.B", kind := .interface, methods := [{ name := "m" }, { name := "hashCode" }] }]

/-- The members of `I` are the method of `A`, that of `B`, and two of the root class. -/
theorem members_circleWithGap :
    let table := (Snapshot.sample circleWithGap).table
    table.Lawful ∧ ∃ decl root, table.lookup ⟨"foo", "I", []⟩ = some decl ∧
      table.lookup table.root = some root ∧ ¬ table.Inherits decl root ∧
      ((table.members decl).map fun method => (method.owner.simpleName, method.name)) =
        [("A", "m"), ("B", "hashCode"), ("Object", "equals"), ("Object", "toString")] ∧
      ∃ inherited own further, table.members decl = inherited ++ own ++ further ∧
        table.Layered decl root inherited own further := by
  intro table
  have reached : (Snapshot.sample circleWithGap).Reached :=
    .read (Snapshot.ofTypes_sample (by decide +kernel))
  have lawful : table.Lawful := reached.wellFormed.lawful
  have members : (table.lookup ⟨"foo", "I", []⟩).map (fun decl =>
      (table.members decl).map fun method => (method.owner.simpleName, method.name)) =
        some [("A", "m"), ("B", "hashCode"), ("Object", "equals"), ("Object", "toString")] := by
    decide +kernel
  have apart : (table.lookup ⟨"foo", "I", []⟩).all fun decl => (table.lookup table.root).any
      fun root => root ∉ table.ancestry decl := by decide +kernel
  obtain ⟨decl, found, members⟩ := Option.map_eq_some_iff.mp members
  rw [found, Option.all_some] at apart
  obtain ⟨root, foundRoot, apart⟩ := (Option.any_eq_true _ _).mp apart
  have visible : table.lookup decl.name = some decl := by rwa [lawful _ _ found]
  have apart : ¬ table.Inherits decl root := by
    rw [← mem_ancestry_iff visible]
    exact of_decide_eq_true apart
  obtain ⟨-, -, -, -, -, layers⟩ := lawful.members_exact visible
  exact ⟨lawful, decl, root, found, foundRoot, apart, members, layers root foundRoot apart⟩

end SymbolTable

end Delegation
