import Delegation.Proofs.Symbol.Table
import Delegation.Symbol.Hierarchy

/-!
# What a search reaches

The search through a hierarchy lists each type once and in a certain order.  Which types it lists is
independent of the order: they are the types that a chain of interfaces leads to, however the
hierarchy branches, meets again or runs in circles.  The members of a type are then the first
declarations of their signatures along the search.

## Main Definitions

* `SymbolTable.Inherits` — a chain of interfaces leads from one type to another.
* `SymbolTable.declared` — all methods along the search, hidden ones included.

## Main Statements

* `SymbolTable.mem_lineage_iff` — the lineage is what the type and the root class inherit from.
* `SymbolTable.mem_members_iff` — the members are the first declarations of their signatures.
-/

namespace Delegation

open Java

namespace SymbolTable

variable {table : SymbolTable}

/-! ## The search -/

@[simp] theorem reach_nil (visited : List ClassName) : table.reach visited [] = [] := by
  rw [reach]

/-- A name that was visited already is passed over. -/
theorem reach_cons_of_mem {visited : List ClassName} {name : ClassName} (rest : List ClassName)
    (seen : name ∈ visited) : table.reach visited (name :: rest) = table.reach visited rest := by
  rw [reach, dif_pos seen]

/-- A visible type is listed, and its interfaces are next. -/
theorem reach_cons_of_lookup {visited : List ClassName} {name : ClassName} {decl : TypeDecl}
    (rest : List ClassName) (fresh : name ∉ visited) (found : table.lookup name = some decl) :
    table.reach visited (name :: rest) =
      decl :: table.reach (name :: visited) (decl.interfaces ++ rest) := by
  rw [reach, dif_neg fresh]
  split
  · rename_i other foundOther
    obtain rfl : decl = other := Option.some.inj (found.symm.trans foundOther)
    rfl
  · rename_i invisible
    rw [found] at invisible
    cases invisible

/-- A name that denotes nothing is passed over. -/
theorem reach_cons_of_invisible {visited : List ClassName} {name : ClassName}
    (rest : List ClassName) (invisible : table.lookup name = none) :
    table.reach visited (name :: rest) = table.reach visited rest := by
  by_cases seen : name ∈ visited
  · exact reach_cons_of_mem rest seen
  · rw [reach, dif_neg seen]
    split
    · rename_i other found
      rw [invisible] at found
      cases found
    · rfl

/-- A visible type that the search starts from is listed. -/
theorem mem_reach_of_mem {visited names : List ClassName} {name : ClassName} {decl : TypeDecl}
    (listed : name ∈ names) (fresh : name ∉ visited) (found : table.lookup name = some decl) :
    decl ∈ table.reach visited names := by
  -- `visited` grows and `names` is rebuilt at every step, so the induction is the search's own.
  induction visited, names using reach.induct table with
  | case1 => cases listed
  | case2 visited head rest seen ih =>
      rw [reach_cons_of_mem rest seen]
      rcases List.mem_cons.mp listed with rfl | listed
      · exact absurd seen fresh
      · exact ih listed fresh
  | case3 visited head rest unseen other foundOther ih =>
      rw [reach_cons_of_lookup rest unseen foundOther]
      by_cases same : name = head
      · subst same
        rw [found] at foundOther
        cases foundOther
        exact List.mem_cons_self
      · have later := (List.mem_cons.mp listed).resolve_left same
        exact List.mem_cons_of_mem _
          (ih (List.mem_append_right _ later) (by simp [same, fresh]))
  | case4 visited head rest unseen invisible ih =>
      rw [reach_cons_of_invisible rest invisible]
      rcases List.mem_cons.mp listed with rfl | listed
      · rw [invisible] at found
        cases found
      · exact ih listed fresh

/-- The search is closed: a visible interface of a listed type is listed, unless it was visited
before. -/
theorem mem_reach_of_parent {visited names : List ClassName} {middle decl : TypeDecl}
    {name : ClassName} (mem : middle ∈ table.reach visited names)
    (listed : name ∈ middle.interfaces) (fresh : name ∉ visited)
    (found : table.lookup name = some decl) : decl ∈ table.reach visited names := by
  induction visited, names using reach.induct table with
  | case1 => simp at mem
  | case2 visited head rest seen ih =>
      rw [reach_cons_of_mem rest seen] at mem ⊢
      exact ih mem fresh
  | case3 visited head rest unseen other foundOther ih =>
      rw [reach_cons_of_lookup rest unseen foundOther] at mem ⊢
      by_cases same : name = head
      · subst same
        rw [found] at foundOther
        cases foundOther
        exact List.mem_cons_self
      · refine List.mem_cons_of_mem _ ?_
        rcases List.mem_cons.mp mem with rfl | mem
        -- the listed type is the one at hand, and its interfaces are searched next
        · exact mem_reach_of_mem (List.mem_append_left _ listed) (by simp [same, fresh]) found
        · exact ih mem (by simp [same, fresh])
  | case4 visited head rest unseen invisible ih =>
      rw [reach_cons_of_invisible rest invisible] at mem ⊢
      exact ih mem fresh

/-! ## Inheriting -/

/-- A type inherits from itself and from the visible interfaces of the types it inherits from. -/
inductive Inherits (table : SymbolTable) (decl : TypeDecl) : TypeDecl → Prop
  | self : Inherits table decl decl
  | parent {middle ancestor : TypeDecl} {name : ClassName} (inherits : Inherits table decl middle)
      (listed : name ∈ middle.interfaces) (found : table.lookup name = some ancestor) :
      Inherits table decl ancestor

/-- What an interface of a type inherits from, the type inherits from. -/
theorem Inherits.ofParent {decl parent ancestor : TypeDecl} {name : ClassName}
    (listed : name ∈ decl.interfaces) (found : table.lookup name = some parent)
    (inherits : table.Inherits parent ancestor) : table.Inherits decl ancestor := by
  induction inherits with
  | self => exact .parent .self listed found
  | parent _ listed found ih => exact .parent ih listed found

/-- Whatever is reached is inherited from by one of the names the search starts from. -/
theorem inherits_of_mem_reach {visited names : List ClassName} {ancestor : TypeDecl}
    (mem : ancestor ∈ table.reach visited names) :
    ∃ name ∈ names, ∃ decl, table.lookup name = some decl ∧ table.Inherits decl ancestor := by
  induction visited, names using reach.induct table with
  | case1 => simp at mem
  | case2 visited name rest seen ih =>
      rw [reach_cons_of_mem rest seen] at mem
      obtain ⟨start, listed, found⟩ := ih mem
      exact ⟨start, List.mem_cons_of_mem _ listed, found⟩
  | case3 visited name rest fresh decl found ih =>
      rw [reach_cons_of_lookup rest fresh found] at mem
      rcases List.mem_cons.mp mem with rfl | mem
      · exact ⟨name, List.mem_cons_self, ancestor, found, .self⟩
      · obtain ⟨start, listed, parent, foundParent, inherits⟩ := ih mem
        rcases List.mem_append.mp listed with listed | listed
        · exact ⟨name, List.mem_cons_self, decl, found, .ofParent listed foundParent inherits⟩
        · exact ⟨start, List.mem_cons_of_mem _ listed, parent, foundParent, inherits⟩
  | case4 visited name rest fresh invisible ih =>
      rw [reach_cons_of_invisible rest invisible] at mem
      obtain ⟨start, listed, found⟩ := ih mem
      exact ⟨start, List.mem_cons_of_mem _ listed, found⟩

/-- What a visible type inherits from is the type itself or found by the search for its parents. -/
theorem Inherits.mem_reach {decl ancestor : TypeDecl}
    (visible : table.lookup decl.name = some decl) (inherits : table.Inherits decl ancestor) :
    ancestor ∈ decl :: table.reach [decl.name] decl.interfaces := by
  induction inherits with
  | self => exact List.mem_cons_self
  | @parent middle ancestor name _ listed found ih =>
      by_cases same : name = decl.name
      · rw [same, visible] at found
        cases found
        exact List.mem_cons_self
      · have fresh : name ∉ [decl.name] := by simpa using same
        refine List.mem_cons_of_mem _ ?_
        rcases List.mem_cons.mp ih with rfl | reached
        · exact mem_reach_of_mem listed fresh found
        · exact mem_reach_of_parent reached listed fresh found

/-- The lineage of a visible type is closed under interfaces. -/
theorem mem_lineage_of_parent {decl middle ancestor : TypeDecl} {name : ClassName}
    (visible : table.lookup decl.name = some decl) (mem : middle ∈ table.lineage decl)
    (listed : name ∈ middle.interfaces) (found : table.lookup name = some ancestor) :
    ancestor ∈ table.lineage decl := by
  by_cases same : name = decl.name
  · subst same
    rw [visible] at found
    cases found
    exact List.mem_cons_self
  · have fresh : name ∉ [decl.name] := by simpa using same
    refine List.mem_cons_of_mem _ ?_
    rcases List.mem_cons.mp mem with rfl | mem
    · exact mem_reach_of_mem (List.mem_append_left _ listed) fresh found
    · exact mem_reach_of_parent mem listed fresh found

/-- The lineage of a visible type contains the root class, which may be the type itself. -/
theorem root_mem_lineage {decl root : TypeDecl} (visible : table.lookup decl.name = some decl)
    (found : table.lookup table.root = some root) : root ∈ table.lineage decl := by
  by_cases same : table.root = decl.name
  · rw [same, visible] at found
    cases found
    exact List.mem_cons_self
  · refine List.mem_cons_of_mem _ (mem_reach_of_mem ?_ (by simpa using same) found)
    exact List.mem_append_right _ List.mem_cons_self

/-- What a type of the lineage inherits from is in the lineage. -/
theorem Inherits.mem_lineage {decl start ancestor : TypeDecl}
    (visible : table.lookup decl.name = some decl) (mem : start ∈ table.lineage decl)
    (inherits : table.Inherits start ancestor) : ancestor ∈ table.lineage decl := by
  induction inherits with
  | self => exact mem
  | parent _ listed found ih => exact mem_lineage_of_parent visible ih listed found

/-- The lineage of a type consists of what the type and the root class inherit from. -/
theorem mem_lineage_iff {decl ancestor : TypeDecl} (visible : table.lookup decl.name = some decl) :
    ancestor ∈ table.lineage decl ↔ table.Inherits decl ancestor ∨
      ∃ root, table.lookup table.root = some root ∧ table.Inherits root ancestor := by
  constructor
  · intro mem
    rcases List.mem_cons.mp mem with rfl | mem
    · exact .inl .self
    · obtain ⟨name, listed, parent, found, inherits⟩ := inherits_of_mem_reach mem
      rcases List.mem_append.mp listed with listed | listed
      · exact .inl (.ofParent listed found inherits)
      · rw [List.mem_singleton] at listed
        exact .inr ⟨parent, listed ▸ found, inherits⟩
  · rintro (inherits | ⟨root, found, inherits⟩)
    · exact inherits.mem_lineage visible List.mem_cons_self
    · exact inherits.mem_lineage visible (root_mem_lineage visible found)

end SymbolTable

/-! ## Members -/

/-- What is kept of several methods is the first of each signature. -/
theorem mem_firstPerSignature_iff {methods : List (Signature × Method)}
    {kept : Signature × Method} :
    kept ∈ firstPerSignature methods ↔ methods.find? (·.1 = kept.1) = some kept := by
  induction methods with
  | nil => simp [firstPerSignature]
  | cons first rest ih =>
      rw [firstPerSignature, List.mem_cons, List.mem_filter, ih, List.find?_cons]
      by_cases same : first.1 = kept.1
      · simp [same, eq_comm]
      · simp only [same, decide_false, decide_eq_true_eq]
        constructor
        · rintro (rfl | ⟨found, -⟩)
          · exact absurd rfl same
          · exact found
        · exact fun found => .inr ⟨found, fun equal => same equal.symm⟩

namespace SymbolTable

/-- All methods along the lineage of a type, in order and with those that are hidden. -/
def declared (table : SymbolTable) (decl : TypeDecl) : List Method :=
  (table.lineage decl).flatMap (·.methods)

/-- The members of a type are the methods that are the first of their signatures. -/
theorem mem_members_iff {table : SymbolTable} {decl : TypeDecl} {method : Method} :
    method ∈ table.members decl ↔
      (table.declared decl).find? (·.signature = method.signature) = some method := by
  simp only [members, List.mem_map, mem_firstPerSignature_iff, List.find?_map]
  constructor
  · rintro ⟨pair, found, rfl⟩
    obtain ⟨other, foundOther, rfl⟩ := Option.map_eq_some_iff.mp found
    exact foundOther
  · intro found
    exact ⟨(method.signature, method), Option.map_eq_some_iff.mpr ⟨method, found, rfl⟩, rfl⟩

end SymbolTable

end Delegation
