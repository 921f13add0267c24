import Delegation.Proofs.Stuck
import Delegation.Proofs.Symbol.Growth
import Delegation.Proofs.Symbol.Members

/-!
# Gaps in a hierarchy

A chain of interfaces may lead from a type to a name that is not visible.  Whether there is such a gap
does not depend on how one searches for it.  Where there is none, nothing is passed over on the way,
and nothing that becomes visible later changes what the type inherits.

## Main Definitions

* `SymbolTable.LeadsTo` — a chain of interfaces leads from a type to a name.
* `SymbolTable.Reaches` — such a chain leads from some names to a type, past those visited.
* `SymbolTable.firstGap?` — a search that keeps on a stack what it has yet to visit.
* `SymbolTable.Settled` — what a type inherits is complete, now and later.

## Main Statements

* `SymbolTable.isSome_missingParent?_iff` — a parent is missing where there is a gap.
* `SymbolTable.isSome_firstGap?` — the search with a stack finds a gap where there is one.
* `SymbolTable.GrowsTo.map_methods_ancestry` — without a gap, later tables add nothing.
* `SymbolTable.Lawful.settled_of_closed` — without a gap, all is complete.
-/

namespace Delegation

open Java

namespace SymbolTable

variable {table later : SymbolTable}

/-- A chain of interfaces of visible types leads from a type to a name. -/
def LeadsTo (table : SymbolTable) (decl : TypeDecl) (name : ClassName) : Prop :=
  ∃ ancestor, table.Inherits decl ancestor ∧ name ∈ ancestor.interfaces

theorem closed_iff {decl : TypeDecl} :
    table.Closed decl ↔ ∀ name, table.LeadsTo decl name → table.isVisible name :=
  ⟨fun closed name ⟨ancestor, inherits, listed⟩ => closed ancestor inherits name listed,
    fun all ancestor inherits name listed => all name ⟨ancestor, inherits, listed⟩⟩

/-- A parent of a visible type is missing when a chain of interfaces leads to a name that is not
visible. -/
theorem isSome_missingParent?_iff {decl : TypeDecl}
    (visible : table.lookup decl.name = some decl) :
    (table.missingParent? decl).isSome ↔
      ∃ name, table.LeadsTo decl name ∧ table.lookup name = none := by
  rw [← not_iff_not, Option.not_isSome_iff_eq_none, missingParent?_eq_none_iff visible, closed_iff]
  simp [isVisible, Option.isSome_iff_ne_none]

/-! ## The order of the search -/

/-- A chain of interfaces leads from one of some names to a type, and no name on it was visited. -/
inductive Reaches (table : SymbolTable) (visited names : List ClassName) : TypeDecl → Prop
  | start {name : ClassName} {decl : TypeDecl} (listed : name ∈ names) (fresh : name ∉ visited)
      (found : table.lookup name = some decl) : Reaches table visited names decl
  | parent {middle decl : TypeDecl} {name : ClassName} (reaches : Reaches table visited names middle)
      (listed : name ∈ middle.interfaces) (fresh : name ∉ visited)
      (found : table.lookup name = some decl) : Reaches table visited names decl

/-- Chains go on where their starts are reached otherwise. -/
theorem Reaches.transfer {visited names visited' names' : List ClassName} {decl : TypeDecl}
    (reaches : table.Reaches visited names decl)
    (starts : ∀ name ∈ names, name ∉ visited → ∀ decl, table.lookup name = some decl →
      table.Reaches visited' names' decl)
    (fewer : ∀ name, name ∉ visited → name ∉ visited') : table.Reaches visited' names' decl := by
  induction reaches with
  | start listed fresh found => exact starts _ listed fresh _ found
  | parent _ listed fresh found ih => exact .parent ih listed (fewer _ fresh) found

theorem reaches_congr {visited names names' : List ClassName}
    (same : ∀ name, name ∈ names ↔ name ∈ names') {decl : TypeDecl} :
    table.Reaches visited names decl ↔ table.Reaches visited names' decl := by
  constructor <;> intro reaches
  · exact reaches.transfer (fun _ listed fresh _ => .start ((same _).mp listed) fresh) fun _ => id
  · exact reaches.transfer (fun _ listed fresh _ => .start ((same _).mpr listed) fresh) fun _ => id

/-- A search lists what chains of interfaces lead to. -/
theorem mem_reach_iff {visited names : List ClassName} {decl : TypeDecl} :
    decl ∈ table.reach visited names ↔ table.Reaches visited names decl := by
  constructor
  · intro mem
    induction visited, names using reach.induct table with
    | case1 => simp at mem
    | case2 visited name rest seen ih =>
        rw [reach_cons_of_mem rest seen] at mem
        exact (ih mem).transfer
          (fun _ listed fresh _ => .start (List.mem_cons_of_mem _ listed) fresh) fun _ => id
    | case3 visited name rest fresh other found ih =>
        rw [reach_cons_of_lookup rest fresh found] at mem
        have head : table.Reaches visited (name :: rest) other :=
          .start List.mem_cons_self fresh found
        have fewer : ∀ next, next ∉ name :: visited → next ∉ visited :=
          fun _ => mt (List.mem_cons_of_mem _)
        rcases List.mem_cons.mp mem with rfl | mem
        · exact head
        · refine (ih mem).transfer (fun next listed unseen _ foundNext => ?_) fewer
          rcases List.mem_append.mp listed with extended | listed
          · exact .parent head extended (fewer next unseen) foundNext
          · exact .start (List.mem_cons_of_mem _ listed) (fewer next unseen) foundNext
    | case4 visited name rest fresh invisible ih =>
        rw [reach_cons_of_invisible rest invisible] at mem
        exact (ih mem).transfer
          (fun _ listed fresh _ => .start (List.mem_cons_of_mem _ listed) fresh) fun _ => id
  · intro reaches
    induction reaches with
    | start listed fresh found => exact mem_reach_of_mem listed fresh found
    | parent _ listed fresh found ih => exact mem_reach_of_parent ih listed fresh found

/-- A search that keeps on a stack what it has yet to visit.  It looks at all interfaces of a type
before it visits one of them, and it stops at the first that is not visible. -/
def firstGap? (table : SymbolTable) (visited : List ClassName) : List ClassName → Option ClassName
  | [] => none
  | name :: stack =>
    if _seen : name ∈ visited then table.firstGap? visited stack
    else
      match _found : table.lookup name with
      | none => table.firstGap? visited stack
      | some decl =>
        match decl.interfaces.find? (!table.isVisible ·) with
        | some parent => some parent
        | none => table.firstGap? (name :: visited) (decl.interfaces.reverse ++ stack)
termination_by stack => (table.pending visited).length + stack.length
decreasing_by
  · simp only [List.length_cons]; omega
  · simp only [List.length_cons]; omega
  · have := table.length_pending_visit_add_le _seen _found
    simp only [List.length_append, List.length_unattach, List.length_reverse, List.length_attach,
      List.length_cons]
    omega

/-- At a visible type, the search with a stack takes an interface that is not visible, if there is one,
or else goes on. -/
theorem firstGap?_cons_of_lookup {visited : List ClassName} {name : ClassName} {decl : TypeDecl}
    (stack : List ClassName) (fresh : name ∉ visited) (found : table.lookup name = some decl) :
    table.firstGap? visited (name :: stack) = (decl.interfaces.find? (!table.isVisible ·)).or
      (table.firstGap? (name :: visited) (decl.interfaces.reverse ++ stack)) := by
  rw [firstGap?, dif_neg fresh]
  split
  · rename_i invisible
    rw [found] at invisible
    cases invisible
  · rename_i other foundOther
    rw [found] at foundOther
    cases foundOther
    cases decl.interfaces.find? (!table.isVisible ·) <;> rfl

/-- A name that was visited already or denotes nothing is passed over. -/
theorem firstGap?_cons_of_passed {visited : List ClassName} {name : ClassName}
    (stack : List ClassName) (passed : name ∈ visited ∨ table.lookup name = none) :
    table.firstGap? visited (name :: stack) = table.firstGap? visited stack := by
  rw [firstGap?]
  split
  · rfl
  · rename_i fresh
    split
    · rfl
    · rename_i decl found
      rw [passed.resolve_left fresh] at found
      cases found

/-- The search with a stack finds nothing when all interfaces of the types that it leads to are
visible. -/
theorem firstGap?_eq_none_iff {visited stack : List ClassName} :
    table.firstGap? visited stack = none ↔ ∀ decl, table.Reaches visited stack decl →
      ∀ parent ∈ decl.interfaces, table.isVisible parent := by
  -- The search with a stack goes to other types next than the search for the lineage does, so the
  -- two are compared by what they lead to, and the induction is on the former.
  induction visited, stack using firstGap?.induct table with
  | case1 visited => simp [firstGap?, ← mem_reach_iff]
  | case2 visited name stack seen ih =>
      simp only [firstGap?_cons_of_passed stack (.inl seen), ih, ← mem_reach_iff,
        reach_cons_of_mem stack seen]
  | case3 visited name stack fresh invisible ih =>
      simp only [firstGap?_cons_of_passed stack (.inr invisible), ih, ← mem_reach_iff,
        reach_cons_of_invisible stack invisible]
  | case4 visited name stack fresh decl found parent gap =>
      rw [firstGap?_cons_of_lookup stack fresh found, gap]
      refine iff_of_false nofun fun all => ?_
      have visible := all decl (.start List.mem_cons_self fresh found) parent
        (List.mem_of_find?_eq_some gap)
      simpa [visible] using List.find?_some gap
  | case5 visited name stack fresh decl found complete ih =>
      simp only [List.unattach_reverse, List.unattach_attach] at ih
      rw [firstGap?_cons_of_lookup stack fresh found, complete, Option.none_or, ih]
      have here : ∀ parent ∈ decl.interfaces, table.isVisible parent := by
        simpa using List.find?_eq_none.mp complete
      have next : ∀ other, table.Reaches visited (name :: stack) other ↔ other = decl ∨
          table.Reaches (name :: visited) (decl.interfaces.reverse ++ stack) other := by
        intro other
        rw [← mem_reach_iff, reach_cons_of_lookup stack fresh found, List.mem_cons, mem_reach_iff]
        exact or_congr_right (reaches_congr fun name => by simp)
      simp only [next, forall_eq_or_imp]
      exact ⟨fun all => ⟨here, all⟩, And.right⟩

/-- **The search with a stack finds a gap where there is one.** -/
theorem isSome_firstGap? {decl : TypeDecl} (visible : table.lookup decl.name = some decl) :
    (table.firstGap? [] [decl.name]).isSome ↔ (table.missingParent? decl).isSome := by
  rw [← not_iff_not, Option.not_isSome_iff_eq_none, Option.not_isSome_iff_eq_none,
    firstGap?_eq_none_iff, missingParent?_eq_none_iff visible]
  simp only [← mem_reach_iff, reach_cons_of_lookup [] List.not_mem_nil visible, List.append_nil]
  exact forall_congr' fun ancestor => imp_congr_left (mem_ancestry_iff visible)

/-! ## Complete hierarchies -/

namespace GrowsTo

/-- Where all is visible, a search finds the same methods in a table that has grown. -/
theorem map_methods_reach (grows : table.GrowsTo later) {visited names : List ClassName}
    (complete : ∀ name ∈ names, ∃ decl, table.lookup name = some decl ∧ table.Closed decl) :
    (later.reach visited names).map (·.methods) = (table.reach visited names).map (·.methods) := by
  induction visited, names using reach.induct table with
  | case1 => rw [reach_nil, reach_nil]
  | case2 visited name rest seen ih =>
      rw [reach_cons_of_mem rest seen, reach_cons_of_mem rest seen]
      exact ih fun next listed => complete next (List.mem_cons_of_mem _ listed)
  | case3 visited name rest fresh decl found ih =>
      obtain ⟨superclass, foundLater⟩ := grows name decl found
      rw [reach_cons_of_lookup rest fresh found, reach_cons_of_lookup rest fresh foundLater,
        List.map_cons, List.map_cons]
      congr 1
      refine ih fun next listed => ?_
      rcases List.mem_append.mp listed with extended | listed
      · obtain ⟨other, foundOther, closed⟩ := complete name List.mem_cons_self
        rw [found] at foundOther
        cases foundOther
        obtain ⟨parent, foundParent⟩ :=
          Option.isSome_iff_exists.mp (closed decl .self next extended)
        exact ⟨parent, foundParent, fun ancestor inherits =>
          closed ancestor (.ofParent extended foundParent inherits)⟩
      · exact complete next (List.mem_cons_of_mem _ listed)
  | case4 visited name rest fresh invisible ih =>
      obtain ⟨decl, found, -⟩ := complete name List.mem_cons_self
      rw [invisible] at found
      cases found

/-- **Without a gap, a table that grows adds nothing to what a type inherits.** -/
theorem map_methods_ancestry (grows : table.GrowsTo later) {decl grown : TypeDecl}
    (visible : table.lookup decl.name = some decl) (closed : table.Closed decl)
    (found : later.lookup decl.name = some grown) :
    (later.ancestry grown).map (·.methods) = (table.ancestry decl).map (·.methods) := by
  obtain ⟨superclass, same⟩ := grows decl.name decl visible
  rw [found] at same
  cases same
  rw [ancestry, ancestry, List.map_cons, List.map_cons]
  congr 1
  refine grows.map_methods_reach fun name listed => ?_
  obtain ⟨parent, foundParent⟩ := Option.isSome_iff_exists.mp (closed decl .self name listed)
  exact ⟨parent, foundParent, fun ancestor inherits =>
    closed ancestor (.ofParent listed foundParent inherits)⟩

end GrowsTo

/-- What a type inherits is complete: no parent is passed over, and the members that it inherits stay
the same, and come first, whatever becomes visible later. -/
structure Settled (table : SymbolTable) (decl : TypeDecl) : Prop where
  visited : ∀ name, table.LeadsTo decl name →
    ∃ parent ∈ table.lineage decl, table.lookup name = some parent
  stays : ∀ {later : SymbolTable} {grown : TypeDecl}, later.Lawful → table.GrowsTo later →
    later.lookup decl.name = some grown → ∃ inherited rest restLater,
      table.members decl = inherited ++ rest ∧ later.members grown = inherited ++ restLater ∧
      ∀ signature, signature ∈ inherited.map Method.signature ↔
        ∃ ancestor, later.Inherits grown ancestor ∧ ancestor.Declares signature

namespace Lawful

variable (lawful : table.Lawful)
include lawful

/-- The members of a type begin with those of its ancestry. -/
theorem exists_members_eq (decl : TypeDecl) : ∃ rest, table.members decl =
    firsts ((table.ancestry decl).flatMap (·.methods)) ++ rest := by
  rw [members_eq_firsts, declared, lawful.lineage_eq, List.flatMap_append, firsts_append]
  exact ⟨_, rfl⟩

/-- **Without a gap, what a type inherits is complete.** -/
theorem settled_of_closed {decl : TypeDecl} (visible : table.lookup decl.name = some decl)
    (closed : table.Closed decl) : table.Settled decl where
  visited name leads := by
    obtain ⟨ancestor, inherits, listed⟩ := leads
    obtain ⟨parent, found⟩ := Option.isSome_iff_exists.mp (closed ancestor inherits name listed)
    exact ⟨parent, (mem_lineage_iff visible).mpr (.inl (.parent inherits listed found)), found⟩
  stays {later grown} lawfulLater grows found := by
    obtain ⟨rest, members⟩ := lawful.exists_members_eq decl
    obtain ⟨restLater, membersLater⟩ := lawfulLater.exists_members_eq grown
    have methods : (later.ancestry grown).flatMap (·.methods) =
        (table.ancestry decl).flatMap (·.methods) := by
      rw [List.flatMap_def, List.flatMap_def, grows.map_methods_ancestry visible closed found]
    refine ⟨_, rest, restLater, members, methods ▸ membersLater, fun signature => ?_⟩
    have visibleLater : later.lookup grown.name = some grown := by
      rwa [lawfulLater _ _ found]
    rw [mem_map_signature_firsts, ← methods, mem_map_signature_flatMap]
    simp only [mem_ancestry_iff visibleLater]

/-- The search for a missing parent goes to each name of the table at most once. -/
theorem length_ancestry_le {decl : TypeDecl} (visible : table.lookup decl.name = some decl) :
    ((table.ancestry decl).map (·.name)).Nodup ∧
      (table.ancestry decl).length ≤ table.names.length := by
  have different := lawful.nodup_map_name_lineage decl
  have bounded := lawful.length_lineage_le visible
  rw [lawful.lineage_eq, List.map_append] at different
  rw [lawful.lineage_eq, List.length_append] at bounded
  exact ⟨different.of_append_left, Nat.le_of_add_right_le bounded⟩

end Lawful

end SymbolTable

end Delegation
