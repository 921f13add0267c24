import Delegation.Symbol.Table

/-!
# The interface hierarchy

The types reachable from a declaration through its interfaces, and the methods it inherits from
them.  Hierarchies may contain diamonds and cycles, and parents may be invisible: every type is
visited once, and invisible ones are passed over.

## Main Definitions

* `SymbolTable.reach` — the visible types reachable from some names, parents before siblings.
* `SymbolTable.members` — the methods of a type, inherited ones included.
* `SymbolTable.missingParent?` — a reachable interface that is not visible.

The search ends because no name is visited twice: a visit takes the interfaces of a name from those
that the table still has to offer.
-/

namespace Delegation

open Java

namespace SymbolTable

/-- The interfaces that the declaration of a name lists. -/
def interfacesOf (table : SymbolTable) (name : ClassName) : List ClassName :=
  ((table.lookup name).map (·.interfaces)).getD []

/-- The interfaces that some names still have to offer, without those visited already. -/
def pendingAmong (table : SymbolTable) (visited names : List ClassName) : List ClassName :=
  (names.filter (· ∉ visited)).flatMap table.interfacesOf

/-- The interfaces that the names of the table still have to offer. -/
def pending (table : SymbolTable) (visited : List ClassName) : List ClassName :=
  table.pendingAmong visited table.names

theorem pendingAmong_cons_of_mem (table : SymbolTable) {visited : List ClassName}
    {head : ClassName} (tail : List ClassName) (seen : head ∈ visited) :
    table.pendingAmong visited (head :: tail) = table.pendingAmong visited tail := by
  simp [pendingAmong, seen]

theorem pendingAmong_cons_of_notMem (table : SymbolTable) {visited : List ClassName}
    {head : ClassName} (tail : List ClassName) (fresh : head ∉ visited) :
    table.pendingAmong visited (head :: tail) =
      table.interfacesOf head ++ table.pendingAmong visited tail := by
  simp [pendingAmong, fresh]

theorem length_pendingAmong_visit_le (table : SymbolTable) (visited names : List ClassName)
    (name : ClassName) :
    (table.pendingAmong (name :: visited) names).length ≤
      (table.pendingAmong visited names).length := by
  induction names with
  | nil => exact Nat.le_refl _
  | cons head tail ih =>
    by_cases seen : head ∈ visited
    · rw [pendingAmong_cons_of_mem table tail seen,
        pendingAmong_cons_of_mem table tail (List.mem_cons_of_mem _ seen)]
      exact ih
    · rw [pendingAmong_cons_of_notMem table tail seen, List.length_append]
      by_cases same : head = name
      · rw [pendingAmong_cons_of_mem table tail (same ▸ List.mem_cons_self)]
        omega
      · rw [pendingAmong_cons_of_notMem table tail (by simp [same, seen]), List.length_append]
        omega

theorem length_pendingAmong_visit_add_le (table : SymbolTable) {visited names : List ClassName}
    {name : ClassName} (listed : name ∈ names) (fresh : name ∉ visited) :
    (table.pendingAmong (name :: visited) names).length + (table.interfacesOf name).length ≤
      (table.pendingAmong visited names).length := by
  induction names with
  | nil => cases listed
  | cons head tail ih =>
    by_cases same : head = name
    · subst same
      rw [pendingAmong_cons_of_mem table tail List.mem_cons_self,
        pendingAmong_cons_of_notMem table tail fresh, List.length_append]
      have := table.length_pendingAmong_visit_le visited tail head
      omega
    · have := ih ((List.mem_cons.mp listed).resolve_left (Ne.symm same))
      by_cases seen : head ∈ visited
      · rw [pendingAmong_cons_of_mem table tail seen,
          pendingAmong_cons_of_mem table tail (List.mem_cons_of_mem _ seen)]
        exact this
      · rw [pendingAmong_cons_of_notMem table tail seen,
          pendingAmong_cons_of_notMem table tail (by simp [same, seen]), List.length_append,
          List.length_append]
        omega

theorem length_pending_visit_add_le (table : SymbolTable) {visited : List ClassName}
    {name : ClassName} {decl : TypeDecl} (fresh : name ∉ visited)
    (found : table.lookup name = some decl) :
    (table.pending (name :: visited)).length + decl.interfaces.length ≤
      (table.pending visited).length := by
  have := table.length_pendingAmong_visit_add_le (table.mem_names name (by simp [found])) fresh
  simpa [pending, interfacesOf, found] using this

/-- The visible types reachable from a list of names through interfaces, without those visited
already.  A type comes before its interfaces, and these come before the next name. -/
def reach (table : SymbolTable) (visited : List ClassName) : List ClassName → List TypeDecl
  | [] => []
  | name :: rest =>
    if _seen : name ∈ visited then table.reach visited rest
    else
      match _found : table.lookup name with
      | some decl => decl :: table.reach (name :: visited) (decl.interfaces ++ rest)
      | none => table.reach visited rest
termination_by names => (table.pending visited).length + names.length
decreasing_by
  · simp only [List.length_cons]; omega
  · have := table.length_pending_visit_add_le _seen _found
    simp only [List.length_append, List.length_cons]
    omega
  · simp only [List.length_cons]; omega

/-- A type, the visible types reachable from it through interfaces, and then those reachable from
the root class. -/
def lineage (table : SymbolTable) (decl : TypeDecl) : List TypeDecl :=
  decl :: table.reach [decl.name] (decl.interfaces ++ [table.root])

end SymbolTable

/-- Keep of several methods with one signature only the first. -/
def firstPerSignature : List (Signature × Method) → List (Signature × Method)
  | [] => []
  | first :: rest => first :: (firstPerSignature rest).filter (·.1 ≠ first.1)

namespace SymbolTable

/-- All methods a type has: its own, those of its interfaces and theirs, and those of the root
class, in the order of the lineage.  A method hides later ones with its signature. -/
def members (table : SymbolTable) (decl : TypeDecl) : List Method :=
  let methods := (table.lineage decl).flatMap (·.methods)
  (firstPerSignature (methods.map fun method => (method.signature, method))).map (·.2)

/-- The interfaces named by a type or by a visible type reachable from it. -/
def parents (table : SymbolTable) (decl : TypeDecl) : List ClassName :=
  (decl :: table.reach [decl.name] decl.interfaces).flatMap (·.interfaces)

/-- An interface reachable from a type that has no visible declaration. -/
def missingParent? (table : SymbolTable) (decl : TypeDecl) : Option ClassName :=
  (table.parents decl).find? (!table.isVisible ·)

end SymbolTable

end Delegation
