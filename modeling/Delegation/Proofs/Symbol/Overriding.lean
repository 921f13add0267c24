import Delegation.Proofs.Symbol.Members

/-!
# Overridden members

An interface that declares a signature again overrides the declarations that it inherits.  The
members of a type are the first declarations along a search, and a search comes to a type before it
comes to what this inherits from, unless that was reached on another way.  So a member can be
overridden only where the search forks: some type lists interfaces that lead to the overridden
declaration, and only after them one that leads to the overriding type.  In all other hierarchies the
members are the most specific declarations.

## Main Definitions

* `SymbolTable.Overrides` — a type declares a signature again that it inherits.
* `SymbolTable.MostSpecific` — no member of a type is overridden.
* `SymbolTable.Fork` — a list of interfaces leads to one type and only later to another one.
* `SymbolTable.Heads` — the first type of an ancestry that declares a signature.

## Main Statements

* `SymbolTable.Lawful.exists_fork_of_order` — a search comes to a type before it comes to one that
  inherits from it only at a fork.
* `SymbolTable.Lawful.mostSpecific_iff` — when the members of a type are the most specific
  declarations.
-/

namespace Delegation

open Java

namespace SymbolTable

variable {table : SymbolTable}

/-! ## Overriding -/

/-- One of several names denotes a type that inherits from another one. -/
def Leads (table : SymbolTable) (names : List ClassName) (type : TypeDecl) : Prop :=
  ∃ name ∈ names, ∃ start, table.lookup name = some start ∧ table.Inherits start type

/-- Nothing that a type inherits from inherits from itself. -/
def Acyclic (table : SymbolTable) (decl : TypeDecl) : Prop :=
  ∀ type, table.Inherits decl type → ¬ table.Leads type.interfaces type

/-- Every method says which type it is declared in. -/
def Signed (table : SymbolTable) : Prop :=
  ∀ name decl, table.lookup name = some decl → ∀ method ∈ decl.methods, method.owner = decl.name

/-- A type declares a signature again that it inherits from another one. -/
structure Overrides (table : SymbolTable) (sub owner : TypeDecl) (signature : Signature) : Prop where
  inherits : table.Leads sub.interfaces owner
  overridden : owner.Declares signature
  redeclared : sub.Declares signature

/-- No member of a type is declared in a type that is overridden, in the signature of the member, by
a type that the first one inherits from. -/
def MostSpecific (table : SymbolTable) (decl : TypeDecl) : Prop :=
  ∀ method ∈ table.members decl, ∀ sub owner, table.Inherits decl sub →
    table.Overrides sub owner method.signature → method.owner ≠ owner.name

/-- A type is the first of an ancestry that declares a signature. -/
def Heads (table : SymbolTable) (decl owner : TypeDecl) (signature : Signature) : Prop :=
  ∃ before after, table.ancestry decl = before ++ owner :: after ∧ owner.Declares signature ∧
    ∀ type ∈ before, ¬ type.Declares signature

/-- The first ones of several names lead to `owner`, and only the others lead to `sub`. -/
def Fork (table : SymbolTable) (names : List ClassName) (owner sub : TypeDecl) : Prop :=
  ∃ earlier later, names = earlier ++ later ∧ table.Leads earlier owner ∧
    ¬ table.Leads earlier sub ∧ table.Leads later sub

/-- Whether names fork after some number of them. -/
def forks? (table : SymbolTable) (names : List ClassName) (owner sub : TypeDecl) : Bool :=
  (List.range (names.length + 1)).any fun count =>
    decide (owner ∈ table.reach [] (names.take count)) &&
      decide (sub ∉ table.reach [] (names.take count)) &&
      decide (sub ∈ table.reach [] (names.drop count))

theorem leads_append {names more : List ClassName} {type : TypeDecl} :
    table.Leads (names ++ more) type ↔ table.Leads names type ∨ table.Leads more type := by
  simp only [Leads, List.mem_append, or_and_right, exists_or]

theorem leads_cons {name : ClassName} {names : List ClassName} {type : TypeDecl} :
    table.Leads (name :: names) type ↔ table.Leads [name] type ∨ table.Leads names type :=
  @leads_append table [name] names type

theorem leads_singleton {name : ClassName} {type : TypeDecl} :
    table.Leads [name] type ↔
      ∃ start, table.lookup name = some start ∧ table.Inherits start type := by
  simp [Leads]

/-- What names lead to, what inherits from that leads to as well. -/
theorem Leads.trans {names : List ClassName} {middle type : TypeDecl}
    (leads : table.Leads names middle) (inherits : table.Inherits middle type) :
    table.Leads names type := by
  obtain ⟨name, listed, start, found, first⟩ := leads
  exact ⟨name, listed, start, found, first.trans inherits⟩

/-- What names lead to is visible. -/
theorem Leads.lookup (lawful : table.Lawful) {names : List ClassName} {type : TypeDecl}
    (leads : table.Leads names type) : table.lookup type.name = some type := by
  obtain ⟨name, -, start, found, inherits⟩ := leads
  apply inherits.lookup lawful
  rwa [lawful _ _ found]

/-- A type inherits from itself and from what its interfaces lead to. -/
theorem inherits_iff {decl type : TypeDecl} :
    table.Inherits decl type ↔ type = decl ∨ table.Leads decl.interfaces type := by
  constructor
  · intro inherits
    induction inherits with
    | self => exact .inl rfl
    | @parent middle ancestor name _ listed found ih =>
        rcases ih with rfl | ⟨start, among, parent, foundStart, inherits⟩
        · exact .inr ⟨name, listed, ancestor, found, .self⟩
        · exact .inr ⟨start, among, parent, foundStart, .parent inherits listed found⟩
  · rintro (rfl | ⟨name, listed, start, found, inherits⟩)
    · exact .self
    · exact .ofParent listed found inherits

theorem Acyclic.of_inherits {decl type : TypeDecl} (acyclic : table.Acyclic decl)
    (inherits : table.Inherits decl type) : table.Acyclic type :=
  fun next leads => acyclic next (inherits.trans leads)

/-- Some names fork, or the interfaces of a type that they lead to. -/
def Forks (table : SymbolTable) (names : List ClassName) (owner sub : TypeDecl) : Prop :=
  table.Fork names owner sub ∨
    ∃ middle, table.Leads names middle ∧ table.Fork middle.interfaces owner sub

/-- A name that does not lead to `sub` may stand before others that fork. -/
theorem Forks.cons {names : List ClassName} {owner sub : TypeDecl}
    (forks : table.Forks names owner sub) {name : ClassName} (unled : ¬ table.Leads [name] sub) :
    table.Forks (name :: names) owner sub := by
  rcases forks with ⟨earlier, later, rfl, leads, unledEarlier, leadsLater⟩ | ⟨middle, leads, fork⟩
  · refine .inl ⟨name :: earlier, later, rfl, leads_cons.mpr (.inr leads), ?_, leadsLater⟩
    rw [leads_cons]
    exact not_or.mpr ⟨unled, unledEarlier⟩
  · exact .inr ⟨middle, leads_cons.mpr (.inr leads), fork⟩

/-! ## The order of the search -/

/-- Two elements of a list in two parts are in order when they are so in one part, or when the first
part has the one and the second part has the other. -/
theorem pair_sublist_append_iff {α : Type} {first second : List α} {a b : α} :
    [a, b].Sublist (first ++ second) ↔
      [a, b].Sublist first ∨ a ∈ first ∧ b ∈ second ∨ [a, b].Sublist second := by
  rw [List.sublist_append_iff]
  constructor
  · rintro ⟨left, right, parts, inFirst, inSecond⟩
    rcases List.cons_eq_append_iff.mp parts with ⟨rfl, rfl⟩ | ⟨others, rfl, more⟩
    · exact .inr (.inr inSecond)
    · rcases List.cons_eq_append_iff.mp more with ⟨rfl, rfl⟩ | ⟨rest, rfl, none_left⟩
      · exact .inr (.inl ⟨List.singleton_sublist.mp inFirst, List.singleton_sublist.mp inSecond⟩)
      · obtain ⟨rfl, rfl⟩ := List.append_eq_nil_iff.mp none_left.symm
        exact .inl inFirst
  · rintro (inFirst | ⟨mem, mem'⟩ | inSecond)
    · exact ⟨[a, b], [], rfl, inFirst, List.nil_sublist _⟩
    · exact ⟨[a], [b], rfl, List.singleton_sublist.mpr mem, List.singleton_sublist.mpr mem'⟩
    · exact ⟨[], [a, b], rfl, List.nil_sublist _, inSecond⟩

/-- No type that was visited is on a way from some names to a type. -/
def Open (table : SymbolTable) (visited names : List ClassName) (type : TypeDecl) : Prop :=
  ∀ middle, table.Leads names middle → table.Inherits middle type → middle.name ∉ visited

theorem Open.of_cons {visited names : List ClassName} {name : ClassName} {type : TypeDecl}
    (isOpen : table.Open visited (name :: names) type) : table.Open visited names type :=
  fun middle leads => isOpen middle (leads_cons.mpr (.inr leads))

namespace Lawful

variable (lawful : table.Lawful)
include lawful

/-- Where the ways are open, a search finds what names lead to. -/
theorem mem_reach_of_leads {visited names : List ClassName} {type : TypeDecl}
    (leads : table.Leads names type) (isOpen : table.Open visited names type) :
    type ∈ table.reach visited names := by
  obtain ⟨name, listed, start, found, inherits⟩ := leads
  induction inherits with
  | self =>
      obtain rfl := lawful _ _ found
      exact mem_reach_of_mem listed (isOpen _ ⟨_, listed, _, found, .self⟩ .self) found
  | @parent middle ancestor parent first among foundParent ih =>
      have reached := ih fun next leads inherits =>
        isOpen next leads (.parent inherits among foundParent)
      obtain rfl := lawful _ _ foundParent
      refine mem_reach_of_parent reached among ?_ foundParent
      exact isOpen _ ⟨_, listed, _, found, .parent first among foundParent⟩ .self

/-- Before anything was visited, a search finds exactly what names lead to. -/
theorem leads_iff_mem_reach {names : List ClassName} {type : TypeDecl} :
    table.Leads names type ↔ type ∈ table.reach [] names :=
  ⟨fun leads => lawful.mem_reach_of_leads leads fun _ _ _ => List.not_mem_nil,
    inherits_of_mem_reach⟩

/-- What a search finds first, where the ways are open, is what the first declaration inherits
from. -/
theorem mem_block_iff {visited : List ClassName} {name : ClassName} {decl type : TypeDecl}
    (isOpen : table.Open (name :: visited) decl.interfaces type) :
    type ∈ decl :: table.reach (name :: visited) decl.interfaces ↔ table.Inherits decl type := by
  rw [List.mem_cons, inherits_iff]
  exact or_congr_right
    ⟨inherits_of_mem_reach, fun leads => lawful.mem_reach_of_leads leads isOpen⟩

section Found

variable {visited rest : List ClassName} {name : ClassName} {decl type : TypeDecl}
variable (found : table.lookup name = some decl)
include found

/-- The ways from a declaration are open once it is visited, if there are no circles. -/
theorem open_interfaces (acyclic : table.Acyclic decl)
    (isOpen : table.Open visited (name :: rest) type) :
    table.Open (name :: visited) decl.interfaces type := by
  intro middle leads inherits
  rw [List.mem_cons, not_or]
  constructor
  · intro same
    have known := leads.lookup lawful
    rw [same, found] at known
    cases known
    exact acyclic decl .self leads
  · apply isOpen middle _ inherits
    exact leads_cons.mpr (.inl (leads_singleton.mpr
      ⟨decl, found, inherits_iff.mpr (.inr leads)⟩))

/-- The ways from the rest of the names to a type are open after a declaration that does not inherit
from the type. -/
theorem open_rest (apart : ¬ table.Inherits decl type)
    (isOpen : table.Open visited (name :: rest) type) :
    table.Open ((table.reach (name :: visited) decl.interfaces).map (·.name) ++ name :: visited)
      rest type := by
  intro middle leads inherits
  have known := leads.lookup lawful
  rw [List.mem_append, not_or, List.mem_cons, not_or]
  refine ⟨?_, ?_, isOpen.of_cons middle leads inherits⟩
  · rw [List.mem_map]
    rintro ⟨other, reached, same⟩
    rw [← same, (lawful.lookup_of_mem_reach reached).2] at known
    cases known
    exact apart (.trans (inherits_iff.mpr (.inr (inherits_of_mem_reach reached))) inherits)
  · intro same
    rw [same, found] at known
    cases known
    exact apart inherits

/-- What a search finds after it has gone through a declaration is new. -/
theorem notMem_block (mem : type ∈ table.reach
      ((table.reach (name :: visited) decl.interfaces).map (·.name) ++ name :: visited) rest) :
    type ∉ decl :: table.reach (name :: visited) decl.interfaces := by
  have fresh := (lawful.lookup_of_mem_reach mem).1
  rw [List.mem_append, not_or, List.mem_cons, not_or] at fresh
  rw [List.mem_cons, not_or]
  constructor
  · rintro rfl
    exact fresh.2.1 (lawful _ _ found)
  · exact fun before => fresh.1 (List.mem_map_of_mem before)

end Found

/-- **A search comes to a type before it comes to one that inherits from it only where names fork**,
if none of the types that were visited before is on the way. -/
theorem forks_of_order {owner sub : TypeDecl} (inherits : table.Leads sub.interfaces owner)
    {visited names : List ClassName}
    (acyclic : ∀ type, table.Leads names type → table.Acyclic type)
    (isOpen : table.Open visited names sub)
    (order : [owner, sub].Sublist (table.reach visited names)) : table.Forks names owner sub := by
  induction visited, names using table.searchInduction with
  | nil visited => simp at order
  | seen visited name rest known ih =>
      rw [reach_cons_of_mem rest known] at order
      refine Forks.cons (ih (fun type leads => acyclic type (leads_cons.mpr (.inr leads)))
        isOpen.of_cons order) ?_
      rw [leads_singleton]
      rintro ⟨start, found, leads⟩
      apply isOpen start ⟨name, List.mem_cons_self, start, found, .self⟩ leads
      rwa [lawful _ _ found]
  | found visited name rest decl fresh found inner outer =>
      have ahead : ∀ type, table.Inherits decl type → table.Leads (name :: rest) type :=
        fun type inherits => ⟨name, List.mem_cons_self, decl, found, inherits⟩
      have inside : ∀ type, table.Leads decl.interfaces type → table.Leads (name :: rest) type :=
        fun type leads => ahead type (inherits_iff.mpr (.inr leads))
      have openInside := lawful.open_interfaces found (acyclic decl (ahead decl .self)) isOpen
      rw [lawful.reach_cons rest fresh found, pair_sublist_append_iff] at order
      by_cases through : table.Inherits decl sub
      -- `sub` comes below the declaration at hand, and so does `owner`, which comes before it.
      · have here := (lawful.mem_block_iff openInside).mpr through
        have once : sub ∉ table.reach
            ((table.reach (name :: visited) decl.interfaces).map (·.name) ++ name :: visited) rest :=
          fun later => lawful.notMem_block found later here
        have order := order.resolve_right fun order =>
          order.elim (fun order => once order.2) (fun order => once (order.mem (by simp)))
        rcases List.cons_sublist_cons'.mp order with order | ⟨rfl, -⟩
        · rcases inner (fun type leads => acyclic type (inside type leads)) openInside order with
            fork | ⟨middle, leads, fork⟩
          · exact .inr ⟨decl, ahead decl .self, fork⟩
          · exact .inr ⟨middle, inside middle leads, fork⟩
        · exact absurd (inherits.trans through) (acyclic owner (ahead owner .self) sub through)
      · have unled : ¬ table.Leads [name] sub := by
          rw [leads_singleton, found]
          rintro ⟨start, same, leads⟩
          exact through (Option.some.inj same ▸ leads)
        have notHere := mt (lawful.mem_block_iff openInside).mp through
        have order := order.resolve_left fun order => notHere (order.mem (by simp))
        by_cases owned : table.Inherits decl owner
        -- The declaration leads to `owner`, and only the rest leads to `sub`.
        · refine .inl ⟨[name], rest, rfl, leads_singleton.mpr ⟨decl, found, owned⟩, unled, ?_⟩
          exact inherits_of_mem_reach (order.elim And.right fun order => order.mem (by simp))
        -- The search comes to neither of them before it goes on to the rest.
        · have order := order.resolve_left fun order => owned <| by
            rcases List.mem_cons.mp order.1 with rfl | reached
            · exact .self
            · exact inherits_iff.mpr (.inr (inherits_of_mem_reach reached))
          refine Forks.cons (outer (fun type leads => acyclic type (leads_cons.mpr (.inr leads)))
            (lawful.open_rest found through isOpen) order) unled
  | invisible visited name rest invisible ih =>
      rw [reach_cons_of_invisible rest invisible] at order
      refine Forks.cons (ih (fun type leads => acyclic type (leads_cons.mpr (.inr leads)))
        isOpen.of_cons order) ?_
      rw [leads_singleton, invisible]
      rintro ⟨start, found, -⟩
      cases found

/-- Where an ancestry has a type before one that inherits from it, the interfaces of some type of the
ancestry fork. -/
theorem exists_fork_of_order {decl owner sub : TypeDecl}
    (visible : table.lookup decl.name = some decl) (acyclic : table.Acyclic decl)
    (inherits : table.Leads sub.interfaces owner)
    (order : [owner, sub].Sublist (table.ancestry decl)) :
    ∃ middle, table.Inherits decl middle ∧ table.Fork middle.interfaces owner sub := by
  have leads_self : ∀ type, table.Leads [decl.name] type ↔ table.Inherits decl type := by
    intro type
    simp only [leads_singleton, visible, Option.some.injEq, exists_eq_left']
  have whole : table.ancestry decl = table.reach [] [decl.name] := by
    rw [reach_cons_of_lookup [] List.not_mem_nil visible, List.append_nil, ancestry]
  rw [whole] at order
  rcases lawful.forks_of_order inherits
      (fun type leads => acyclic.of_inherits ((leads_self type).mp leads))
      (fun _ _ _ => List.not_mem_nil) order with
    ⟨earlier, later, split, leads, unled, leadsLater⟩ | ⟨middle, leads, fork⟩
  · -- a single name does not fork
    rcases List.singleton_eq_append_iff.mp split with ⟨rfl, -⟩ | ⟨-, rfl⟩
    · simp [Leads] at leads
    · simp [Leads] at leadsLater
  · exact ⟨middle, (leads_self middle).mp leads, fork⟩

end Lawful

/-! ## Members -/

/-- A member is declared in the first type of the lineage that declares its signature. -/
theorem mem_members_iff_lineage {decl : TypeDecl} {method : Method} :
    method ∈ table.members decl ↔ ∃ before type after,
      table.lineage decl = before ++ type :: after ∧
      type.methods.find? (·.signature = method.signature) = some method ∧
      ∀ other ∈ before, ¬ other.Declares method.signature := by
  rw [mem_members_iff, declared, List.find?_flatMap, List.findSome?_eq_some_iff]
  simp [List.find?_eq_none, TypeDecl.Declares]

namespace Lawful

variable (lawful : table.Lawful)
include lawful

theorem lookup_of_mem_lineage {decl type : TypeDecl} (visible : table.lookup decl.name = some decl)
    (mem : type ∈ table.lineage decl) : table.lookup type.name = some type := by
  rcases List.mem_cons.mp mem with rfl | reached
  · exact visible
  · exact (lawful.lookup_of_mem_reach reached).2

/-- The first type of an ancestry that declares a signature has the member with this signature. -/
theorem exists_member_of_heads {decl owner : TypeDecl} {signature : Signature}
    (heads : table.Heads decl owner signature) :
    ∃ method ∈ table.members decl, method.signature = signature ∧ method ∈ owner.methods := by
  obtain ⟨before, after, split, ⟨declared, mem, same⟩, first⟩ := heads
  have found : (owner.methods.find? (·.signature = signature)).isSome :=
    List.find?_isSome.mpr ⟨declared, mem, by simpa using same⟩
  obtain ⟨method, found⟩ := Option.isSome_iff_exists.mp found
  have same : method.signature = signature := by simpa using List.find?_some found
  subst same
  have whole := lawful.lineage_eq decl
  rw [split, List.append_assoc, List.cons_append] at whole
  exact ⟨method, mem_members_iff_lineage.mpr ⟨before, owner, _, whole, found, first⟩, rfl,
    List.mem_of_find?_eq_some found⟩

/-- The member of a signature is declared in the first type of the ancestry that declares the
signature, if some type of the ancestry does. -/
theorem heads_of_mem_members {decl owner : TypeDecl} {method : Method}
    (visible : table.lookup decl.name = some decl) (signed : table.Signed)
    (inherits : table.Inherits decl owner) (member : method ∈ table.members decl)
    (named : method.owner = owner.name) : table.Heads decl owner method.signature := by
  obtain ⟨before, type, after, split, found, first⟩ := mem_members_iff_lineage.mp member
  have mem := List.mem_of_find?_eq_some found
  have known : table.lookup type.name = some type :=
    lawful.lookup_of_mem_lineage visible (by rw [split]; simp)
  obtain rfl : type = owner := by
    rw [← signed _ _ known method mem, named, inherits.lookup lawful visible] at known
    exact (Option.some.inj known).symm
  have declares : type.Declares method.signature := ⟨method, mem, rfl⟩
  have listed := (mem_ancestry_iff visible).mpr inherits
  rw [lawful.lineage_eq] at split
  -- the type is in the ancestry and not before itself, so the ancestry does not end before it
  rcases List.append_eq_append_iff.mp split with ⟨rest, rfl, -⟩ | ⟨rest, parts, ends⟩
  · exact absurd declares (first type (List.mem_append_left _ listed))
  · cases rest with
    | nil =>
        rw [parts, List.append_nil] at listed
        exact absurd declares (first type listed)
    | cons head tail =>
        obtain ⟨rfl, -⟩ := List.cons.inj ends
        exact ⟨before, tail, parts, declares, first⟩

/-- **When the members of a type are the most specific declarations.** -/
theorem mostSpecific_iff (signed : table.Signed) {decl : TypeDecl}
    (visible : table.lookup decl.name = some decl) (acyclic : table.Acyclic decl) :
    table.MostSpecific decl ↔ ∀ owner sub signature, table.Heads decl owner signature →
      table.Inherits decl sub → table.Overrides sub owner signature →
      ∀ middle, table.Inherits decl middle → ¬ table.Fork middle.interfaces owner sub := by
  constructor
  · intro specific owner sub signature heads inherits overrides
    obtain ⟨method, member, rfl, mem⟩ := lawful.exists_member_of_heads heads
    have known := (inherits.trans (inherits_iff.mpr (.inr overrides.inherits))).lookup lawful visible
    exact absurd (signed _ _ known method mem) (specific method member sub owner inherits overrides)
  · intro unforked method member sub owner inherits overrides named
    have inheritsOwner := inherits.trans (inherits_iff.mpr (.inr overrides.inherits))
    have heads := lawful.heads_of_mem_members visible signed inheritsOwner member named
    obtain ⟨before, after, split, -, first⟩ := id heads
    have later : sub ∈ after := by
      have listed := (mem_ancestry_iff visible).mpr inherits
      rw [split, List.mem_append, List.mem_cons] at listed
      rcases listed with earlier | rfl | later
      · exact absurd overrides.redeclared (first sub earlier)
      · exact absurd overrides.inherits (acyclic sub inherits)
      · exact later
    have order : [owner, sub].Sublist (table.ancestry decl) := by
      rw [split]
      exact ((List.singleton_sublist.mpr later).cons_cons owner).trans
        (List.sublist_append_right ..)
    obtain ⟨middle, inheritsMiddle, fork⟩ :=
      lawful.exists_fork_of_order visible acyclic overrides.inherits order
    exact unforked owner sub _ heads inherits overrides middle inheritsMiddle fork

/-- A visible type has no circles above it if none of the types of its ancestry is found again above
itself. -/
theorem acyclic_iff {decl : TypeDecl} (visible : table.lookup decl.name = some decl) :
    table.Acyclic decl ↔ ∀ type ∈ table.ancestry decl, type ∉ table.reach [] type.interfaces := by
  simp only [Acyclic, mem_ancestry_iff visible, lawful.leads_iff_mem_reach]

theorem forks?_iff {names : List ClassName} {owner sub : TypeDecl} :
    table.forks? names owner sub ↔ table.Fork names owner sub := by
  simp only [forks?, List.any_eq_true, Bool.and_eq_true, decide_eq_true_eq, and_assoc,
    ← lawful.leads_iff_mem_reach]
  constructor
  · rintro ⟨count, -, leads⟩
    exact ⟨names.take count, names.drop count, (List.take_append_drop count names).symm, leads⟩
  · rintro ⟨earlier, later, rfl, leads⟩
    refine ⟨earlier.length, ?_, ?_⟩
    · rw [List.mem_range, List.length_append]
      omega
    · rwa [List.take_left, List.drop_left]

end Lawful

/-! ## Two ways to list interfaces -/

section Diamond

/-- `B` overrides a method of `A`, and `I` inherits from both. -/
def diamond (interfaces : List String) : List TypeDefinition :=
  [{ name := "foo.A", kind := .interface, methods := [{ name := "m" }] },
   { name := "foo.B", kind := .interface, methods := [{ name := "m" }], interfaces := ["foo.A"] },
   { name := "foo.I", kind := .interface, interfaces }]

theorem signed_of_reached {snapshot : Snapshot} (reached : snapshot.Reached) :
    snapshot.table.Signed := by
  intro name decl found method mem
  rw [reached.wellFormed.owner_of_lookup found mem, reached.wellFormed.lawful _ _ found]

/-- If `I` lists `B` first, its members are the most specific declarations. -/
theorem mostSpecific_overridingFirst :
    let table := (Snapshot.sample (diamond ["foo.B", "foo.A"])).table
    table.Lawful ∧ table.Signed ∧ ∃ decl, table.lookup ⟨"foo", "I", []⟩ = some decl ∧
      table.Acyclic decl ∧ (table.members decl).map (·.owner.simpleName) =
        ["B", "Object", "Object", "Object"] ∧ table.MostSpecific decl := by
  intro table
  have reached : (Snapshot.sample (diamond ["foo.B", "foo.A"])).Reached :=
    .read (Snapshot.ofTypes_sample (by decide +kernel))
  have lawful : table.Lawful := reached.wellFormed.lawful
  have known : (table.lookup ⟨"foo", "I", []⟩).any fun decl => decide (
      (table.members decl).map (·.owner.simpleName) = ["B", "Object", "Object", "Object"]) &&
      decide (∀ type ∈ table.ancestry decl, type ∉ table.reach [] type.interfaces) &&
      decide (∀ middle ∈ table.ancestry decl, ∀ sub ∈ table.ancestry decl,
        ∀ owner ∈ table.reach [] sub.interfaces,
          ¬ table.forks? middle.interfaces owner sub) := by
    decide +kernel
  obtain ⟨decl, found, known⟩ := (Option.any_eq_true _ _).mp known
  simp only [Bool.and_eq_true, decide_eq_true_eq, lawful.forks?_iff] at known
  obtain ⟨⟨members, acyclic⟩, unforked⟩ := known
  have visible : table.lookup decl.name = some decl := by rwa [lawful _ _ found]
  have acyclic := (lawful.acyclic_iff visible).mpr acyclic
  refine ⟨lawful, signed_of_reached reached, decl, found, acyclic, members, ?_⟩
  refine (lawful.mostSpecific_iff (signed_of_reached reached) visible acyclic).mpr ?_
  intro owner sub signature _ inherits overrides middle inheritsMiddle
  exact unforked middle ((mem_ancestry_iff visible).mpr inheritsMiddle) sub
    ((mem_ancestry_iff visible).mpr inherits) owner
    (lawful.leads_iff_mem_reach.mp overrides.inherits)

/-- If `I` lists `A` first, it has the method of `A`, although `B` overrides it. -/
theorem not_mostSpecific_overriddenFirst :
    let table := (Snapshot.sample (diamond ["foo.A", "foo.B"])).table
    table.Lawful ∧ table.Signed ∧ ∃ decl, table.lookup ⟨"foo", "I", []⟩ = some decl ∧
      table.Acyclic decl ∧ table.missingParent? decl = none ∧ ¬ table.MostSpecific decl := by
  intro table
  have reached : (Snapshot.sample (diamond ["foo.A", "foo.B"])).Reached :=
    .read (Snapshot.ofTypes_sample (by decide +kernel))
  have lawful : table.Lawful := reached.wellFormed.lawful
  have known : (table.lookup ⟨"foo", "I", []⟩).any fun decl => decide (
      table.missingParent? decl = none ∧
      (∀ type ∈ table.ancestry decl, type ∉ table.reach [] type.interfaces) ∧
      ∃ owner ∈ table.ancestry decl, ∃ sub ∈ table.ancestry decl,
        owner ∈ table.reach [] sub.interfaces ∧ ∃ method ∈ table.members decl,
          method.owner = owner.name ∧ (∃ other ∈ owner.methods, other.signature = method.signature) ∧
          ∃ other ∈ sub.methods, other.signature = method.signature) := by
    decide +kernel
  obtain ⟨decl, found, known⟩ := (Option.any_eq_true _ _).mp known
  obtain ⟨complete, acyclic, owner, -, sub, listed, inherits, method, member, named, overridden,
    redeclared⟩ := of_decide_eq_true known
  have visible : table.lookup decl.name = some decl := by rwa [lawful _ _ found]
  refine ⟨lawful, signed_of_reached reached, decl, found, (lawful.acyclic_iff visible).mpr acyclic,
    complete, fun specific => ?_⟩
  exact specific method member sub owner ((mem_ancestry_iff visible).mp listed)
    ⟨lawful.leads_iff_mem_reach.mpr inherits, overridden, redeclared⟩ named

end Diamond

end SymbolTable

end Delegation
