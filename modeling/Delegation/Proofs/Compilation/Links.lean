import Delegation.Proofs.Compilation.Endings
import Delegation.Proofs.Fulfilment
import Delegation.Proofs.Java.IdentifiedName
import Delegation.Proofs.Snapshot.Advance

/-!
# Links

An annotated class may want its base class to extend the base class of another one, which may want to
extend the base class of yet another one.  Such classes form a chain.  What a link of a chain asks
for does not change while other classes join the snapshot.

## Main Definitions

* `Snapshot.HasLink` — a class asks to delegate to some interfaces and to extend a class.
* `Snapshot.Chain` — the annotated classes of a snapshot form a chain.

## Main Statements

* `Snapshot.HasLink.of_names` — classes that refer to each other by the names of their base classes
  are links.
* `Snapshot.HasLink.exists_asks` — a link goes on to ask for what it asked for.
-/

namespace Delegation

open Java

/-- A class of a chain, and the interfaces that it delegates to. -/
structure Link where
  type : ClassName
  interfaces : List ClassName
deriving DecidableEq, Repr, Inhabited

namespace Snapshot

variable {snapshot later : Snapshot}

/-- A link is written in a snapshot: a top-level class that extends its base class asks to delegate to
different interfaces, which are there with all that they inherit from, without asking for field
names, and wants its base class to extend a certain class. -/
structure HasLink (snapshot : Snapshot) (superclass : ClassName) (link : Link) : Prop where
  topLevel : link.type.nested = []
  distinct : link.interfaces.Nodup
  written : ∃ entry ∈ snapshot.written, entry.name = link.type ∧ entry.decl.kind = .class_ ∧
    entry.extends?.bind ClassName.ofDotted? = some link.type.generated ∧
    entry.decl.request.superclass? = some superclass ∧
    List.Forall₂ snapshot.table.Denotes entry.decl.request.delegates link.interfaces

/-- The first of some links wants its base class to extend a certain class, and every other one the
base class of the link before it. -/
inductive Linked (snapshot : Snapshot) : ClassName → List Link → Prop
  | nil (superclass : ClassName) : Linked snapshot superclass []
  | cons {superclass : ClassName} {link : Link} {rest : List Link}
      (links : snapshot.HasLink superclass link) (more : Linked snapshot link.type.generated rest) :
      Linked snapshot superclass (link :: rest)

/-- Every link after the first wants its base class to extend the base class of another one. -/
theorem Linked.exists_before {link : Link} {rest : List Link}
    (linked : Linked snapshot link.type.generated rest) {other : Link} (mem : other ∈ rest) :
    ∃ before ∈ link :: rest, snapshot.HasLink before.type.generated other := by
  induction rest generalizing link with
  | nil => cases mem
  | cons next rest ih =>
      cases linked with
      | cons first more =>
          rcases List.mem_cons.mp mem with rfl | later
          · exact ⟨link, List.mem_cons_self, first⟩
          · obtain ⟨before, listed, hasLink⟩ := ih more later
            exact ⟨before, List.mem_cons_of_mem _ listed, hasLink⟩

/-- The annotated classes of a snapshot form a chain that starts from a declared class: they are the
links in some order, all types are there from the first round on, and the names of the base classes
are different and not declared. -/
structure Chain (snapshot : Snapshot) (superclass : TypeDecl) (links : List Link) : Prop where
  present : ∀ entry ∈ snapshot.written, entry.round = 1
  annotated : snapshot.annotated.Perm (links.map (·.type))
  declared : snapshot.lookup superclass.name = some superclass
  isClass : superclass.kind = .class_
  linked : snapshot.Linked superclass.name links
  unshared : (links.map (·.type.generated)).Nodup
  undeclared : ∀ link ∈ links, link.type.generated ∉ snapshot.entryNames

/-! ## What a snapshot keeps -/

/-- Where types have joined a snapshot and all old ones have come, its table has grown. -/
theorem Reached.growsTo (reached : snapshot.Reached) (laterReached : later.Reached)
    (kept : ∀ entry ∈ snapshot.written, entry ∈ later.written ∧ entry.round ≤ later.round) :
    snapshot.table.GrowsTo later.table :=
  reached.growsTo_of_visible laterReached fun entry mem _ => kept entry mem

/-- Where all annotated types are there from the first round on, no later round brings another. -/
theorem Reached.notMem_annotatedIn (reached : snapshot.Reached)
    (present : ∀ entry ∈ snapshot.annotations, entry.round = 1) {round : Nat} (later : 1 < round)
    (type : ClassName) : type ∉ (snapshot.setRound round).annotatedIn round := by
  rw [(Reached.moved reached round).mem_annotatedIn_iff (Nat.le_of_lt later)]
  rintro ⟨entry, mem, -, now⟩
  rw [annotations_setRound] at mem
  rw [present entry mem] at now
  exact Nat.ne_of_lt later now

/-- Top-level classes that are named by identifiers are links when they extend their base classes and
want to extend those of others, both by name. -/
theorem HasLink.of_names {entry : Entry} (mem : entry ∈ snapshot.written)
    (isClass : entry.decl.kind = .class_) (identified : entry.name.Identified)
    (topLevel : entry.name.nested = []) {other : ClassName} (otherIdentified : other.Identified)
    (clause : entry.extends? = some entry.name.generated.qualified)
    (wanted : entry.decl.request.extend? = some other.generated.qualified)
    {interfaces : List ClassName} (distinct : interfaces.Nodup)
    (denote : List.Forall₂ snapshot.table.Denotes entry.decl.request.delegates interfaces) :
    snapshot.HasLink other.generated ⟨entry.name, interfaces⟩ := by
  refine ⟨topLevel, distinct, entry, mem, rfl, isClass, ?_, ?_, denote⟩
  · rw [clause, Option.bind_some, ClassName.readable_iff.mp identified.generated.readable]
  · rw [Request.superclass?, wanted]
    exact TypeName.classNamed?_eq_some_iff.mpr otherIdentified.generated.ofText?_qualified

/-- A link goes on to ask for what it asked for. -/
theorem HasLink.exists_asks {superclass : ClassName} {link : Link}
    (links : snapshot.HasLink superclass link) (reached : snapshot.Reached)
    (laterReached : later.Reached)
    (kept : ∀ entry ∈ snapshot.written, entry ∈ later.written ∧ entry.round ≤ later.round) :
    ∃ decl, later.table.lookup link.type = some decl ∧ decl.name = link.type ∧
      later.table.Asks decl link.interfaces superclass := by
  obtain ⟨topLevel, distinct, entry, mem, named, isClass, clause, wanted, denote⟩ := links
  obtain ⟨stays, appeared⟩ := kept entry mem
  have grows := reached.growsTo laterReached kept
  refine ⟨(later.reread entry).decl,
    laterReached.lookup_eq_some_iff.mpr ⟨entry, stays, named, appeared, rfl⟩, named, ?_⟩
  constructor
  · exact isClass
  · show entry.name.nested = []
    rw [named, topLevel]
  · intro found resolved
    show found = entry.name.generated
    obtain ⟨names, -⟩ := superclassOf_eq_resolved_iff.mp resolved
    rw [Entry.clause?] at names
    obtain ⟨text, said, read⟩ := Option.bind_eq_some_iff.mp clause
    split at names
    · cases names
    · rw [said] at names
      rw [named]
      exact Option.some.inj (names.symm.trans read)
  · exact denote.imp fun _ _ denotes => grows.denotes denotes
  · exact distinct
  · exact wanted

end Snapshot

end Delegation
