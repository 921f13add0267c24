import Delegation.Proofs.Compilation.Directory
import Delegation.Proofs.Java.IdentifiedName
import Delegation.Proofs.Snapshot.Advance

/-!
# Classes found again by their names

Whoever refers to a class writes its qualified name, and where the package ends in it is read off the
letters each time: in a superclass clause, in a question for a source, and in a value of an annotation.
The first two read a name as it was read before, whatever characters are in it, and the name of a base
class as well.  A value is read as a type; it denotes the same class if its segments are identifiers.

## Main Definitions

* `Snapshot.FoundByClause`, `MemoryStore.FoundByText`, `Snapshot.FoundByValue` — a class is found by its
  qualified name, by each of the readings.
* `Snapshot.Agree` — what a value denotes and what a clause means are the same.

## Main Statements

* `Snapshot.Reached.superclass_of_hasClause` — what a clause with the name of a class means.
* `Snapshot.Reached.lookup_of_register` — a generated class stays visible as it has joined.
* `MemoryStore.source?_qualified`, `Compilation.source?_run` — what a store in memory finds.
* `found_by_qualified` — a class that was read is found, and so is its base class.
-/

namespace Delegation

open Java

variable {name : ClassName}

/-! ## Superclass clauses -/

/-- The class has this superclass clause. -/
structure Entry.HasClause (entry : Entry) (clause : String) : Prop where
  isClass : entry.decl.kind = .class_
  proper : entry.name ≠ .object
  said : entry.extends? = some clause

namespace Snapshot

variable {snapshot joined later : Snapshot} {entry : Entry} {base : BaseClass}

/-- What a superclass clause with the qualified name of a class means: the class, if that is visible. -/
theorem superclassOf_of_hasClause (snapshot : Snapshot) (readable : name.Readable)
    (written : entry.HasClause name.qualified) :
    snapshot.superclassOf entry =
      if (snapshot.lookup name).isSome then .resolved name else .unresolved name.qualified := by
  rw [superclassOf_of_clause snapshot written.isClass written.proper written.said,
    ClassName.readable_iff.mp readable]

/-- What is stored about the clause is what it means in the current round. -/
theorem Reached.superclass_of_hasClause (reached : snapshot.Reached) (readable : name.Readable)
    (mem : entry ∈ snapshot.entries.toList) (written : entry.HasClause name.qualified) :
    entry.decl.superclass =
      if (snapshot.lookup name).isSome then .resolved name else .unresolved name.qualified := by
  rw [reached.superclass_eq mem, superclassOf_of_hasClause snapshot readable written]

/-- A generated class that joins has the qualified name of its superclass as its clause. -/
theorem Reached.hasClause_of_register (reached : snapshot.Reached)
    (ok : snapshot.register base = .ok joined) (round : Nat) :
    (Entry.ofBase base round).HasClause base.superclass.qualified where
  isClass := rfl
  proper := by
    -- The root class is there, so its name is taken.
    obtain ⟨extended, inserted, -⟩ := register_eq_ok_iff.mp ok
    rintro rooted
    refine (insert_eq_some_iff.mp inserted).1 (reached.wellFormed.mem_index_iff.mpr ?_)
    rw [show (Entry.ofBase base snapshot.round).name = .object from rooted]
    exact reached.object_mem_entryNames
  said := rfl

/-- **A generated class that has joined stays visible** as it has joined, except that its superclass
clause is read again. -/
theorem Reached.lookup_of_register (reached : snapshot.Reached)
    (ok : snapshot.register base = .ok joined) (advances : joined.Advances later) :
    later.lookup base.name = some { (Entry.ofBase base snapshot.round).decl with
      superclass := later.superclassOf (Entry.ofBase base snapshot.round) } := by
  have added : (Entry.ofBase base snapshot.round).written ∈ joined.written := by
    rw [written_register ok]
    exact List.mem_append_right _ List.mem_cons_self
  have appeared : snapshot.round ≤ later.round := round_register ok ▸ advances.round_le
  exact (advances.reached (.joined reached ok)).lookup_eq_some_iff.mpr
    ⟨_, advances.written_prefix.subset added, rfl, appeared, rfl⟩

/-- Superclass clauses with the qualified name of a class find it, in the snapshots that can be made. -/
structure FoundByClause (name : ClassName) : Prop where
  /-- A clause is resolved to the class where that is visible, and to nothing elsewhere. -/
  clause : ∀ snapshot : Snapshot, snapshot.Reached → ∀ entry ∈ snapshot.entries.toList,
    entry.HasClause name.qualified → entry.decl.superclass =
      if (snapshot.lookup name).isSome then .resolved name else .unresolved name.qualified
  /-- When a generated class of this name has joined, clauses are resolved to it from then on. -/
  registered : ∀ (snapshot joined later : Snapshot) (base : BaseClass), snapshot.Reached →
    base.name = name → snapshot.register base = .ok joined → joined.Advances later →
      (∃ superclass, later.lookup name =
        some { (Entry.ofBase base snapshot.round).decl with superclass := superclass }) ∧
      ∀ entry ∈ later.entries.toList, entry.HasClause name.qualified →
        entry.decl.superclass = .resolved name
  /-- When a generated class that extends this one has joined, its own clause finds it. -/
  extended : ∀ (snapshot joined later : Snapshot) (base : BaseClass), snapshot.Reached →
    base.superclass = name → snapshot.register base = .ok joined → joined.Advances later →
      later.lookup base.name = some { (Entry.ofBase base snapshot.round).decl with
        superclass :=
          if (later.lookup name).isSome then .resolved name else .unresolved name.qualified }

/-- Clauses find the classes that were read. -/
theorem foundByClause (readable : name.Readable) : FoundByClause name where
  clause snapshot reached entry mem written := reached.superclass_of_hasClause readable mem written
  registered snapshot joined later base reached named ok advances := by
    subst named
    have found := reached.lookup_of_register ok advances
    refine ⟨⟨_, found⟩, fun entry mem written => ?_⟩
    have reachedLater := advances.reached (.joined reached ok)
    rw [reachedLater.superclass_of_hasClause readable mem written, found]
    rfl
  extended snapshot joined later base reached named ok advances := by
    subst named
    have written := reached.hasClause_of_register ok snapshot.round
    rw [reached.lookup_of_register ok advances, superclassOf_of_hasClause later readable written]

end Snapshot

/-! ## Sources in memory -/

namespace MemoryStore

/-- A store finds a source by the qualified name of its class. -/
theorem source?_qualified (store : MemoryStore) (readable : name.Readable) :
    store.source? name.qualified = store.files[name]?.map (·.source) := by
  rw [source?, ClassName.readable_iff.mp readable]
  rfl

/-- Stores in memory find the source of a class by its qualified name. -/
structure FoundByText (name : ClassName) : Prop where
  /-- A store that is asked for the name answers with the source of the class, if there is one. -/
  source : ∀ store : MemoryStore,
    store.source? name.qualified = store.files[name]?.map (·.source)
  /-- When a source was written for a class of this name, it is found from then on. -/
  written : ∀ (store : MemoryStore) (base : BaseClass) (options : Options), base.name = name →
    (store.write base (render base options)).1 = .ok () → ∀ later : List BaseClass,
      (output.after options (store.write base (render base options)).2 later).source?
        name.qualified = some (render base options).source

/-- They find the sources of the classes that were read. -/
theorem foundByText (readable : name.Readable) : FoundByText name where
  source store := store.source?_qualified readable
  written store base options named ok later := by
    subst named
    have fresh : (render base options).name ∉ store.files := by
      intro known
      rw [MemoryStore.write, if_pos (Std.TreeMap.mem_iff_contains.mp known)] at ok
      cases ok
    have holds : (output.after options (store.write base (render base options)).2 later).Holds
        base.name (render base options) := (holds_write fresh base).after
    rw [source?_qualified _ readable, show _ = some _ from holds]
    rfl

end MemoryStore

/-- **Every source that a compilation leaves in memory is found by the qualified name of its class.** -/
theorem Compilation.source?_run {compilation : Compilation} (reached : compilation.snapshot.Reached)
    {file : SourceFile}
    (holds : (compilation.run MemoryStore.output .empty).store.Holds name file) :
    (compilation.run MemoryStore.output .empty).store.source? name.qualified =
      some file.source := by
  have readable : name.Readable := by
    rw [store_run] at holds
    rcases MemoryStore.exists_of_holds_after holds with before | ⟨base, mem, rfl, -⟩
    · exact absurd before MemoryStore.not_holds_empty
    · obtain ⟨type, annotated, same⟩ := exists_of_mem_attempts reached mem
      have read : type.Readable := reached.exists_ofDotted? annotated
      exact same ▸ read.generated
  rw [MemoryStore.source?_qualified _ readable, show _ = some file from holds]
  rfl

/-! ## Values -/

namespace Snapshot

/-- What a value denotes agrees with what a superclass clause with the same class name means. -/
inductive Agree (snapshot : Snapshot) (name : ClassName) : Resolution → Superclass → Prop
  /-- The class is visible: one denotes its declaration, the other is resolved to it. -/
  | visible {decl : TypeDecl} (found : snapshot.lookup name = some decl) (named : decl.name = name) :
      Agree snapshot name (.declared decl) (.resolved name)
  /-- The class is not visible, and may still come. -/
  | hidden (absent : snapshot.lookup name = none) :
      Agree snapshot name .missing (.unresolved name.qualified)

/-- The qualified name of a class denotes it as a value too, and both readings agree in the snapshots
that can be made. -/
structure FoundByValue (name : ClassName) : Prop where
  /-- Where a type is expected, the name reads as the class. -/
  type : TypeName.ofText? name.qualified = some (.plain name)
  /-- What the name denotes as a value is what a superclass clause means by it. -/
  agree : ∀ snapshot : Snapshot, snapshot.Reached → ∀ entry ∈ snapshot.entries.toList,
    entry.HasClause name.qualified →
      Agree snapshot name (snapshot.table.resolve name.qualified) entry.decl.superclass

/-- Where the clause is resolved, the value denotes a declaration of the class. -/
theorem Agree.exists_declared {snapshot : Snapshot} {denoted : Resolution}
    (agree : Agree snapshot name denoted (.resolved name)) :
    ∃ decl, denoted = .declared decl ∧ decl.name = name := by
  cases agree with
  | visible found named => exact ⟨_, rfl, named⟩

/-- Values denote the classes whose names read as types, with those classes. -/
theorem foundByValue (typed : TypeName.ofText? name.qualified = some (.plain name)) :
    FoundByValue name where
  type := typed
  agree snapshot reached entry mem written := by
    have named : TypeName.classNamed? name.qualified = some name :=
      TypeName.classNamed?_eq_some_iff.mpr typed
    have readable : name.Readable := ⟨_, TypeName.ofDotted?_of_classNamed? named⟩
    rw [reached.superclass_of_hasClause readable mem written]
    cases found : snapshot.lookup name with
    | none =>
        rw [SymbolTable.resolve_eq_missing_iff.mpr ⟨name, named, found⟩]
        exact .hidden found
    | some decl =>
        rw [SymbolTable.resolve_eq_declared_iff.mpr ⟨name, named, found⟩]
        exact .visible found (reached.wellFormed.lawful name decl found)

end Snapshot

/-! ## Every reading -/

/-- **A class that was read is found again by its qualified name, and so is its base class.**  The name
reads as the class and is the name of no other such class; superclass clauses find the class by it, and
stores in memory its source.  If the segments of the name are identifiers, it denotes the class also as a
value of an annotation. -/
theorem found_by_qualified {text : String} {type : ClassName}
    (read : ClassName.ofDotted? text = some type) :
    ∀ name ∈ [type, type.generated],
      ClassName.ofDotted? name.qualified = some name ∧
      (∀ source : ClassName, source.Readable → ∀ other ∈ [source, source.generated],
        other.qualified = name.qualified → other = name) ∧
      Snapshot.FoundByClause name ∧ MemoryStore.FoundByText name ∧
      ((∀ segment ∈ name.segments, isIdentifier segment = true) → Snapshot.FoundByValue name) := by
  have both : ∀ source : ClassName, source.Readable →
      ∀ other ∈ [source, source.generated], other.Readable := fun source readable =>
    List.forall_mem_cons.mpr ⟨readable, List.forall_mem_singleton.mpr readable.generated⟩
  intro name mem
  have readable : name.Readable := both type ⟨text, read⟩ name mem
  refine ⟨ClassName.readable_iff.mp readable, fun source readSource other listed same => ?_,
    Snapshot.foundByClause readable, MemoryStore.foundByText readable, fun identifiers => ?_⟩
  · exact (both source readSource other listed).eq_of_qualified_eq readable same
  · have identified : name.Identified := ClassName.identified_iff.mpr ⟨readable, identifiers⟩
    exact Snapshot.foundByValue identified.ofText?_qualified

/-- A nested class with a name in lower case, and an heir of its base class. -/
def maples : List TypeDefinition :=
  [{ name := " foo.Érable.inner\t", kind := .class_ },
   { name := "foo.Heir", kind := .class_, extends? := some "foo.AutoDelegate_Érable_inner" }]

/-- The base class of the nested class is one of the package.  It is found by its name once it has
joined and its source was written, and as the value of an annotation. -/
theorem found_by_qualified_maples :
    let type : ClassName := ⟨"foo", "Érable", ["inner"]⟩
    let base : BaseClass := ⟨type.generated, type, [], [], [], []⟩
    let joined := ((Snapshot.sample maples).perform (.register base)).2
    let heir : ClassName := ⟨"foo", "Heir", []⟩
    ClassName.ofDotted? " foo.Érable.inner\t" = some type ∧
    base.name.qualified = "foo.AutoDelegate_Érable_inner" ∧
    ClassName.ofDotted? "foo.AutoDelegate_Érable_inner" = some base.name ∧
    (∃ entry ∈ joined.entries.toList, entry.name = heir ∧
      entry.decl.superclass = .resolved base.name) ∧
    (∃ decl, joined.table.resolve "foo.AutoDelegate_Érable_inner" = .declared decl ∧
      decl.name = base.name) ∧
    (MemoryStore.empty.write base (render base .standard)).2.source?
      "foo.AutoDelegate_Érable_inner" = some (render base .standard).source := by
  intro type base joined heir
  have read : ClassName.ofDotted? " foo.Érable.inner\t" = some type := by decide +kernel
  obtain ⟨back, -, clause, text, value⟩ :=
    found_by_qualified read base.name (List.mem_cons_of_mem _ List.mem_cons_self)
  have spelling : base.name.qualified = "foo.AutoDelegate_Érable_inner" := by decide +kernel
  rw [spelling] at back
  have reached : (Snapshot.sample maples).Reached :=
    .read (Snapshot.ofTypes_sample (by decide +kernel))
  obtain ⟨next, ok⟩ : ∃ next, (Snapshot.sample maples).register base = .ok next :=
    reached.exists_register (by decide +kernel)
  obtain rfl : joined = next := by
    show ((Snapshot.sample maples).registerAll [base]).2 = next
    rw [Snapshot.registerAll, ok]
    rfl
  obtain ⟨entry, mem, named, isClass, written⟩ : ∃ entry ∈ joined.entries.toList,
      entry.name = heir ∧ entry.decl.kind = .class_ ∧
        entry.extends? = some base.name.qualified := by decide +kernel
  have extending : entry.HasClause base.name.qualified :=
    ⟨isClass, named ▸ by decide, written⟩
  have resolved : entry.decl.superclass = .resolved base.name :=
    (clause.registered _ joined joined base reached rfl ok .refl).2 entry mem extending
  have agree := (value (by decide +kernel)).agree joined (.joined reached ok) entry mem extending
  rw [resolved, spelling] at agree
  have declared := agree.exists_declared
  have source := text.written .empty base .standard rfl rfl []
  rw [spelling] at source
  exact ⟨read, spelling, back, ⟨entry, mem, named, resolved⟩, declared, source⟩

end Delegation
