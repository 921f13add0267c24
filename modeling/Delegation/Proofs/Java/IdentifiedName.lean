import Delegation.Proofs.Java.CanonicalText

/-!
# Names made of identifiers

A superclass clause is read as a dotted name, and the value of an annotation as a type.  So a class whose
qualified name is no single word, or a keyword, can be named in the one and not in the other.  A name that
is made of identifiers is a word and no keyword, and both readings give its class.  The name of the base
class is made of identifiers as well.

## Main Definitions

* `ClassName.segments` — what the dots of a qualified name separate.
* `ClassName.Identified` — a class name that is made of identifiers.

## Main Statements

* `ClassName.Readable.ofText?_qualified_iff` — the classes whose qualified names are types.
* `ClassName.identified_iff` — names are made of identifiers if their segments are identifiers.
* `ClassName.Identified.ofText?_qualified`, `ClassName.Identified.generated` — the names of such a class
  and of its base class are types.
-/

namespace Delegation.Java.ClassName

open Text

/-- What the dots of the qualified name separate. -/
def segments (name : ClassName) : List String :=
  (name.qualified.toList.splitOn '.').map String.ofList

/-- A class name that can be written with dots and is made of identifiers. -/
def Identified (name : ClassName) : Prop :=
  ∃ package, name.Spelled package ∧
    ∀ segment ∈ package ++ name.simpleNames, isIdentifier segment = true

variable {name : ClassName}

/-- The segments of a class name are those that it is spelled with. -/
theorem Spelled.segments {package : List String} (spelled : name.Spelled package) :
    name.segments = package ++ name.simpleNames := by
  have nonempty : package ++ name.simpleNames ≠ [] := by simp [simpleNames]
  rw [ClassName.segments, spelled.qualified,
    splitOn_dotted nonempty fun segment mem => (spelled.proper segment mem).2]

/-- **The qualified name of a class is its plain type** if it is a word that stands for a class. -/
theorem Readable.ofText?_qualified_iff (readable : name.Readable) :
    TypeName.ofText? name.qualified = some (.plain name) ↔
      (∀ c ∈ name.qualified.toList, isWordPart c = true) ∧ TypeName.NamesClass name.qualified := by
  constructor
  · intro typed
    obtain ⟨-, parts, word⟩ :=
      (TypeName.readable_of_ofText? typed).2 name List.mem_cons_self
    refine ⟨parts, ?_⟩
    rcases (TypeName.ofWord?_eq_some_iff parts).mp word with
      ⟨-, void⟩ | ⟨keyword, -, primitive⟩ | ⟨names, -⟩
    · cases void
    · cases primitive
    · exact names
  · rintro ⟨parts, names⟩
    obtain ⟨-, same⟩ := (ofDotted?_word parts).mp (readable_iff.mp readable)
    have nonempty : name.qualified ≠ "" := by
      intro empty
      exact names.full [] (by simp [empty]) rfl
    have reads := names.reads ⟨nonempty, parts⟩
    rw [← same] at reads
    have typed : (TypeName.declared name []).Readable :=
      TypeName.readable_declared reads (List.forall_mem_nil _)
    have back := typed.ofText?_text
    rwa [TypeName.text, TypeName.write] at back

/-- White space inside a name belongs to a segment in the one reading and separates words in the other. -/
example : ofDotted? "foo.Érable.x y" = some ⟨"foo", "Érable", ["x y"]⟩ ∧
    TypeName.ofText? "foo.Érable.x y" = none := by decide +kernel

namespace Identified

/-- A name that is made of identifiers is a word. -/
theorem parts (identified : name.Identified) :
    ∀ c ∈ name.qualified.toList, isWordPart c = true := by
  obtain ⟨package, spelled, identifiers⟩ := identified
  rw [spelled.qualified]
  exact forall_mem_dotted rfl fun segment mem =>
    isWordPart_of_isIdentifier (identifiers segment mem)

/-- The qualified name reads as the class, in a superclass clause. -/
theorem readable (identified : name.Identified) : name.Readable := by
  have parts := identified.parts
  obtain ⟨package, spelled, -⟩ := identified
  refine ⟨name.qualified, spelled.ofDotted? ?_⟩
  rw [trim_of_isWordPart parts, spelled.qualified]

/-- The segments are identifiers. -/
theorem segments (identified : name.Identified) :
    ∀ segment ∈ name.segments, isIdentifier segment = true := by
  obtain ⟨package, spelled, identifiers⟩ := identified
  rwa [spelled.segments]

/-- A name without dots is an identifier itself. -/
theorem isIdentifier_of_dotless (identified : name.Identified)
    (dotless : '.' ∉ name.qualified.toList) : isIdentifier name.qualified = true := by
  refine identified.segments _ ?_
  rw [ClassName.segments, List.splitOn_eq_singleton dotless, List.map_singleton,
    String.ofList_toList]
  exact List.mem_singleton_self _

/-- The name stands for a class and is no keyword. -/
theorem namesClass (identified : name.Identified) : TypeName.NamesClass name.qualified where
  notVoid := by
    intro same
    have keyword := identified.isIdentifier_of_dotless (by rw [same]; decide)
    rw [same] at keyword
    exact absurd keyword (by decide)
  notPrimitive := by
    intro type same
    have keyword := identified.isIdentifier_of_dotless (by rw [same]; cases type <;> decide)
    rw [same] at keyword
    cases type <;> exact absurd keyword (by decide)
  full := ((ofDotted?_word identified.parts).mp (readable_iff.mp identified.readable)).1

/-- **The qualified name reads as the class also where a type is expected.** -/
theorem ofText?_qualified (identified : name.Identified) :
    TypeName.ofText? name.qualified = some (.plain name) :=
  identified.readable.ofText?_qualified_iff.mpr ⟨identified.parts, identified.namesClass⟩

/-- The name of the base class is made of identifiers as well. -/
theorem generated (identified : name.Identified) : name.generated.Identified := by
  obtain ⟨package, spelled, identifiers⟩ := identified
  refine ⟨package, spelled.generated, ?_⟩
  obtain ⟨inPackage, inChain⟩ := List.forall_mem_append.mp identifiers
  rw [simpleNames_generated]
  refine List.forall_mem_append.mpr ⟨inPackage, List.forall_mem_singleton.mpr ?_⟩
  have joined := forall_mem_intercalate "_" (List.forall_mem_singleton.mpr (by decide))
    fun simple mem => isNamePart_of_isIdentifier (inChain simple mem)
  have text : (generatedPrefix ++ "_".intercalate name.simpleNames).toList =
      'A' :: ("utoDelegate_".toList ++ ("_".intercalate name.simpleNames).toList) := by
    rw [String.toList_append]
    rfl
  have prefixed : ∀ c ∈ "utoDelegate_".toList, isNamePart c = true :=
    List.all_eq_true.mp (by decide)
  -- No reserved word starts like the prefix, so the joined name is none of them.
  have free : ∀ word ∈ reservedWords, word.toList.head? ≠ some 'A' := by decide
  rw [isIdentifier, Bool.and_eq_true, isNameShape_eq_true_iff]
  refine ⟨⟨_, _, text, by decide, List.forall_mem_append.mpr ⟨prefixed, joined⟩⟩, ?_⟩
  rw [Bool.not_eq_true', List.contains_eq_mem, decide_eq_false_iff_not]
  exact fun reserved => free _ reserved (congrArg List.head? text)

end Identified

/-- Names are made of identifiers if they can be read and their segments are identifiers. -/
theorem identified_iff :
    name.Identified ↔ name.Readable ∧ ∀ segment ∈ name.segments, isIdentifier segment = true := by
  refine ⟨fun identified => ⟨identified.readable, identified.segments⟩, ?_⟩
  rintro ⟨readable, identifiers⟩
  obtain ⟨package, spelled, -⟩ := readable.exists_spelled
  rw [spelled.segments] at identifiers
  exact ⟨package, spelled, identifiers⟩

end Delegation.Java.ClassName
