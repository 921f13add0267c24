import Delegation.Proofs.Java.TypeGrammar
import Delegation.Source.File

/-!
# Names in a source

A source calls a class by its simple names or by its qualified name.  A qualified name is that of one
class only.  Simple names are given to one class of the named packages at most, but to every class of
the unnamed package as well.  So a class of the unnamed package, also the one that is generated, can
be written like another one, and in no other way can two classes be written alike.  Types are written
alike only if classes are.

## Main Definitions

* `Imports.isRelative` — whether a class is written without its package.
* `Imports.written` — the class that the name of a class in the source is the qualified name of.
* `Imports.Share` — two classes have the same simple names in a source.
* `Legible` — the classes that a base class mentions were read from texts.

## Main Statements

* `Imports.nameOf_eq_iff` — which classes are written alike.
* `Imports.exists_of_typeText_eq` — types are written alike only if classes are.
* `names_apart` — which names in the source of a base class are ambiguous.
-/

namespace Delegation

open Java

/-! ## Chains of simple names -/

namespace Java

/-- Dotted names with the same text have the same segments. -/
theorem dotted_inj {first second : List String} (nonempty : first ≠ []) (nonempty' : second ≠ [])
    (dotless : ∀ segment ∈ first, '.' ∉ segment.toList)
    (dotless' : ∀ segment ∈ second, '.' ∉ segment.toList) (same : dotted first = dotted second) :
    first = second := by
  rw [← splitOn_dotted nonempty dotless, same, splitOn_dotted nonempty' dotless']

namespace ClassName.Spelled

variable {name other : ClassName} {package package' : List String}

/-- A chain starts with a segment that is spelled like a class, or it is a single segment. -/
theorem isClassSegment_or (spelled : name.Spelled package) :
    isClassSegment name.outermost = true ∨ name.nested = [] := by
  have split := spelled.split
  unfold splitChain at split
  split at split
  · -- no segment is spelled like a class, and the last one alone is the chain
    have chain := congrArg Prod.snd split
    right
    cases last : (package ++ name.simpleNames).getLast? with
    | none =>
        rw [last] at chain
        cases chain
    | some segment =>
        rw [last] at chain
        exact (List.cons.inj chain).2.symm
  · have chain := congrArg Prod.snd split
    have first := List.head?_dropWhile_not (!isClassSegment ·) (package ++ name.simpleNames)
    left
    rw [show List.dropWhile _ _ = name.simpleNames from chain] at first
    simpa [simpleNames] using first

/-- Without its package, a class is one of the unnamed package. -/
theorem unpackaged (spelled : name.Spelled package) :
    ({ name with package := "" } : ClassName).Spelled [] where
  proper segment mem := spelled.proper segment (List.mem_append_right _ mem)
  joined := rfl
  split := by
    show splitChain (name.outermost :: name.nested) = ([], name.outermost :: name.nested)
    rcases spelled.isClassSegment_or with upper | single
    · simp [splitChain, upper]
    · rw [single]
      cases upper : isClassSegment name.outermost <;> simp [splitChain, upper]

/-- Classes that are spelled with the same segments are the same. -/
theorem eq_of_append_eq (spelled : name.Spelled package) (spelled' : other.Spelled package')
    (same : package ++ name.simpleNames = package' ++ other.simpleNames) : name = other := by
  have split := spelled.split
  rw [same, spelled'.split] at split
  obtain ⟨packages, chains⟩ := Prod.mk.inj split
  refine ext_simpleNames ?_ chains.symm
  rw [spelled.joined, spelled'.joined, packages]

/-- Classes with the same qualified name are the same. -/
theorem eq_of_qualified_eq (spelled : name.Spelled package) (spelled' : other.Spelled package')
    (same : name.qualified = other.qualified) : name = other := by
  rw [spelled.qualified, spelled'.qualified] at same
  refine spelled.eq_of_append_eq spelled' (dotted_inj ?_ ?_ ?_ ?_ same)
  · simp [ClassName.simpleNames]
  · simp [ClassName.simpleNames]
  · exact fun segment mem => (spelled.proper segment mem).2
  · exact fun segment mem => (spelled'.proper segment mem).2

end ClassName.Spelled

end Java

namespace Source

namespace Imports

variable {imports : Imports} {name other : ClassName} {package package' : List String}

/-! ## How classes are written -/

/-- Whether a class is written without its package. -/
def isRelative (imports : Imports) (name : ClassName) : Bool :=
  name.package.isEmpty || imports.isShort name.topLevel

/-- The class that a class is written as: its name in the source is the qualified name of this. -/
def written (imports : Imports) (name : ClassName) : ClassName :=
  if imports.isRelative name then { name with package := "" } else name

theorem nameOf_eq_qualified (imports : Imports) (name : ClassName) :
    imports.nameOf name = (imports.written name).qualified := by
  show (if imports.isRelative name then name.relative else name.qualified) = _
  rw [written]
  split <;> rfl

/-- A class is written as one that is spelled with the end of its segments. -/
theorem spelled_written (imports : Imports) (spelled : name.Spelled package) :
    (imports.written name).Spelled (if imports.isRelative name then [] else package) := by
  rw [written]
  split
  · exact spelled.unpackaged
  · exact spelled

/-- Names of classes are written alike if the classes are. -/
theorem nameOf_eq_nameOf_iff (spelled : name.Spelled package) (spelled' : other.Spelled package') :
    imports.nameOf name = imports.nameOf other ↔ imports.written name = imports.written other := by
  rw [nameOf_eq_qualified, nameOf_eq_qualified]
  refine ⟨fun same => ?_, fun same => by rw [same]⟩
  exact (imports.spelled_written spelled).eq_of_qualified_eq (imports.spelled_written spelled') same

/-- Different classes are written as the same one if both are written by the same simple names. -/
theorem written_eq_written_iff (different : name ≠ other) :
    imports.written name = imports.written other ↔
      imports.isRelative name = true ∧ imports.isRelative other = true ∧
        name.simpleNames = other.simpleNames := by
  have qualified : ∀ {name other : ClassName}, imports.isRelative other = false →
      { name with package := "" } ≠ other := by
    rintro name _ named rfl
    cases named
  rw [written, written]
  split <;> rename_i first <;> split <;> rename_i second
  · simp [first, second, ClassName.simpleNames]
  · simp [second, qualified (Bool.eq_false_iff.mpr second)]
  · simp [first, Ne.symm (qualified (Bool.eq_false_iff.mpr first))]
  · simp [first, different]

/-! ## Which classes are written short -/

open Std.DTreeMap.Internal in
/-- A set has an element with some property if its list has. -/
theorem any_eq_any_toList (names : ClassNames) (p : ClassName → Bool) :
    names.any p = names.toList.any p := by
  have loop : ∀ entries : List ((_ : ClassName) × Unit),
      (Id.run do
        for ⟨name, _⟩ in entries do
          if p name then return true
        return false) = (entries.map (·.1)).any p := by
    intro entries
    induction entries with
    | nil => rfl
    | cons entry rest ih => by_cases holds : p entry.1 <;> simp_all
  have keys : names.toList = names.inner.inner.inner.toListModel.map (·.1) :=
    Impl.keys_eq_keys.trans (Std.Internal.List.keys_eq_map ..)
  have entries : ∀ (tree : Impl ClassName fun _ => Unit) (start : Option Bool × Unit)
      (step : (_ : ClassName) × Unit → Option Bool × Unit → Id (ForInStep (Option Bool × Unit))),
      (forIn tree start step : Id _) = forIn tree.toListModel start step :=
    fun tree start step => Impl.forIn_eq_forIn_toListModel
  rw [keys, ← loop]
  show Impl.any _ _ = _
  unfold Impl.any
  rw [entries]

theorem hasRival_iff {outer : ClassName} : imports.hasRival outer = true ↔
    ∃ rival ∈ imports.candidates, rival.outermost = outer.outermost ∧ rival ≠ outer := by
  simp [hasRival, any_eq_any_toList, Std.TreeSet.mem_toList]

/-- An outermost class has its simple name if it is in the package of the source or has no rival. -/
theorem isShort_iff {outer : ClassName} : imports.isShort outer = true ↔
    outer ∈ imports.candidates ∧ (outer.package = imports.package ∨ ∀ rival ∈ imports.candidates,
      rival.outermost = outer.outermost → rival = outer) := by
  have alone : imports.hasRival outer = false ↔ ∀ rival ∈ imports.candidates,
      rival.outermost = outer.outermost → rival = outer := by
    rw [← Bool.not_eq_true, hasRival_iff]
    push Not
    rfl
  rw [isShort, Bool.and_eq_true, Bool.or_eq_true, beq_iff_eq, Bool.not_eq_true', alone,
    ← Std.TreeSet.mem_iff_contains]

/-- A simple name belongs to one outermost class of the named packages at most. -/
theorem package_eq_of_isShort {outer outer' : ClassName} (short : imports.isShort outer = true)
    (short' : imports.isShort outer' = true) (same : outer.outermost = outer'.outermost) :
    outer.package = outer'.package := by
  obtain ⟨mem, first⟩ := isShort_iff.mp short
  obtain ⟨mem', second⟩ := isShort_iff.mp short'
  rcases first with inPackage | alone
  · rcases second with inPackage' | alone
    · rw [inPackage, inPackage']
    · rw [alone outer mem same]
  · rw [alone outer' mem' same.symm]

theorem mem_candidates_iff {source : String} {classes : List ClassName} {outer : ClassName} :
    outer ∈ (ofReferences source classes).candidates ↔
      ∃ name ∈ classes, name.package ≠ "" ∧ name.topLevel = outer := by
  simp [ofReferences, and_assoc]

/-- Two classes have the same simple names: one is of the unnamed package, and the other one is of
a named package and written by its simple names. -/
def Share (imports : Imports) (name other : ClassName) : Prop :=
  name.simpleNames = other.simpleNames ∧
    (name.package = "" ∧ imports.isShort other.topLevel = true ∨
      other.package = "" ∧ imports.isShort name.topLevel = true)

/-- **Which classes are written alike.** -/
theorem nameOf_eq_iff (spelled : name.Spelled package) (spelled' : other.Spelled package')
    (different : name ≠ other) :
    imports.nameOf name = imports.nameOf other ↔ imports.Share name other := by
  rw [nameOf_eq_nameOf_iff spelled spelled', written_eq_written_iff different, isRelative,
    isRelative, Bool.or_eq_true, Bool.or_eq_true, String.isEmpty_iff, String.isEmpty_iff]
  constructor
  · rintro ⟨first, second, chains⟩
    refine ⟨chains, ?_⟩
    have apart : name.package ≠ other.package := fun packages =>
      different (ClassName.ext_simpleNames packages chains)
    rcases first with unnamed | short
    · refine .inl ⟨unnamed, second.resolve_left fun unnamed' => apart ?_⟩
      rw [unnamed, unnamed']
    · refine .inr ⟨second.resolve_right fun short' => apart ?_, short⟩
      have packages : name.topLevel.package = other.topLevel.package :=
        package_eq_of_isShort short short' (List.cons.inj chains).1
      exact packages
  · rintro ⟨chains, ⟨unnamed, short⟩ | ⟨unnamed, short⟩⟩
    · exact ⟨.inl unnamed, .inr short, chains⟩
    · exact ⟨.inr short, .inl unnamed, chains⟩

/-! ## Types -/

/-- Whether a word stands for a type that is no class. -/
def isTypeKeyword (word : String) : Bool := word == "void" || (Primitive.ofKeyword? word).isSome

/-- The name of a class that is written as a word is read as the class it is written as. -/
theorem reads_nameOf (reads : TypeName.Reads ClassName.qualified id name)
    (free : isTypeKeyword (imports.nameOf name) = false) :
    TypeName.Reads imports.nameOf imports.written name := by
  have read : ClassName.ofDotted? name.qualified = some name :=
    TypeName.ofDotted?_of_ofWord? reads.reads
  obtain ⟨package, spelled, -⟩ := ClassName.ofDotted?_eq_some_iff.mp read
  have spelled := imports.spelled_written spelled
  have text := spelled.qualified
  rw [← nameOf_eq_qualified] at text
  have parts : ∀ c ∈ (imports.nameOf name).toList, isWordPart c = true := by
    intro c mem
    refine reads.parts c ?_
    rw [nameOf] at mem
    split at mem
    · rw [ClassName.qualified]
      split
      · exact mem
      · rw [String.toList_append]
        exact List.mem_append_right _ mem
    · exact mem
  refine ⟨?_, parts, ?_⟩
  · rw [text]
    exact dotted_ne_empty (by simp [ClassName.simpleNames]) fun segment mem =>
      (spelled.proper segment mem).1
  · rw [isTypeKeyword, Bool.or_eq_false_iff, beq_eq_false_iff_ne, Option.isSome_eq_false_iff,
      Option.isNone_iff_eq_none] at free
    have trimmed := trim_of_isWordPart parts
    have read := spelled.ofDotted? (trimmed.trans (congrArg String.toList text))
    rw [TypeName.ofWord?, if_neg free.1, free.2, read]
    rfl

/-- **Types are written alike only if classes are.** -/
theorem exists_of_typeText_eq {first second : TypeName} (readable : first.Readable)
    (readable' : second.Readable)
    (free : ∀ name ∈ first.classes ++ second.classes, isTypeKeyword (imports.nameOf name) = false)
    (different : first ≠ second) (same : imports.typeText first = imports.typeText second) :
    ∃ name ∈ first.classes, ∃ other ∈ second.classes, name ≠ other ∧
      imports.nameOf name = imports.nameOf other := by
  by_contra none_alike
  push Not at none_alike
  have reads := fun name mem => reads_nameOf (readable.2 name mem)
    (free name (List.mem_append_left _ mem))
  have reads' := fun name mem => reads_nameOf (readable'.2 name mem)
    (free name (List.mem_append_right _ mem))
  have back := readable.1.ofText?_write reads
  rw [show first.write imports.nameOf = second.write imports.nameOf from same,
    readable'.1.ofText?_write reads'] at back
  refine different (readable.1.eq_of_rename_eq (Option.some.inj back).symm ?_)
  intro name mem other mem' written
  by_contra apart
  refine none_alike name mem other mem' apart ?_
  rw [nameOf_eq_qualified, nameOf_eq_qualified, written]

/-! ## Import lines -/

/-- Imported are the outermost classes that have their simple names and are found only by that. -/
theorem mem_targets_iff {target : String} : target ∈ imports.targets ↔
    ∃ outer ∈ imports.candidates, imports.isShort outer = true ∧
      imports.needsImport outer = true ∧ outer.qualified = target := by
  simp [targets, Std.TreeSet.mem_toList, and_assoc]

end Imports

/-! ## The source of a base class -/

variable {base : BaseClass} {options : Options} {name : ClassName}

/-- Every class that a base class mentions was read from a text. -/
def Legible (base : BaseClass) : Prop :=
  ∀ name ∈ base.name :: base.classes, ∃ text, ClassName.ofDotted? text = some name

/-- It is enough that each can be read from its own qualified name. -/
theorem legible_of_qualified
    (read : ∀ name ∈ base.name :: base.classes, ClassName.ofDotted? name.qualified = some name) :
    Legible base := fun name mem => ⟨name.qualified, read name mem⟩

/-- The mark of generated code can be read. -/
theorem exists_ofDotted?_marker {marker : ClassName} (marked : options.marker? = some marker) :
    ∃ text, ClassName.ofDotted? text = some marker := by
  rw [Options.marker?] at marked
  split at marked
  · cases marked
    split
    · exact ⟨"javax.annotation.processing.Generated", by decide +kernel⟩
    · exact ⟨"javax.annotation.Generated", by decide +kernel⟩
  · cases marked

/-- Every class that the source refers to was read from a text. -/
theorem Legible.exists_ofDotted? (legible : Legible base) (mem : name ∈ references base options) :
    ∃ text, ClassName.ofDotted? text = some name := by
  rw [references, ← List.cons_append] at mem
  rcases List.mem_append.mp mem with mentioned | marker
  · exact legible name mentioned
  · exact exists_ofDotted?_marker (Option.mem_toList.mp marker)

theorem Legible.spelled (legible : Legible base) (mem : name ∈ references base options) :
    ∃ package, name.Spelled package := by
  obtain ⟨text, read⟩ := legible.exists_ofDotted? mem
  obtain ⟨package, spelled, -⟩ := ClassName.ofDotted?_eq_some_iff.mp read
  exact ⟨package, spelled⟩

/-- A base class of a named package has its simple name. -/
theorem isShort_own (named : base.name.package ≠ "") :
    (importsOf base options).isShort base.name.topLevel = true := by
  refine Imports.isShort_iff.mpr ⟨?_, .inl rfl⟩
  exact Imports.mem_candidates_iff.mpr ⟨base.name, List.mem_cons_self, named, rfl⟩

/-- A base class is written without its package. -/
theorem nameOf_own : (importsOf base options).nameOf base.name = base.name.relative := by
  refine if_pos ?_
  rw [Bool.or_eq_true, String.isEmpty_iff]
  by_cases unnamed : base.name.package = ""
  · exact .inl unnamed
  · exact .inr (isShort_own unnamed)

/-- No other class of a named package has the simple name of a top-level base class. -/
theorem Legible.nameOf_eq_own_iff (legible : Legible base) (topLevel : base.name.nested = [])
    (named : base.name.package ≠ "") (mem : name ∈ references base options)
    (packaged : name.package ≠ "") :
    (importsOf base options).nameOf name = base.name.simpleName ↔ name = base.name := by
  have own : (importsOf base options).nameOf base.name = base.name.simpleName := by
    rw [nameOf_own, ClassName.relative, ClassName.simpleNames, ClassName.simpleName, topLevel]
    exact String.intercalate_singleton
  rw [← own]
  refine ⟨fun same => ?_, fun same => by rw [same]⟩
  by_contra different
  obtain ⟨_, spelled⟩ := legible.spelled mem
  obtain ⟨_, spelled'⟩ := legible.spelled (List.mem_cons_self : base.name ∈ references base options)
  obtain ⟨-, ⟨unnamed, -⟩ | ⟨unnamed, -⟩⟩ :=
    (Imports.nameOf_eq_iff spelled spelled' different).mp same
  · exact packaged unnamed
  · exact named unnamed

/-- The simple name of a top-level base class is imported for no class. -/
theorem outermost_ne_own_of_mem_targets (topLevel : base.name.nested = [])
    (named : base.name.package ≠ "") {target : String}
    (mem : target ∈ (importsOf base options).targets) :
    ∃ outer ∈ (importsOf base options).candidates,
      target = outer.qualified ∧ outer.outermost ≠ base.name.simpleName := by
  obtain ⟨outer, candidate, short, needed, rfl⟩ := Imports.mem_targets_iff.mp mem
  refine ⟨outer, candidate, rfl, fun same => ?_⟩
  have package := Imports.package_eq_of_isShort short (isShort_own named)
    (same.trans (by rw [ClassName.simpleName, topLevel]; rfl))
  rw [Imports.needsImport, Bool.and_eq_true, bne_iff_ne] at needed
  exact needed.1 package

/-- **Which names of a source are ambiguous.**  Different classes are written alike just if one of
them is of the unnamed package and shares the simple names of the other; the simple name of a
top-level base class of a named package is that of no other class of a named package, and imported
for none; and different types, in which no class is written like a keyword, are written alike only if
different classes are. -/
theorem names_apart (base : BaseClass) (options : Options) (legible : Legible base) :
    (∀ name ∈ references base options, ∀ other ∈ references base options, name ≠ other →
      ((importsOf base options).nameOf name = (importsOf base options).nameOf other ↔
        (importsOf base options).Share name other)) ∧
    (base.name.nested = [] → base.name.package ≠ "" →
      (∀ name ∈ references base options, name.package ≠ "" →
        ((importsOf base options).nameOf name = base.name.simpleName ↔ name = base.name)) ∧
      ∀ target ∈ (importsOf base options).targets, ∃ outer ∈ (importsOf base options).candidates,
        target = outer.qualified ∧ outer.outermost ≠ base.name.simpleName) ∧
    ∀ (first second : TypeName) (text text' : String), TypeName.ofText? text = some first →
      TypeName.ofText? text' = some second →
      (∀ name ∈ first.classes ++ second.classes,
        Imports.isTypeKeyword ((importsOf base options).nameOf name) = false) →
      first ≠ second →
      (importsOf base options).typeText first = (importsOf base options).typeText second →
      ∃ name ∈ first.classes, ∃ other ∈ second.classes, name ≠ other ∧
        (importsOf base options).nameOf name = (importsOf base options).nameOf other := by
  refine ⟨?_, fun topLevel named => ⟨?_, ?_⟩, ?_⟩
  · intro name mem other mem' different
    obtain ⟨_, spelled⟩ := legible.spelled mem
    obtain ⟨_, spelled'⟩ := legible.spelled mem'
    exact Imports.nameOf_eq_iff spelled spelled' different
  · exact fun name mem packaged => legible.nameOf_eq_own_iff topLevel named mem packaged
  · exact fun target mem => outermost_ne_own_of_mem_targets topLevel named mem
  · intro first second text text' read read' free different same
    exact Imports.exists_of_typeText_eq (TypeName.readable_of_ofText? read)
      (TypeName.readable_of_ofText? read') free different same

section Homonyms

/-- A base class `AutoDelegate_C` of some package that extends `foo.AutoDelegate_C`. -/
def homonym (package : String) : BaseClass where
  name := ⟨package, "AutoDelegate_C", []⟩
  superclass := ⟨"foo", "AutoDelegate_C", []⟩
  interfaces := []
  fields := []
  constructors := [⟨[], false, [], [], []⟩]
  methods := []

/-- In a named package, the two classes and their arrays are told apart. -/
theorem homonym_apart :
    (importsOf (homonym "bar") .standard).nameOf (homonym "bar").superclass ≠
        (homonym "bar").name.simpleName ∧
      (importsOf (homonym "bar") .standard).typeText (.array (.plain (homonym "bar").superclass)) ≠
        (importsOf (homonym "bar") .standard).typeText (.array (.plain (homonym "bar").name)) := by
  have legible : Legible (homonym "bar") := legible_of_qualified (by decide +kernel)
  obtain ⟨classes, own, types⟩ := names_apart (homonym "bar") .standard legible
  constructor
  · rw [Ne, (own rfl (by decide)).1 (homonym "bar").superclass (by decide) (by decide)]
    decide
  · intro same
    obtain ⟨name, mem, other, mem', different, alike⟩ := types _ _ "foo.AutoDelegate_C[]"
      "bar.AutoDelegate_C[]" (by decide +kernel) (by decide +kernel) (by decide +kernel)
      (by decide) same
    rw [List.mem_singleton.mp mem, List.mem_singleton.mp mem', classes _ (by decide) _ (by decide)
      (by decide)] at alike
    exact alike.2.elim (fun unnamed => absurd unnamed.1 (by decide)) fun unnamed =>
      absurd unnamed.1 (by decide)

/-- In the unnamed package, both are written by the simple name of the class that is generated, which
is imported from `foo`. -/
theorem not_names_apart_unnamed :
    Legible (homonym "") ∧ (homonym "").superclass ∈ references (homonym "") .standard ∧
      (homonym "").superclass ≠ (homonym "").name ∧
      (importsOf (homonym "") .standard).nameOf (homonym "").superclass =
        (homonym "").name.simpleName ∧
      "foo.AutoDelegate_C" ∈ (importsOf (homonym "") .standard).targets := by
  exact ⟨legible_of_qualified (by decide +kernel), by decide, by decide, by decide +kernel,
    by decide +kernel⟩

/-- A base class with a method for a class `foo.int` and a method for integers. -/
def keywordClass : BaseClass where
  name := ⟨"bar", "AutoDelegate_C", []⟩
  superclass := .object
  interfaces := [⟨"foo", "I", []⟩]
  fields := [⟨"i", ⟨"foo", "I", []⟩⟩]
  constructors := [⟨[], false, [], [], []⟩]
  methods := [⟨"m", .void, [⟨"a", .plain ⟨"foo", "int", []⟩⟩], false, [], "i"⟩,
    ⟨"n", .void, [⟨"a", .primitive .int⟩], false, [], "i"⟩]

/-- The types of both are written with the keyword, as the class is imported. -/
theorem not_names_apart_keyword :
    Legible keywordClass ∧
      keywordClass.methods.map (·.parameters.map (·.type)) =
        [[.plain ⟨"foo", "int", []⟩], [.primitive .int]] ∧
      TypeName.ofText? "foo.int" = some (.plain ⟨"foo", "int", []⟩) ∧
      TypeName.ofText? "int" = some (.primitive .int) ∧
      (importsOf keywordClass .standard).typeText (.plain ⟨"foo", "int", []⟩) =
        (importsOf keywordClass .standard).typeText (.primitive .int) := by
  refine ⟨legible_of_qualified (by decide +kernel), rfl, by decide +kernel, by decide +kernel, ?_⟩
  decide +kernel

end Homonyms

end Source

end Delegation
