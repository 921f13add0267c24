import Delegation.Proofs.Keyed
import Delegation.Proofs.Source.Imports
import Delegation.Proofs.Source.Template

/-!
# The rule of imports

Behind its imports, a source names a class of a named package by its simple names if its outermost
class is in the package of the source, or if no other outermost class of a named package that the
source refers to has the same simple name; else by its qualified name.  What is named by its simple
names, and is neither of the package of the source nor of the core package, is imported.

That much depends on the set of outermost classes only.  They can also be told apart by grouping them
by their simple names: each group has a winner at most, and the winners are the same in whatever order
the groups are looked at.

## Main Definitions

* `Undisputed` — no other outermost class has the simple name of a class.
* `ImportRule` — how classes are written in a source, and what is imported.
* `Imports.group`, `Imports.winner?`, `Imports.winners` — the same decisions, by groups.

## Main Statements

* `Imports.isShort_congr` — which classes are written short depends on a set.
* `Imports.mem_winners_iff` — the winners are the classes that are written short.
* `source_follows_import_rule` — the source of a base class follows the rule.
-/

namespace Delegation

open Java

namespace Java.ClassName

/-- The qualified name of a class of a named package is longer than its simple names. -/
theorem relative_ne_qualified {name : ClassName} (named : name.package ≠ "") :
    name.relative ≠ name.qualified := by
  rw [qualified, if_neg (by simpa using named)]
  intro same
  have lengths := congrArg String.length same
  rw [String.length_append, String.length_append] at lengths
  have dot : ".".length = 1 := rfl
  omega

/-- The outermost class is spelled like the class, as far as it goes. -/
theorem Spelled.topLevel {name : ClassName} {package : List String} (spelled : name.Spelled package) :
    name.topLevel.Spelled package where
  proper segment mem := by
    refine spelled.proper segment (List.mem_append.mpr ((List.mem_append.mp mem).imp_right ?_))
    intro outermost
    rw [List.mem_singleton.mp outermost]
    exact List.mem_cons_self
  joined := spelled.joined
  split := by
    rcases spelled.isClassSegment_or with upper | single
    · exact splitChain_append_cons [] spelled.lower upper
    · have split := spelled.split
      rwa [simpleNames, single] at split

end Java.ClassName

namespace Source

namespace Imports

variable {imports first second : Imports} {name outer : ClassName} {source : String}
  {classes : List ClassName}

/-! ## Names in a source -/

theorem nameOf_eq_relative_iff (named : name.package ≠ "") :
    imports.nameOf name = name.relative ↔ imports.isShort name.topLevel = true := by
  rw [nameOf, String.isEmpty_eq_false_iff.mpr named, Bool.false_or]
  split <;> rename_i short
  · exact iff_of_true rfl short
  · exact iff_of_false (ClassName.relative_ne_qualified named).symm short

theorem nameOf_eq_qualified_iff (named : name.package ≠ "") :
    imports.nameOf name = name.qualified ↔ ¬imports.isShort name.topLevel = true := by
  rw [nameOf, String.isEmpty_eq_false_iff.mpr named, Bool.false_or]
  split <;> rename_i short
  · exact iff_of_false (ClassName.relative_ne_qualified named) (not_not.mpr short)
  · exact iff_of_true rfl short

/-- The imports are sorted, and there are no two of the same. -/
theorem pairwise_targets (imports : Imports) : imports.targets.Pairwise (· < ·) := by
  refine List.Pairwise.imp ?_ Std.TreeSet.ordered_toList
  intro first second less
  exact compareOfLessAndEq_eq_lt.mp less

/-! ## What the names depend on -/

/-- Which classes are written short depends on a set of classes only. -/
theorem isShort_congr (package : first.package = second.package)
    (candidates : ∀ outer, outer ∈ first.candidates ↔ outer ∈ second.candidates)
    (outer : ClassName) : first.isShort outer = second.isShort outer := by
  rw [Bool.eq_iff_iff, isShort_iff, isShort_iff, package]
  simp only [candidates]

/-- So do all names and what is imported. -/
theorem alike_of_candidates (package : first.package = second.package)
    (candidates : ∀ outer, outer ∈ first.candidates ↔ outer ∈ second.candidates) :
    first.nameOf = second.nameOf ∧ first.targets = second.targets := by
  have short := isShort_congr package candidates
  constructor
  · funext name
    rw [nameOf, nameOf, short]
  · simp only [targets, short, needsImport, package, toList_eq_of_mem_iff candidates]

/-- The classes that compete are the outermost ones of named packages. -/
theorem mem_candidates_iff_mem_map : outer ∈ (ofReferences source classes).candidates ↔
    outer ∈ classes.map ClassName.topLevel ∧ outer.package ≠ "" := by
  rw [mem_candidates_iff, List.mem_map]
  constructor
  · rintro ⟨name, mem, named, rfl⟩
    exact ⟨⟨name, mem, rfl⟩, named⟩
  · rintro ⟨⟨name, mem, rfl⟩, named⟩
    exact ⟨name, mem, named, rfl⟩

/-- Classes that compete are told apart by their packages and their simple names. -/
theorem eq_of_mem_candidates {other : ClassName}
    (mem : outer ∈ (ofReferences source classes).candidates)
    (mem' : other ∈ (ofReferences source classes).candidates)
    (packages : outer.package = other.package) (names : outer.outermost = other.outermost) :
    outer = other := by
  obtain ⟨name, -, -, rfl⟩ := mem_candidates_iff.mp mem
  obtain ⟨name', -, -, rfl⟩ := mem_candidates_iff.mp mem'
  exact ClassName.ext_simpleNames packages (congrArg (· :: []) names)

/-! ## Groups -/

/-- The outermost classes of named packages with a simple name, in the order of their first mention. -/
def group (classes : List ClassName) (simple : String) : List ClassName :=
  (((classes.filter (!·.package.isEmpty)).map ClassName.topLevel).filter
    (·.outermost == simple)).eraseDups

/-- Who has the simple name of a group: the only class, or else the one of the source's package. -/
def winner? (package : String) : List ClassName → Option ClassName
  | [only] => some only
  | group => group.find? (·.package == package)

/-- The winners of the groups of some simple names. -/
def winners (package : String) (classes : List ClassName) (simples : List String) :
    List ClassName :=
  simples.filterMap fun simple => winner? package (group classes simple)

theorem mem_group_iff (source : String) {simple : String} : outer ∈ group classes simple ↔
    outer ∈ (ofReferences source classes).candidates ∧ outer.outermost = simple := by
  simp [group, mem_candidates_iff, and_assoc]

/-- The winner of a group whose classes have different packages. -/
theorem winner?_eq_some {group : List ClassName} (nodup : group.Nodup)
    (apart : ∀ a ∈ group, ∀ b ∈ group, a.package = b.package → a = b) :
    winner? source group = some outer ↔
      outer ∈ group ∧ (outer.package = source ∨ ∀ rival ∈ group, rival = outer) := by
  match group with
  | [] => exact iff_of_false nofun fun both => List.not_mem_nil both.1
  | [only] =>
      rw [winner?, Option.some_inj, List.mem_singleton, List.forall_mem_singleton]
      exact ⟨fun same => ⟨same.symm, .inr same⟩, fun both => both.1.symm⟩
  | a :: b :: rest =>
      have rivals : ¬∀ rival ∈ a :: b :: rest, rival = outer := by
        intro all
        have same : a = b := (all a (by simp)).trans (all b (by simp)).symm
        exact (List.nodup_cons.mp nodup).1 (same ▸ List.mem_cons_self)
      rw [or_iff_left rivals]
      show List.find? _ _ = some outer ↔ _
      constructor
      · intro found
        exact ⟨List.mem_of_find?_eq_some found, by simpa using List.find?_some found⟩
      · rintro ⟨mem, own⟩
        cases found : List.find? (·.package == source) (a :: b :: rest) with
        | none => exact absurd (List.find?_eq_none.mp found outer mem) (by simpa using own)
        | some other =>
            have own' : other.package = source := by simpa using List.find?_some found
            rw [apart other (List.mem_of_find?_eq_some found) outer mem (own'.trans own.symm)]

/-- The winner of a group is the class of it that is written short. -/
theorem winner?_eq_some_iff {simple : String} :
    winner? source (group classes simple) = some outer ↔
      outer.outermost = simple ∧ (ofReferences source classes).isShort outer = true := by
  have apart : ∀ a ∈ group classes simple, ∀ b ∈ group classes simple,
      a.package = b.package → a = b := by
    intro a mem b mem' packages
    obtain ⟨candidate, first⟩ := (mem_group_iff source).mp mem
    obtain ⟨candidate', second⟩ := (mem_group_iff source).mp mem'
    exact eq_of_mem_candidates candidate candidate' packages (first.trans second.symm)
  have nodup : (group classes simple).Nodup := nodup_eraseDups _
  rw [winner?_eq_some nodup apart, isShort_iff, mem_group_iff source]
  constructor
  · rintro ⟨⟨candidate, rfl⟩, won⟩
    refine ⟨rfl, candidate, won.imp_right fun alone rival mem same => alone rival ?_⟩
    exact (mem_group_iff source).mpr ⟨mem, same⟩
  · rintro ⟨rfl, candidate, won⟩
    refine ⟨⟨candidate, rfl⟩, won.imp_right fun alone rival mem => ?_⟩
    obtain ⟨mem, same⟩ := (mem_group_iff source).mp mem
    exact alone rival mem same

/-- **The winners are the classes that are written short**, whatever the order of the groups. -/
theorem mem_winners_iff {simples : List String}
    (all : ∀ name ∈ classes, name.package ≠ "" → name.outermost ∈ simples) :
    outer ∈ winners source classes simples ↔ (ofReferences source classes).isShort outer = true := by
  simp only [winners, List.mem_filterMap, winner?_eq_some_iff]
  constructor
  · rintro ⟨simple, -, -, short⟩
    exact short
  · intro short
    obtain ⟨name, mem, named, rfl⟩ := mem_candidates_iff.mp (isShort_iff.mp short).1
    exact ⟨name.outermost, all name mem named, rfl, short⟩

/-- The winners give the imports, whatever the order of the groups. -/
theorem toList_winners {simples : List String}
    (all : ∀ name ∈ classes, name.package ≠ "" → name.outermost ∈ simples) :
    (Std.TreeSet.ofList (((winners source classes simples).filter
      (ofReferences source classes).needsImport).map ClassName.qualified) :
        Std.TreeSet String).toList = (ofReferences source classes).targets := by
  refine toList_eq_of_mem_iff fun target => ?_
  simp only [Std.TreeSet.mem_ofList, List.contains_iff_mem, List.mem_map, List.mem_filter,
    mem_winners_iff all, Std.TreeSet.mem_toList, Bool.and_eq_true]
  refine exists_congr fun outer => and_congr_left fun _ => ?_
  exact ⟨fun ⟨short, needed⟩ => ⟨(isShort_iff.mp short).1, short, needed⟩, And.right⟩

end Imports

/-! ## The source of a base class -/

/-- No other outermost class of a named package among some classes has the same simple name. -/
def Undisputed (classes : List ClassName) (name : ClassName) : Prop :=
  ∀ other ∈ classes, other.package ≠ "" → other.outermost = name.outermost →
    other.topLevel = name.topLevel

instance (classes : List ClassName) (name : ClassName) : Decidable (Undisputed classes name) :=
  inferInstanceAs (Decidable (∀ other ∈ classes, other.package ≠ "" →
    other.outermost = name.outermost → other.topLevel = name.topLevel))

/-- How classes are written in the source of a base class, and what is imported. -/
structure ImportRule (base : BaseClass) (options : Options) (imports : Imports) : Prop where
  /-- The source is its package, its imports and the rest. -/
  source : (render base options).source =
    unlines (paragraph (packageLines base.name.package) ++
      paragraph (imports.targets.map fun target => "import " ++ target ++ ";")) ++
    unlines (bodyLines imports base options)
  /-- The rest names the classes mentioned, wherever they stand. -/
  places : Places (fun imports => unlines (bodyLines imports base options)) (mentioned base options)
  /-- The base class is called by its simple names.  It is declared by the last of them, which is all
  of them if it is not nested. -/
  own : imports.nameOf base.name = base.name.relative ∧
    (base.name.nested = [] → base.name.simpleName = base.name.relative)
  /-- A class with a claim to its simple name is written without its package. -/
  short : ∀ name ∈ mentioned base options, name.package ≠ "" →
    (name.package = base.name.package ∨ Undisputed (references base options) name) →
    imports.nameOf name = name.relative
  /-- Any other class of a named package is written with its package. -/
  full : ∀ name ∈ mentioned base options, name.package ≠ "" →
    ¬(name.package = base.name.package ∨ Undisputed (references base options) name) →
    imports.nameOf name = name.package ++ "." ++ name.relative
  /-- The imports are sorted, and there are no two of the same. -/
  sorted : imports.targets.Pairwise (· < ·)
  /-- Imported are the outermost classes of those written short, unless they are found without, and
  no two of them have the same simple name. -/
  imported : ∃ outers : List ClassName, imports.targets = outers.map ClassName.qualified ∧
    outers.Pairwise (·.outermost ≠ ·.outermost) ∧
    ∀ outer, outer ∈ outers ↔ ∃ name ∈ mentioned base options, name.package ≠ "" ∧
      imports.nameOf name = name.relative ∧ name.topLevel = outer ∧
      outer.package ≠ base.name.package ∧ outer.package ≠ "java.lang"

variable {base : BaseClass} {options : Options} {name outer : ClassName}

/-- What is mentioned is referred to. -/
theorem mem_references_of_mem_mentioned (mem : name ∈ mentioned base options) :
    name ∈ references base options := by
  rw [mentioned, List.mem_append] at mem
  refine List.mem_cons_of_mem _ (List.mem_append.mpr (mem.symm.imp_left fun inClass => ?_))
  split at inClass
  · exact List.mem_of_mem_tail inClass
  · exact inClass

/-- What is referred to is the base class, the superclass that is not mentioned, or mentioned. -/
theorem mem_references_cases (mem : name ∈ references base options) :
    name = base.name ∨ name.qualified = ClassName.object.qualified ∨
      name ∈ mentioned base options := by
  rw [mentioned, List.mem_append]
  rcases List.mem_cons.mp mem with own | others
  · exact .inl own
  · rcases List.mem_append.mp others with inClass | marker
    · split <;> rename_i root
      · rcases List.mem_cons.mp inClass with rfl | later
        · exact .inr (.inl root)
        · exact .inr (.inr (.inr later))
      · exact .inr (.inr (.inr inClass))
    · exact .inr (.inr (.inl marker))

/-- A class that is referred to is written short if it has a claim to its simple name. -/
theorem isShort_topLevel_iff (mem : name ∈ references base options) (named : name.package ≠ "") :
    (importsOf base options).isShort name.topLevel = true ↔
      name.package = base.name.package ∨ Undisputed (references base options) name := by
  rw [Imports.isShort_iff]
  have candidate : name.topLevel ∈ (importsOf base options).candidates :=
    Imports.mem_candidates_iff.mpr ⟨name, mem, named, rfl⟩
  refine (and_iff_right candidate).trans (or_congr_right ?_)
  constructor
  · intro alone other mem' named' same
    exact alone other.topLevel (Imports.mem_candidates_iff.mpr ⟨other, mem', named', rfl⟩) same
  · rintro alone _ candidate' same
    obtain ⟨other, mem', named', rfl⟩ := Imports.mem_candidates_iff.mp candidate'
    exact alone other mem' named' same

/-- Only the root class has the name of the root class. -/
theorem Legible.eq_object (legible : Legible base) (mem : name ∈ references base options)
    (root : name.qualified = ClassName.object.qualified) : name = ClassName.object := by
  obtain ⟨text, read⟩ := legible.exists_ofDotted? mem
  have back := ClassName.ofDotted?_qualified read
  have object : ClassName.ofDotted? ClassName.object.qualified = some .object := by decide +kernel
  rw [root, object] at back
  exact (Option.some.inj back).symm

/-- A class that is imported. -/
def Imported (imports : Imports) (outer : ClassName) : Prop :=
  outer ∈ imports.candidates ∧ imports.isShort outer = true ∧ imports.needsImport outer = true

/-- What is imported are the outermost classes of those mentioned and written short, unless they are
found without. -/
theorem Legible.imported_iff (legible : Legible base) :
    Imported (importsOf base options) outer ↔
    ∃ name ∈ mentioned base options, name.package ≠ "" ∧
      (importsOf base options).nameOf name = name.relative ∧ name.topLevel = outer ∧
      outer.package ≠ base.name.package ∧ outer.package ≠ "java.lang" := by
  have needed : (importsOf base options).needsImport outer = true ↔
      outer.package ≠ base.name.package ∧ outer.package ≠ "java.lang" := by
    rw [Imports.needsImport, Bool.and_eq_true, bne_iff_ne, bne_iff_ne]
    rfl
  rw [Imported, needed]
  constructor
  · rintro ⟨candidate, short, foreign, notCore⟩
    obtain ⟨name, mem, named, rfl⟩ := Imports.mem_candidates_iff.mp candidate
    have written := (Imports.nameOf_eq_relative_iff named).mpr short
    rcases mem_references_cases mem with own | root | mentions
    · exact absurd (congrArg ClassName.package own) foreign
    · exact absurd (congrArg ClassName.package (legible.eq_object mem root)) notCore
    · exact ⟨name, mentions, named, written, rfl, foreign, notCore⟩
  · rintro ⟨name, mentions, named, written, rfl, apart⟩
    have mem := mem_references_of_mem_mentioned mentions
    exact ⟨Imports.mem_candidates_iff.mpr ⟨name, mem, named, rfl⟩,
      (Imports.nameOf_eq_relative_iff named).mp written, apart⟩

/-- Classes that are imported differ in their qualified names. -/
theorem Legible.qualified_inj (legible : Legible base) {other : ClassName}
    (imported : Imported (importsOf base options) outer)
    (imported' : Imported (importsOf base options) other)
    (same : outer.qualified = other.qualified) : outer = other := by
  obtain ⟨name, mem, -, rfl⟩ := Imports.mem_candidates_iff.mp imported.1
  obtain ⟨name', mem', -, rfl⟩ := Imports.mem_candidates_iff.mp imported'.1
  obtain ⟨package, spelled⟩ := legible.spelled mem
  obtain ⟨package', spelled'⟩ := legible.spelled mem'
  exact spelled.topLevel.eq_of_qualified_eq spelled'.topLevel same

/-- Classes that are imported differ in their simple names. -/
theorem Imported.outermost_ne {other : ClassName}
    (imported : Imported (importsOf base options) outer)
    (imported' : Imported (importsOf base options) other) (different : outer ≠ other) :
    outer.outermost ≠ other.outermost := by
  intro same
  have packages := Imports.package_eq_of_isShort imported.2.1 imported'.2.1 same
  exact different (Imports.eq_of_mem_candidates imported.1 imported'.1 packages same)

/-- The imports are the qualified names of the classes that are imported, each of them once. -/
theorem Legible.exists_outers (legible : Legible base) (options : Options) :
    ∃ outers : List ClassName,
      (importsOf base options).targets = outers.map ClassName.qualified ∧
      outers.Pairwise (·.outermost ≠ ·.outermost) ∧
      ∀ outer, outer ∈ outers ↔ Imported (importsOf base options) outer := by
  have each : ∀ target ∈ (importsOf base options).targets,
      ∃ outer, Imported (importsOf base options) outer ∧ outer.qualified = target := by
    intro target mem
    obtain ⟨outer, candidate, short, needed, same⟩ := Imports.mem_targets_iff.mp mem
    exact ⟨outer, ⟨candidate, short, needed⟩, same⟩
  obtain ⟨outers, same, imported⟩ := exists_map_eq each
  refine ⟨outers, same, ?_, fun outer => ⟨imported outer, fun isImported => ?_⟩⟩
  · have nodup : outers.Nodup := by
      refine List.Nodup.of_map ClassName.qualified ?_
      rw [← same]
      refine (Imports.pairwise_targets _).imp fun {first second} less same => ?_
      exact String.lt_irrefl first (same ▸ less)
    exact nodup.pairwise_of_forall_ne fun a mem b mem' =>
      (imported a mem).outermost_ne (imported b mem')
  · have target := Imports.mem_targets_iff.mpr ⟨outer, isImported.1, isImported.2.1,
      isImported.2.2, rfl⟩
    rw [same, List.mem_map] at target
    obtain ⟨other, mem, names⟩ := target
    rwa [← legible.qualified_inj (imported other mem) isImported names]

/-- The source of a base class follows the rule. -/
theorem Legible.importRule (legible : Legible base) :
    ImportRule base options (importsOf base options) where
  source := by
    rw [← unlines_append, bodyLines, ← List.append_assoc]
    rfl
  places := (places_bodyLines base options).unlines
  own := by
    refine ⟨nameOf_own, fun topLevel => ?_⟩
    rw [ClassName.relative, ClassName.simpleNames, ClassName.simpleName, topLevel]
    exact String.intercalate_singleton.symm
  short name mentions named claim := by
    have mem := mem_references_of_mem_mentioned mentions
    exact (Imports.nameOf_eq_relative_iff named).mpr ((isShort_topLevel_iff mem named).mpr claim)
  full name mentions named noClaim := by
    have mem := mem_references_of_mem_mentioned mentions
    have written := (Imports.nameOf_eq_qualified_iff named).mpr
      (mt (isShort_topLevel_iff mem named).mp noClaim)
    rw [written, ClassName.qualified, if_neg (by simpa using named)]
  sorted := Imports.pairwise_targets _
  imported := by
    obtain ⟨outers, same, distinct, imported⟩ := legible.exists_outers options
    exact ⟨outers, same, distinct, fun outer => (imported outer).trans legible.imported_iff⟩

/-- **The source of a base class follows the rule.**  What it is depends on the set of outermost
classes that the source refers to: any classes with the same outermost ones are written in the same
way and give the same imports, and so do the winners of their groups in any order. -/
theorem source_follows_import_rule (base : BaseClass) (options : Options) (legible : Legible base) :
    ImportRule base options (importsOf base options) ∧
    (∀ classes : List ClassName,
      (∀ outer, outer ∈ classes.map ClassName.topLevel ↔
        outer ∈ (references base options).map ClassName.topLevel) →
      (Imports.ofReferences base.name.package classes).nameOf = (importsOf base options).nameOf ∧
        (Imports.ofReferences base.name.package classes).targets =
          (importsOf base options).targets) ∧
    ∀ simples : List String,
      (∀ name ∈ references base options, name.package ≠ "" → name.outermost ∈ simples) →
      (∀ outer, outer ∈ Imports.winners base.name.package (references base options) simples ↔
        (importsOf base options).isShort outer = true) ∧
      (Std.TreeSet.ofList (((Imports.winners base.name.package (references base options)
        simples).filter (importsOf base options).needsImport).map ClassName.qualified) :
          Std.TreeSet String).toList = (importsOf base options).targets := by
  refine ⟨legible.importRule, fun classes same => ?_, fun simples all => ⟨fun outer => ?_, ?_⟩⟩
  · refine Imports.alike_of_candidates rfl fun outer => ?_
    rw [Imports.mem_candidates_iff_mem_map, same, importsOf, Imports.mem_candidates_iff_mem_map]
  · exact Imports.mem_winners_iff all
  · exact Imports.toList_winners all

section Rivals

/-- A base class of the package `foo` that mentions two classes called `List`, and a nested class. -/
def rivals : BaseClass where
  name := ⟨"foo", "AutoDelegate_C", []⟩
  superclass := ClassName.object
  interfaces := [⟨"java.util", "List", []⟩, ⟨"java.awt", "List", []⟩, ⟨"java.util", "Map", ["Entry"]⟩]
  fields := []
  constructors := []
  methods := []

/-- None of the two is called `List`, and the nested class is called by its simple names. -/
theorem source_follows_import_rule_rivals :
    Legible rivals ∧
      (importsOf rivals .standard).nameOf ⟨"java.util", "List", []⟩ = "java.util.List" ∧
      (importsOf rivals .standard).nameOf ⟨"java.util", "Map", ["Entry"]⟩ = "Map.Entry" ∧
      ⟨"java.util", "Map", []⟩ ∈ Imports.winners "foo" (references rivals .standard)
        ["Map", "Generated", "List", "Object", "AutoDelegate_C"] := by
  have legible : Legible rivals := by
    refine List.forall_mem_cons.mpr ⟨⟨"foo.AutoDelegate_C", by decide +kernel⟩, ?_⟩
    refine List.forall_mem_cons.mpr ⟨⟨"java.lang.Object", by decide +kernel⟩, ?_⟩
    refine List.forall_mem_cons.mpr ⟨⟨"java.util.List", by decide +kernel⟩, ?_⟩
    refine List.forall_mem_cons.mpr ⟨⟨"java.awt.List", by decide +kernel⟩, ?_⟩
    exact List.forall_mem_singleton.mpr ⟨"java.util.Map.Entry", by decide +kernel⟩
  obtain ⟨rule, -, groups⟩ := source_follows_import_rule rivals .standard legible
  refine ⟨legible, ?_, ?_, ?_⟩
  · exact rule.full ⟨"java.util", "List", []⟩ (by decide) (by decide) (by decide)
  · exact rule.short ⟨"java.util", "Map", ["Entry"]⟩ (by decide) (by decide) (.inr (by decide))
  · exact ((groups _ (by decide)).1 _).mpr (by decide +kernel)

end Rivals

end Source

end Delegation
