import Delegation.Java.TypeName.Token
import Delegation.Proofs.Java.ClassName
import Mathlib.Data.List.SplitBy

/-!
# Writing generated names

A class extends its base class by the name of that, and another class can ask for the same base class.
The name of a base class is the package of its class and the chain of simple names, joined into one.
So its qualified name starts and ends without white space if that of the class does; written down, it
reads as the base class again.

## Main Definitions

* `ClassName.Readable` — the classes that texts read as.

## Main Statements

* `ClassName.readable_iff` — they are those that their qualified names read as.
* `ClassName.Readable.generated` — the base class of such a class is one as well.
* `ClassName.Readable.eq_of_qualified_eq` — no two of them have the same qualified name.
-/

namespace Delegation.Java

open Text

/-! ## Words -/

/-- No character of a word is white space. -/
theorem isBlank_eq_false_of_isWordPart {c : Char} (part : isWordPart c = true) :
    isBlank c = false := by
  have apart : ∀ range ∈ blankRanges, ∀ code ∈ List.range' range.1 (range.2 + 1 - range.1),
      isWordPart (Char.ofNat code) = false := by decide +kernel
  by_contra blank
  rw [Bool.not_eq_false, isBlank, Ranges.contains_iff] at blank
  obtain ⟨range, mem, least, most⟩ := blank
  have other := apart range mem c.toNat (List.mem_range'_1.mpr ⟨least, by omega⟩)
  rw [Char.ofNat_toNat, part] at other
  cases other

/-- An identifier consists of characters of a name. -/
theorem isNamePart_of_isIdentifier {name : String} (identifier : isIdentifier name = true) :
    ∀ c ∈ name.toList, isNamePart c = true := by
  rw [isIdentifier, Bool.and_eq_true] at identifier
  obtain ⟨first, rest, same, start, parts⟩ := isNameShape_eq_true_iff.mp identifier.1
  rw [same]
  exact List.forall_mem_cons.mpr ⟨isNamePart_of_isNameStart start, parts⟩

/-- An identifier consists of characters of a word. -/
theorem isWordPart_of_isIdentifier {name : String} (identifier : isIdentifier name = true) :
    ∀ c ∈ name.toList, isWordPart c = true := by
  intro c mem
  rw [isWordPart, isNamePart_of_isIdentifier identifier c mem, Bool.true_or]

/-- A word has no white space at its ends. -/
theorem trim_of_isWordPart {word : List Char} (parts : ∀ c ∈ word, isWordPart c = true) :
    trim word = word :=
  trim_eq_self_iff.mpr
    ⟨fun c first => isBlank_eq_false_of_isWordPart (parts c (List.mem_of_mem_head? first)),
      fun c last => isBlank_eq_false_of_isWordPart (parts c (List.mem_of_mem_getLast? last))⟩

/-- A word is one token. -/
theorem Token.scan_word {word : String} (nonempty : word ≠ "")
    (parts : ∀ c ∈ word.toList, isWordPart c = true) : scan word.toList = [.word word] := by
  have full : word.toList ≠ [] := by simpa using nonempty
  have chain : word.toList.IsChain fun c d => isWordPart c && isWordPart d := by
    refine List.Pairwise.isChain (List.pairwise_of_forall_mem_list fun c first d second => ?_)
    rw [parts c first, parts d second]
    rfl
  have run : ofRun? word.toList = some (.word word) := by
    cases same : word.toList with
    | nil => exact absurd same full
    | cons first rest =>
        rw [ofRun?, if_pos (parts first (same ▸ List.mem_cons_self)), ← same, String.ofList_toList]
  rw [scan, runs, List.splitBy_of_isChain full chain, List.filterMap_cons, run]
  rfl

/-! ## Joined texts -/

/-- What is in a part is in the joined parts. -/
theorem subset_intercalate {α : Type} (separator : List α) {parts : List (List α)} {part : List α}
    (listed : part ∈ parts) : part ⊆ separator.intercalate parts := by
  induction parts with
  | nil => cases listed
  | cons first rest ih =>
      cases rest with
      | nil =>
          rw [List.intercalate_singleton, List.mem_singleton.mp listed]
          exact List.Subset.refl first
      | cons second others =>
          rw [List.intercalate_cons_cons]
          rcases List.mem_cons.mp listed with rfl | later
          · exact fun a mem => List.mem_append_left _ (List.mem_append_left _ mem)
          · exact fun a mem => List.mem_append_right _ (ih later mem)

/-- What all parts of a text have, and what is between them as well, the text has throughout. -/
theorem forall_mem_intercalate (separator : String) {parts : List String} {holds : Char → Prop}
    (between : ∀ c ∈ separator.toList, holds c)
    (all : ∀ part ∈ parts, ∀ c ∈ part.toList, holds c) :
    ∀ c ∈ (separator.intercalate parts).toList, holds c := by
  rw [String.toList_intercalate]
  induction parts with
  | nil => nofun
  | cons first rest ih =>
      obtain ⟨head, tail⟩ := List.forall_mem_cons.mp all
      cases rest with
      | nil =>
          rw [List.map_cons, List.map_nil, List.intercalate_singleton]
          exact head
      | cons second others =>
          rw [List.map_cons, List.map_cons, List.intercalate_cons_of_ne_nil (List.cons_ne_nil _ _)]
          exact List.forall_mem_append.mpr ⟨List.forall_mem_append.mpr ⟨head, between⟩, ih tail⟩

/-- What every segment of a dotted text has, and a dot as well, the text has throughout. -/
theorem forall_mem_dotted {segments : List String} {holds : Char → Prop} (dot : holds '.')
    (all : ∀ segment ∈ segments, ∀ c ∈ segment.toList, holds c) :
    ∀ c ∈ (dotted segments).toList, holds c :=
  forall_mem_intercalate "." (List.forall_mem_singleton.mpr dot) all

/-- A joined text ends like the last of its parts, whatever separates them. -/
theorem getLast?_intercalate (separator : String) (before : List String) {last : String}
    (nonempty : last ≠ "") :
    (separator.intercalate (before ++ [last])).toList.getLast? = last.toList.getLast? := by
  have full : last.toList ≠ [] := by simpa using nonempty
  induction before with
  | nil => rw [List.nil_append, String.intercalate_singleton]
  | cons first rest ih =>
      rw [List.cons_append, String.intercalate_cons_of_ne_nil (by simp), String.toList_append,
        List.getLast?_append, ih, List.getLast?_eq_some_getLast full, Option.some_or]

namespace ClassName

/-! ## Generated names -/

theorem simpleNames_generated (type : ClassName) :
    type.generated.simpleNames = [generatedPrefix ++ "_".intercalate type.simpleNames] := rfl

/-- The qualified name of a base class starts like the prefix or like the name of its class. -/
theorem head?_generated (type : ClassName) :
    type.generated.qualified.toList.head? = some 'A' ∨
      type.generated.qualified.toList.head? = type.qualified.toList.head? := by
  by_cases unnamed : type.package = ""
  · left
    rw [qualified, if_pos (by simpa using unnamed), relative, simpleNames_generated, dotted,
      String.intercalate_singleton, String.toList_append]
    rfl
  · right
    have named : ¬type.package.isEmpty = true := by simpa using unnamed
    have starts (rest : String) :
        (type.package ++ rest).toList.head? = type.package.toList.head? := by
      rw [String.toList_append, List.head?_append_of_ne_nil _ (by simpa using unnamed)]
    rw [qualified, qualified, package_generated, if_neg named, if_neg named, String.append_assoc,
      String.append_assoc, starts, starts]

/-- A qualified name ends like the last of the simple names. -/
theorem getLast?_qualified {name : ClassName} {before : List String} {last : String}
    (chain : name.simpleNames = before ++ [last]) (nonempty : last ≠ "") :
    name.qualified.toList.getLast? = last.toList.getLast? := by
  have ends : name.relative.toList.getLast? = last.toList.getLast? := by
    rw [relative, dotted, chain, getLast?_intercalate "." before nonempty]
  have full : last.toList ≠ [] := by simpa using nonempty
  rw [qualified]
  split
  · exact ends
  · rw [String.toList_append, List.getLast?_append, ends, List.getLast?_eq_some_getLast full,
      Option.some_or]

namespace Spelled

variable {type : ClassName} {package : List String}

/-- The base class of a class that can be written with dots can be written in the same way. -/
theorem generated (spelled : type.Spelled package) : type.generated.Spelled package := by
  have head : (generatedPrefix ++ "_".intercalate type.simpleNames).toList.head? = some 'A' := by
    rw [String.toList_append]
    rfl
  have upper : isClassSegment (generatedPrefix ++ "_".intercalate type.simpleNames) = true := by
    rw [isClassSegment, head]
    decide
  have chain : ∀ simple ∈ type.simpleNames, ∀ c ∈ simple.toList, c ≠ '.' := by
    rintro simple mem c listed rfl
    exact (spelled.proper simple (List.mem_append_right _ mem)).2 listed
  constructor
  · rw [simpleNames_generated]
    refine List.forall_mem_append.mpr
      ⟨fun segment mem => spelled.proper segment (List.mem_append_left _ mem), ?_⟩
    rw [List.forall_mem_singleton, String.toList_append, List.mem_append, not_or]
    refine ⟨fun empty => ?_, by decide, fun dot => ?_⟩
    · rw [empty] at head
      cases head
    · exact forall_mem_intercalate "_" (List.forall_mem_singleton.mpr (by decide)) chain '.' dot rfl
  · rw [simpleNames_generated]
    exact splitChain_append_cons [] spelled.lower upper
  · exact spelled.joined

/-- The qualified name of a base class ends like that of its class. -/
theorem getLast?_generated (spelled : type.Spelled package) :
    type.generated.qualified.toList.getLast? = type.qualified.toList.getLast? := by
  obtain ⟨before, last, chain⟩ := (List.eq_nil_or_concat' type.simpleNames).resolve_left
    type.simpleNames_ne_nil
  have nonempty : last ≠ "" := (spelled.proper last (by simp [chain])).1
  have full : last.toList ≠ [] := by simpa using nonempty
  have joined : (generatedPrefix ++ "_".intercalate type.simpleNames).toList.getLast? =
      last.toList.getLast? := by
    rw [String.toList_append, List.getLast?_append, chain, getLast?_intercalate "_" before nonempty,
      List.getLast?_eq_some_getLast full, Option.some_or]
  have made : generatedPrefix ++ "_".intercalate type.simpleNames ≠ "" :=
    (spelled.generated.proper _ (List.mem_append_right _ List.mem_cons_self)).1
  have single : type.generated.simpleNames =
      [] ++ [generatedPrefix ++ "_".intercalate type.simpleNames] := simpleNames_generated type
  rw [getLast?_qualified single made, joined, getLast?_qualified chain nonempty]

end Spelled

/-! ## Readable names -/

/-- The classes that texts read as. -/
def Readable (name : ClassName) : Prop := ∃ text, ofDotted? text = some name

/-- They are those that their qualified names read as. -/
theorem readable_iff {name : ClassName} : name.Readable ↔ ofDotted? name.qualified = some name :=
  ⟨fun ⟨_, read⟩ => ofDotted?_qualified read, fun read => ⟨_, read⟩⟩

namespace Readable

variable {name other : ClassName}

/-- A class that was read is spelled with segments, and nothing is removed from its name. -/
theorem exists_spelled (readable : name.Readable) :
    ∃ package, name.Spelled package ∧ trim name.qualified.toList = name.qualified.toList := by
  obtain ⟨package, spelled, same⟩ := ofDotted?_eq_some_iff.mp (readable_iff.mp readable)
  exact ⟨package, spelled, by rw [same, spelled.qualified]⟩

/-- **The base class of a class that was read can be read**, from its qualified name. -/
theorem generated (readable : name.Readable) : name.generated.Readable := by
  obtain ⟨package, spelled, trimmed⟩ := readable.exists_spelled
  obtain ⟨start, finish⟩ := trim_eq_self_iff.mp trimmed
  -- Its name starts with the prefix or like that of the class, and ends like that of the class.
  refine ⟨name.generated.qualified, spelled.generated.ofDotted? ?_⟩
  rw [← spelled.generated.qualified, trim_eq_self_iff, spelled.getLast?_generated]
  refine ⟨?_, finish⟩
  rcases name.head?_generated with atPrefix | same
  · rw [atPrefix]
    exact fun c first => Option.some.inj first ▸ by decide
  · rwa [same]

/-- **Classes that were read have different qualified names.** -/
theorem eq_of_qualified_eq (readable : name.Readable) (readable' : other.Readable)
    (same : name.qualified = other.qualified) : name = other := by
  have read := readable_iff.mp readable
  rw [same, readable_iff.mp readable'] at read
  exact (Option.some.inj read).symm

end Readable

end ClassName

end Delegation.Java
