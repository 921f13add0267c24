import Delegation.Java.ClassName
import Mathlib.Data.List.DropRight
import Mathlib.Data.List.TakeWhile

/-!
# Reading class names back

A dotted name is read by cutting it into segments and telling the package from the chain of classes
by the custom of spelling.  Nothing is lost on the way: the qualified name of a class that was read
is the text it was read from, but for the white space around it, and so it reads as the same class.

## Main Definitions

* `ClassName.Spelled` — the segments that a class name consists of.

## Main Statements

* `ClassName.ofDotted?_eq_some_iff` — which texts read as a class.
* `ClassName.ofDotted?_qualified` — the qualified name of a class that was read reads as the class.
-/

namespace Delegation

/-! ## White space at the ends -/

namespace Text

theorem trimEnd_eq_rdropWhile (text : List Char) : trimEnd text = text.rdropWhile isBlank := rfl

/-- Removing the white space at the end of a text that starts without any brings none to the
start. -/
theorem trimStart_trimEnd {text : List Char} (kept : trimStart text = text) :
    trimStart (trimEnd text) = trimEnd text := by
  rw [trimEnd_eq_rdropWhile, trimStart, List.dropWhile_eq_self_iff]
  intro nonempty
  rw [(List.rdropWhile_prefix isBlank text).getElem nonempty]
  exact List.dropWhile_eq_self_iff.mp kept _

/-- White space is removed at once. -/
theorem trim_trim (text : List Char) : trim (trim text) = trim text := by
  have start : trimStart (trimStart text) = trimStart text := List.dropWhile_idempotent ..
  have finish : trimEnd (trimEnd (trimStart text)) = trimEnd (trimStart text) :=
    List.rdropWhile_idempotent ..
  rw [trim, trim, trimStart_trimEnd start, finish]

/-- Nothing is removed from a text that neither starts nor ends with white space. -/
theorem trim_eq_self_iff {text : List Char} :
    trim text = text ↔
      (∀ c ∈ text.head?, isBlank c = false) ∧ ∀ c ∈ text.getLast?, isBlank c = false := by
  have start : trimStart text = text ↔ ∀ c ∈ text.head?, isBlank c = false := by
    rw [trimStart, List.dropWhile_eq_self_iff]
    cases text <;> simp
  have finish : trimEnd text = text ↔ ∀ c ∈ text.getLast?, isBlank c = false := by
    rw [trimEnd_eq_rdropWhile, List.rdropWhile_eq_self_iff]
    cases text with
    | nil => simp
    | cons first rest => simp [List.getLast?_eq_some_getLast (List.cons_ne_nil first rest)]
  rw [← start, ← finish]
  refine ⟨fun same => ?_, fun both => by rw [trim, both.1, both.2]⟩
  -- what is removed at the start is missing in the end
  have kept : trimStart text = text := by
    refine (List.dropWhile_suffix isBlank).eq_of_length_le ?_
    have shorter := (List.rdropWhile_prefix isBlank (trimStart text)).length_le
    rwa [← trimEnd_eq_rdropWhile, ← trim, same] at shorter
  exact ⟨kept, by rwa [trim, kept] at same⟩

end Text

namespace Java

open Text

/-! ## Segments -/

theorem toList_dotted (segments : List String) :
    (dotted segments).toList = ['.'].intercalate (segments.map String.toList) :=
  String.toList_intercalate

/-- The segments of a text, joined again, are the text. -/
theorem dotted_splitOn (text : List Char) :
    (dotted ((text.splitOn '.').map String.ofList)).toList = text := by
  have same : String.toList ∘ String.ofList = id := by
    funext characters
    exact String.toList_ofList
  rw [toList_dotted, List.map_map, same, List.map_id]
  exact List.intercalate_splitOn '.'

/-- No segment of a text contains a dot. -/
theorem dot_notMem_of_mem_splitOn {text segment : List Char} (mem : segment ∈ text.splitOn '.') :
    '.' ∉ segment := by
  rw [List.splitOn] at mem
  induction text generalizing segment with
  | nil =>
      rw [List.splitOnP_nil, List.mem_singleton] at mem
      rw [mem]
      exact List.not_mem_nil
  | cons first rest ih =>
      rw [List.splitOnP_cons_eq_if_modifyHead] at mem
      split at mem
      · rcases List.mem_cons.mp mem with rfl | later
        · exact List.not_mem_nil
        · exact ih later
      · rename_i noDot
        -- the first character joins the segment that the rest begins with
        obtain ⟨next, more, cut⟩ := List.exists_cons_of_ne_nil (List.splitOnP_ne_nil (· == '.') rest)
        rw [cut] at mem ih
        rcases List.mem_cons.mp mem with rfl | later
        · have notNext : '.' ∉ next := ih List.mem_cons_self
          have notFirst : '.' ≠ first := fun same => noDot (beq_iff_eq.mpr same.symm)
          exact fun mem => (List.mem_cons.mp mem).elim notFirst notNext
        · exact ih (List.mem_cons_of_mem _ later)

/-- Segments without dots are cut out of their joint text again. -/
theorem splitOn_dotted {segments : List String} (nonempty : segments ≠ [])
    (proper : ∀ segment ∈ segments, '.' ∉ segment.toList) :
    ((dotted segments).toList.splitOn '.').map String.ofList = segments := by
  have same : String.ofList ∘ String.toList = id := by
    funext segment
    exact String.ofList_toList
  rw [toList_dotted, List.splitOn_intercalate, List.map_map, same, List.map_id]
  · simpa using proper
  · simpa using nonempty

/-- Segments that are not empty do not make an empty text. -/
theorem dotted_ne_empty {segments : List String} (nonempty : segments ≠ [])
    (proper : ∀ segment ∈ segments, segment ≠ "") : dotted segments ≠ "" := by
  cases segments with
  | nil => exact absurd rfl nonempty
  | cons first rest =>
      have head : first ≠ "" := proper first List.mem_cons_self
      cases rest with
      | nil => simpa [dotted] using head
      | cons second others =>
          rw [dotted, String.intercalate_cons_of_ne_nil (by simp)]
          simp

namespace ClassName

/-! ## Package and chain -/

/-- Package and chain are the whole. -/
theorem splitChain_append (segments : List String) :
    (splitChain segments).1 ++ (splitChain segments).2 = segments := by
  unfold splitChain
  split
  · rcases List.eq_nil_or_concat segments with rfl | ⟨before, last, rfl⟩
    · rfl
    · simp
  · exact List.takeWhile_append_dropWhile

/-- No segment of the package is spelled like a class. -/
theorem not_isClassSegment_of_mem_splitChain {segments : List String} {segment : String}
    (mem : segment ∈ (splitChain segments).1) : isClassSegment segment = false := by
  unfold splitChain at mem
  split at mem
  · rename_i none_class
    have all := List.dropWhile_eq_nil_iff.mp none_class
    simpa using all segment (List.dropLast_subset _ mem)
  · simpa using List.mem_takeWhile_imp mem

/-- The chain starts at the first segment that is spelled like a class. -/
theorem splitChain_append_cons {package : List String} {outermost : String} (nested : List String)
    (lower : ∀ segment ∈ package, isClassSegment segment = false)
    (upper : isClassSegment outermost = true) :
    splitChain (package ++ outermost :: nested) = (package, outermost :: nested) := by
  have before : ∀ segment ∈ package, (!isClassSegment segment) = true := by simpa using lower
  rw [splitChain, List.dropWhile_append_of_pos before, List.takeWhile_append_of_pos before]
  simp [upper]

/-- A class name is spelled with the segments of its package and its simple names: none of them is
empty or contains a dot, and the custom tells where the package ends. -/
structure Spelled (name : ClassName) (package : List String) : Prop where
  proper : ∀ segment ∈ package ++ name.simpleNames, segment ≠ "" ∧ '.' ∉ segment.toList
  split : splitChain (package ++ name.simpleNames) = (package, name.simpleNames)
  joined : name.package = dotted package

namespace Spelled

variable {name : ClassName} {package : List String}

/-- No segment of the package is spelled like a class. -/
theorem lower (spelled : name.Spelled package) : ∀ segment ∈ package, isClassSegment segment = false := by
  intro segment mem
  have split : (splitChain (package ++ name.simpleNames)).1 = package := congrArg Prod.fst spelled.split
  rw [← split] at mem
  exact not_isClassSegment_of_mem_splitChain mem

/-- The qualified name consists of the segments. -/
theorem qualified (spelled : name.Spelled package) :
    name.qualified = dotted (package ++ name.simpleNames) := by
  rw [ClassName.qualified, spelled.joined]
  by_cases unnamed : package = []
  · rw [unnamed]
    rfl
  · have proper : dotted package ≠ "" := dotted_ne_empty unnamed fun segment mem =>
      (spelled.proper segment (List.mem_append_left _ mem)).1
    rw [if_neg (by simpa using proper), dotted, dotted, relative, dotted,
      String.intercalate_append_of_ne_nil unnamed name.simpleNames_ne_nil]

/-- A text that consists of the segments reads as the class. -/
theorem ofDotted? (spelled : name.Spelled package) {text : String}
    (same : trim text.toList = (dotted (package ++ name.simpleNames)).toList) :
    ofDotted? text = some name := by
  have nonempty : package ++ name.simpleNames ≠ [] := by simp [simpleNames]
  have full : ∀ segments ⊆ package ++ name.simpleNames,
      segments.any String.isEmpty = false := by
    intro segments among
    rw [List.any_eq_false]
    intro segment mem
    simpa using (spelled.proper segment (among mem)).1
  have cut := splitOn_dotted nonempty fun segment mem => (spelled.proper segment mem).2
  rw [ClassName.ofDotted?, same]
  simp only [cut, full _ (List.Subset.refl _), spelled.split, Bool.false_eq_true, if_false]
  show (if name.simpleNames.any String.isEmpty = true then none else _) = _
  rw [full _ (List.subset_append_right ..), ← spelled.joined]
  rfl

end Spelled

/-- A text reads as a class when it consists of the segments that the class is spelled with. -/
theorem ofDotted?_eq_some_iff {text : String} {name : ClassName} :
    ofDotted? text = some name ↔ ∃ package, name.Spelled package ∧
      trim text.toList = (dotted (package ++ name.simpleNames)).toList := by
  constructor
  · intro read
    simp only [ofDotted?] at read
    generalize cut : ((trim text.toList).splitOn '.').map String.ofList = segments at read
    have whole : (dotted segments).toList = trim text.toList := cut ▸ dotted_splitOn _
    split at read
    · cases read
    · rename_i full
      have parts := splitChain_append segments
      cases chain : (splitChain segments).2 with
      | nil =>
          rw [chain] at read
          cases read
      | cons outermost nested =>
          rw [chain, ofParts?] at read
          split at read
          · cases read
          · cases read
            rw [chain] at parts
            have proper : ∀ segment ∈ segments, segment ≠ "" ∧ '.' ∉ segment.toList := by
              intro segment mem
              refine ⟨fun empty => full ?_, ?_⟩
              · exact List.any_eq_true.mpr ⟨segment, mem, by simp [empty]⟩
              · rw [← cut] at mem
                obtain ⟨characters, listed, rfl⟩ := List.mem_map.mp mem
                rw [String.toList_ofList]
                exact dot_notMem_of_mem_splitOn listed
            refine ⟨(splitChain segments).1, ⟨?_, ?_, rfl⟩, ?_⟩
            · show ∀ segment ∈ _ ++ outermost :: nested, _
              rwa [parts]
            · show splitChain (_ ++ outermost :: nested) = (_, outermost :: nested)
              rw [parts, ← chain]
            · show _ = (dotted (_ ++ outermost :: nested)).toList
              rw [parts, whole]
  · rintro ⟨package, spelled, same⟩
    exact spelled.ofDotted? same

/-- **The qualified name of a class that was read reads as the class.** -/
theorem ofDotted?_qualified {text : String} {name : ClassName}
    (read : ofDotted? text = some name) : ofDotted? name.qualified = some name := by
  obtain ⟨package, spelled, same⟩ := ofDotted?_eq_some_iff.mp read
  refine spelled.ofDotted? ?_
  rw [spelled.qualified, ← same, trim_trim]

end ClassName

end Java

end Delegation
