import Delegation.Proofs.Java.GeneratedName
import Delegation.Proofs.Output.FileTree

/-!
# The places of sources

The path of a source consists of the segments of its package and a file name.  None of them means
the directory itself or the one above, since names are cut at every dot.  So the places of two
sources below a root differ when their paths do, unless only one of the paths starts at the root of
the file system and so does not go on from the root at all.

## Main Definitions

* `Path.segments`, `Path.Alike` — the segments of a path, and paths that differ in their separators
  at most.
* `Path.Plain` — no segment means another one.

## Main Statements

* `FileTree.destination_join_of_relative`, `FileTree.destination_join_of_absolute` — where a plain
  path leads from a root.
* `plain_sourcePath` — the path of a source is plain.
-/

namespace Delegation

open Java

/-! ## Cutting texts -/

/-- What a text has throughout, its segments have. -/
theorem forall_mem_of_mem_splitOn (separator : Char) {text : List Char} {holds : Char → Prop}
    (all : ∀ c ∈ text, holds c) {segment : List Char} (mem : segment ∈ text.splitOn separator) :
    ∀ c ∈ segment, holds c := by
  induction text generalizing segment with
  | nil =>
      rw [List.splitOn_nil, List.mem_singleton] at mem
      rw [mem]
      nofun
  | cons first rest ih =>
      obtain ⟨head, tail⟩ := List.forall_mem_cons.mp all
      rw [List.splitOn_cons_eq_if_modifyHead] at mem
      split at mem
      · rcases List.mem_cons.mp mem with rfl | later
        · nofun
        · exact ih tail later
      · -- the first character joins the segment that the rest begins with
        obtain ⟨next, more, cut⟩ := List.exists_cons_of_ne_nil (List.splitOn_ne_nil separator rest)
        rw [cut, List.modifyHead_cons] at mem
        rw [cut] at ih
        rcases List.mem_cons.mp mem with rfl | later
        · exact List.forall_mem_cons.mpr ⟨head, ih tail List.mem_cons_self⟩
        · exact ih tail (List.mem_cons_of_mem _ later)

/-- Text without separators that is put behind another one joins the last segment of that. -/
theorem exists_splitOn_append (separator : Char) (text : List Char) :
    ∃ before last, text.splitOn separator = before ++ [last] ∧ ∀ ending, separator ∉ ending →
      (text ++ ending).splitOn separator = before ++ [last ++ ending] := by
  by_cases cut : separator ∈ text
  · obtain ⟨reversed, rest, split, uncut⟩ := List.eq_append_cons_of_mem (List.mem_reverse.mpr cut)
    have whole : text = rest.reverse ++ separator :: reversed.reverse := by
      rw [← List.reverse_reverse text, split]
      simp
    have uncut : separator ∉ reversed.reverse := mt List.mem_reverse.mp uncut
    refine ⟨rest.reverse.splitOn separator, reversed.reverse, ?_, fun ending plain => ?_⟩
    · rw [whole, List.splitOn_append_cons_self, List.splitOn_eq_singleton uncut]
    · have uncut' : separator ∉ reversed.reverse ++ ending :=
        fun mem => (List.mem_append.mp mem).elim uncut plain
      rw [whole, List.append_assoc, List.cons_append, List.splitOn_append_cons_self,
        List.splitOn_eq_singleton uncut']
  · refine ⟨[], text, List.splitOn_eq_singleton cut, fun ending plain => ?_⟩
    exact List.splitOn_eq_singleton fun mem => (List.mem_append.mp mem).elim cut plain

/-! ## Paths -/

namespace Source.Path

/-- The segments of a path; separators that follow each other count as one. -/
def segments (path : String) : List String :=
  ((path.toList.splitOn '/').map String.ofList).filter (!·.isEmpty)

/-- Two paths that start alike and have the same segments. -/
structure Alike (first second : String) : Prop where
  start : isAbsolute first = isAbsolute second
  segments : segments first = segments second

/-- No segment of a path means the directory it stands in or the one above. -/
def Plain (path : String) : Prop := ∀ segment ∈ segments path, segment ≠ "." ∧ segment ≠ ".."

/-- Going on from a path, unless by an absolute one, puts the segments of the one behind those of
the other, but for an empty segment that this may end in. -/
theorem exists_splitOn_join {rest : String} (relative : isAbsolute rest = false) (base : String) :
    isAbsolute (join base rest) = isAbsolute base ∧
    ∃ before, (base.toList.splitOn '/' = before ∨ base.toList.splitOn '/' = before ++ [[]]) ∧
      (join base rest).toList.splitOn '/' = before ++ rest.toList.splitOn '/' := by
  rw [join, if_neg (by simp [relative])]
  by_cases open_ : needsSeparator base
  · have nonempty : base.toList ≠ [] := by
      intro empty
      rw [needsSeparator, empty] at open_
      cases open_
    rw [if_pos open_]
    have text : (base ++ "/" ++ rest).toList = base.toList ++ '/' :: rest.toList := by
      simp
    refine ⟨?_, _, .inl rfl, by rw [text, List.splitOn_append_cons_self]⟩
    rw [isAbsolute, isAbsolute, text, List.head?_append_of_ne_nil _ nonempty]
  · rw [if_neg open_]
    cases ends : base.toList.getLast? with
    | none =>
        obtain rfl : base = "" := String.toList_inj.mp (List.getLast?_eq_none_iff.mp ends)
        rw [String.empty_append]
        exact ⟨relative, [], .inr rfl, rfl⟩
    | some last =>
        obtain ⟨stem, whole⟩ := List.getLast?_eq_some_iff.mp ends
        have separator : last = '/' := by
          rw [needsSeparator, ends] at open_
          simpa using open_
        rw [separator] at whole
        have text : (base ++ rest).toList = stem ++ '/' :: rest.toList := by
          rw [String.toList_append, whole, List.append_assoc]
          rfl
        refine ⟨?_, stem.splitOn '/', .inr ?_, by rw [text, List.splitOn_append_cons_self]⟩
        · rw [isAbsolute, isAbsolute, text, whole]
          cases stem <;> rfl
        · rw [whole, List.splitOn_append_cons_self]
          rfl

theorem join_of_absolute {rest : String} (absolute : isAbsolute rest = true) (base : String) :
    join base rest = rest := if_pos absolute

/-- Going on by a relative path puts the segments together. -/
theorem segments_join {rest : String} (relative : isAbsolute rest = false) (base : String) :
    segments (join base rest) = segments base ++ segments rest := by
  obtain ⟨-, before, cut, joined⟩ := exists_splitOn_join relative base
  rw [segments, joined, List.map_append, List.filter_append, segments, segments]
  rcases cut with cut | cut
  · rw [cut]
  · rw [cut, List.map_append, List.filter_append]
    simp

/-- Plain paths that are joined are a plain path. -/
theorem Plain.join {base rest : String} (plain : Plain base) (plainRest : Plain rest) :
    Plain (join base rest) := by
  cases relative : isAbsolute rest with
  | true => rwa [join_of_absolute relative]
  | false =>
      rw [Plain, segments_join relative]
      exact List.forall_mem_append.mpr ⟨plain, plainRest⟩

theorem Plain.joinAll {base : String} {directories : List String} (plain : Plain base)
    (all : ∀ directory ∈ directories, Plain directory) : Plain (joinAll base directories) := by
  induction directories generalizing base with
  | nil => exact plain
  | cons directory rest ih =>
      obtain ⟨head, tail⟩ := List.forall_mem_cons.mp all
      exact ih (plain.join head) tail

/-- A segment without dots means no other one. -/
theorem ne_of_dot_notMem {segment : String} (dotless : '.' ∉ segment.toList) :
    segment ≠ "." ∧ segment ≠ ".." := by
  constructor <;> (rintro rfl; exact dotless (by decide))

/-- A path without dots is plain. -/
theorem plain_of_dot_notMem {path : String} (dotless : '.' ∉ path.toList) : Plain path := by
  intro segment mem
  obtain ⟨characters, listed, rfl⟩ := List.mem_map.mp (List.mem_of_mem_filter mem)
  refine ne_of_dot_notMem fun dot => ?_
  rw [String.toList_ofList] at dot
  have none_dots : ∀ c ∈ path.toList, c ≠ '.' := fun c listed same => dotless (same ▸ listed)
  exact forall_mem_of_mem_splitOn '/' none_dots listed '.' dot rfl

/-- The path of a file that is named by its ending after a dot is plain. -/
theorem plain_append_ending {stem ending : String} (dotless : '.' ∉ stem.toList)
    (file : '/' ∉ ending.toList) (long : 2 < ending.length) : Plain (stem ++ ending) := by
  obtain ⟨before, last, cut, joined⟩ := exists_splitOn_append '/' stem.toList
  intro segment mem
  have mem := List.mem_of_mem_filter mem
  rw [String.toList_append, joined _ file, List.map_append, List.mem_append] at mem
  rcases mem with inStem | atEnd
  · obtain ⟨characters, listed, rfl⟩ := List.mem_map.mp inStem
    refine ne_of_dot_notMem fun dot => ?_
    rw [String.toList_ofList] at dot
    have none_dots : ∀ c ∈ stem.toList, c ≠ '.' := fun c listed same => dotless (same ▸ listed)
    refine forall_mem_of_mem_splitOn '/' none_dots ?_ '.' dot rfl
    rw [cut]
    exact List.mem_append_left _ listed
  · rw [List.map_singleton, List.mem_singleton] at atEnd
    have size : 2 < segment.length := by
      rw [atEnd, String.length_ofList, List.length_append, String.length_toList]
      omega
    constructor <;> (rintro rfl; exact absurd size (by decide))

end Source.Path

open Source

/-- **The path of a source is plain.** -/
theorem plain_sourcePath {name : ClassName} (dotless : '.' ∉ name.outermost.toList) :
    Path.Plain (sourcePath name) := by
  refine Path.Plain.join (Path.Plain.joinAll ?_ fun directory mem => ?_)
    (Path.plain_append_ending dotless (by decide) (by decide))
  · exact Path.plain_of_dot_notMem (by decide)
  · obtain ⟨characters, listed, rfl⟩ := List.mem_map.mp mem
    refine Path.plain_of_dot_notMem ?_
    rw [String.toList_ofList]
    exact dot_notMem_of_mem_splitOn (List.mem_of_mem_filter listed)

/-- The name of a base class has no dots. -/
theorem dot_notMem_generated {type : ClassName} {text : String}
    (read : ClassName.ofDotted? text = some type) : '.' ∉ type.generated.outermost.toList := by
  obtain ⟨package, spelled, -⟩ := ClassName.ofDotted?_eq_some_iff.mp read
  exact (spelled.generated.proper _ (List.mem_append_right _ List.mem_cons_self)).2

/-! ## Where paths lead -/

namespace FileTree

/-- Plain segments are put behind a place. -/
theorem foldl_advance {segments : List String} {place : Place}
    (plain : ∀ segment ∈ segments.filter (!·.isEmpty), segment ≠ "." ∧ segment ≠ "..") :
    segments.foldl advance place = place ++ segments.filter (!·.isEmpty) := by
  induction segments generalizing place with
  | nil => simp
  | cons segment rest ih =>
      by_cases empty : segment.isEmpty
      · rw [List.filter_cons_of_neg (by simpa using empty)] at plain ⊢
        rw [List.foldl_cons, ih plain]
        simp [advance, empty]
      · rw [List.filter_cons_of_pos (by simpa using empty)] at plain ⊢
        obtain ⟨⟨notHere, notAbove⟩, plain⟩ := List.forall_mem_cons.mp plain
        rw [List.foldl_cons, ih plain]
        simp [advance, empty, notHere, notAbove]

/-- **A plain path that is not absolute leads below the place it goes on from.** -/
theorem destination_join_of_relative {path : String} (plain : Path.Plain path)
    (relative : Path.isAbsolute path = false) (root : String) :
    destination (Path.join root path) = destination root ++ Path.segments path := by
  obtain ⟨start, before, cut, joined⟩ := Path.exists_splitOn_join relative root
  have stem : destination root = (before.map String.ofList).foldl advance (startOf root).1 := by
    rcases cut with cut | cut
    · rw [destination, startOf, cut]
    · rw [destination, startOf, cut, List.map_append, List.foldl_append]
      rfl
  rw [stem, destination, startOf, start, joined, List.map_append, List.foldl_append,
    foldl_advance plain]
  rfl

/-- **A plain path that is absolute leads below the root of the file system.** -/
theorem destination_join_of_absolute {path : String} (plain : Path.Plain path)
    (absolute : Path.isAbsolute path = true) (root : String) :
    destination (Path.join root path) = "/" :: Path.segments path := by
  rw [Path.join_of_absolute absolute, destination, startOf, absolute, foldl_advance plain]
  rfl

/-- Plain paths that start alike and lead to one place have the same segments. -/
theorem alike_of_destination_eq {first second root : String} (plain : Path.Plain first)
    (plain' : Path.Plain second) (start : Path.isAbsolute first = Path.isAbsolute second)
    (same : destination (Path.join root first) = destination (Path.join root second)) :
    Path.Alike first second := by
  refine ⟨start, ?_⟩
  cases absolute : Path.isAbsolute first with
  | true =>
      rw [destination_join_of_absolute plain absolute,
        destination_join_of_absolute plain' (start ▸ absolute)] at same
      exact (List.cons.inj same).2
  | false =>
      rw [destination_join_of_relative plain absolute,
        destination_join_of_relative plain' (start ▸ absolute)] at same
      exact List.append_cancel_left same

end FileTree

end Delegation
