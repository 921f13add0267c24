import Delegation.Proofs.Output.Directory
import Delegation.Proofs.Output.SourcePath

/-!
# Sources apart

Below a root, a source lies in one directory for each segment of its package, so different classes
have different places.  That is so as long as no name has a separator in it.  Names are cut at dots
only: a segment `foo/bar` is two directories, which another class may reach by two segments, and a
segment that begins with a separator replaces everything before it, the root as well.

## Main Definitions

* `Source.steps` — the directories and the file of a source, as its name has them.
* `Source.course` — the segments that its path goes along.
* `DirectoryStore.Housed` — a source lies at its steps below a root.

## Main Statements

* `DirectoryStore.target_eq` — the place of every source.
* `DirectoryStore.entry?_write_write` — sources at different places do not overwrite each other.
* `DirectoryStore.places_generated` — which sources are housed, each at a place of its own.
-/

namespace Delegation

open Java

/-! ## Segments that are joined -/

namespace Source.Path

/-- The segments that a path goes along when others join it: an absolute one replaces what came
before it. -/
def trail (start : List String) (directories : List String) : List String :=
  directories.foldl
    (fun kept directory =>
      if isAbsolute directory then segments directory else kept ++ segments directory) start

/-- Joined paths are absolute if one of them is. -/
theorem isAbsolute_joinAll (base : String) (directories : List String) :
    isAbsolute (joinAll base directories) = (isAbsolute base || directories.any isAbsolute) := by
  induction directories generalizing base with
  | nil => rw [List.any_nil, Bool.or_false, joinAll, List.foldl_nil]
  | cons directory rest ih =>
      have step : isAbsolute (join base directory) = (isAbsolute base || isAbsolute directory) := by
        cases absolute : isAbsolute directory with
        | true => rw [join_of_absolute absolute, absolute, Bool.or_true]
        | false => rw [(exists_splitOn_join absolute base).1, Bool.or_false]
      rw [joinAll, List.foldl_cons, ← joinAll, ih, step, List.any_cons, Bool.or_assoc]

/-- The segments of joined paths. -/
theorem segments_joinAll (base : String) (directories : List String) :
    segments (joinAll base directories) = trail (segments base) directories := by
  induction directories generalizing base with
  | nil => rfl
  | cons directory rest ih =>
      have step : segments (join base directory) =
          if isAbsolute directory then segments directory
          else segments base ++ segments directory := by
        cases absolute : isAbsolute directory with
        | true => rw [join_of_absolute absolute, if_pos rfl]
        | false => rw [segments_join absolute, if_neg Bool.false_ne_true]
      rw [joinAll, List.foldl_cons, ← joinAll, ih, step]
      rfl

/-- A text without separators is not absolute. -/
theorem isAbsolute_eq_false {path : String} (plain : '/' ∉ path.toList) :
    isAbsolute path = false := by
  rw [isAbsolute, beq_eq_false_iff_ne]
  exact fun start => plain (List.mem_of_mem_head? start)

/-- A text without separators is one segment. -/
theorem segments_eq_singleton {path : String} (nonempty : path ≠ "") (plain : '/' ∉ path.toList) :
    segments path = [path] := by
  rw [segments, List.splitOn_eq_singleton plain, List.map_singleton, String.ofList_toList]
  simp [nonempty]

/-- Texts without separators follow each other as they are. -/
theorem trail_eq_append (start : List String) {directories : List String}
    (proper : ∀ directory ∈ directories, directory ≠ "" ∧ '/' ∉ directory.toList) :
    trail start directories = start ++ directories := by
  induction directories generalizing start with
  | nil => rw [List.append_nil, trail, List.foldl_nil]
  | cons directory rest ih =>
      obtain ⟨⟨nonempty, plain⟩, tail⟩ := List.forall_mem_cons.mp proper
      rw [trail, List.foldl_cons, ← trail, if_neg (by simp [isAbsolute_eq_false plain]), ih _ tail,
        segments_eq_singleton nonempty plain, List.append_assoc, List.singleton_append]

end Source.Path

/-! ## The steps of a source -/

namespace Source

/-- The directories of a package, one for each segment. -/
def directories (name : ClassName) : List String :=
  ((name.package.toList.splitOn '.').filter (!·.isEmpty)).map String.ofList

/-- The directories and the file of a source. -/
def steps (name : ClassName) : List String := directories name ++ [name.outermost ++ ".java"]

/-- The segments that the path of a source goes along. -/
def course (name : ClassName) : List String :=
  Path.trail [] (directories name) ++ Path.segments (name.outermost ++ ".java")

/-- Some segment of a package begins with a separator. -/
def leaves (name : ClassName) : Bool := (directories name).any Path.isAbsolute

/-- Where a step leads is told by the step alone. -/
def Proper (step : String) : Prop := step ≠ "" ∧ '/' ∉ step.toList ∧ step ≠ "." ∧ step ≠ ".."

/-- The course of a source goes along its steps if none of them has a separator. -/
theorem course_eq_steps {name : ClassName} (proper : ∀ step ∈ steps name, Proper step) :
    course name = steps name ∧ leaves name = false := by
  obtain ⟨inPackage, file⟩ := List.forall_mem_append.mp proper
  have file := file _ List.mem_cons_self
  constructor
  · rw [course, Path.trail_eq_append [] fun step mem => ⟨(inPackage step mem).1, (inPackage step mem).2.1⟩,
      Path.segments_eq_singleton file.1 file.2.1]
    rfl
  · rw [leaves, List.any_eq_false]
    intro step mem
    rw [Path.isAbsolute_eq_false (inPackage step mem).2.1]
    exact Bool.false_ne_true

variable {name : ClassName}

/-- The path of a source goes along its course. -/
theorem segments_sourcePath (relative : Path.isAbsolute (name.outermost ++ ".java") = false) :
    Path.segments (sourcePath name) = course name ∧
      Path.isAbsolute (sourcePath name) = leaves name := by
  constructor
  · show Path.segments (Path.join (Path.joinAll "" (directories name)) _) = _
    rw [Path.segments_join relative, Path.segments_joinAll]
    rfl
  · show Path.isAbsolute (Path.join (Path.joinAll "" (directories name)) _) = _
    rw [(Path.exists_splitOn_join relative _).1, Path.isAbsolute_joinAll]
    rfl

end Source

/-! ## Generated names -/

namespace Java

/-- What is in a part is in the joined parts. -/
theorem mem_intercalate_of_mem (separator : String) {parts : List String} {part : String} {c : Char}
    (listed : part ∈ parts) (mem : c ∈ part.toList) : c ∈ (separator.intercalate parts).toList := by
  rw [String.toList_intercalate]
  exact subset_intercalate _ (List.mem_map_of_mem listed) mem

/-- A character that does not separate parts is in none of them if it is not in the joined ones. -/
theorem notMem_intercalate_iff {separator : String} (parts : List String) {c : Char}
    (inside : c ∉ separator.toList) :
    c ∉ (separator.intercalate parts).toList ↔ ∀ part ∈ parts, c ∉ part.toList := by
  constructor
  · exact fun apart part listed mem => apart (mem_intercalate_of_mem separator listed mem)
  · intro apart
    have others : ∀ other ∈ (separator.intercalate parts).toList, other ≠ c := by
      refine forall_mem_intercalate separator ?_ ?_
      · rintro other mem rfl
        exact inside mem
      · rintro part listed other mem rfl
        exact apart part listed mem
    exact fun mem => others c mem rfl

namespace ClassName

/-- The file of a base class is a proper step if no separator is in the rest of its name. -/
theorem proper_file_iff (text : String) :
    Source.Proper (generatedPrefix ++ text ++ ".java") ↔ '/' ∉ text.toList := by
  have long : 2 < (generatedPrefix ++ text ++ ".java").length := by
    rw [String.length_append, String.length_append]
    exact Nat.lt_of_lt_of_le (by decide : 2 < ".java".length) (Nat.le_add_left ..)
  have ne : ∀ short : String, short.length ≤ 2 → generatedPrefix ++ text ++ ".java" ≠ short := by
    rintro short bound rfl
    omega
  constructor
  · rintro ⟨-, plain, -⟩ mem
    rw [String.toList_append, String.toList_append] at plain
    exact plain (List.mem_append_left _ (List.mem_append_right _ mem))
  · intro plain
    refine ⟨ne _ (by decide), ?_, ne _ (by decide), ne _ (by decide)⟩
    rw [String.toList_append, String.toList_append, List.mem_append, List.mem_append, not_or,
      not_or]
    exact ⟨⟨by decide, plain⟩, by decide⟩

namespace Spelled

variable {name : ClassName} {package : List String}

/-- The directories of a package that is spelled out are its segments. -/
theorem directories (spelled : name.Spelled package) : Source.directories name = package := by
  have proper := fun segment mem =>
    spelled.proper segment (List.mem_append_left name.simpleNames mem)
  rw [Source.directories, spelled.joined]
  by_cases unnamed : package = []
  · rw [unnamed]
    rfl
  · have cut := splitOn_dotted unnamed fun segment mem => (proper segment mem).2
    have full : ((dotted package).toList.splitOn '.').filter (!·.isEmpty) =
        (dotted package).toList.splitOn '.' := by
      rw [List.filter_eq_self]
      intro characters listed
      have segment := proper (String.ofList characters) (cut ▸ List.mem_map_of_mem listed)
      simpa using segment.1
    rw [full, cut]

/-- The steps of the source of a base class. -/
theorem steps_generated (spelled : name.Spelled package) :
    Source.steps name.generated =
      package ++ [generatedPrefix ++ "_".intercalate name.simpleNames ++ ".java"] := by
  rw [Source.steps, ← spelled.directories]
  rfl

/-- The steps to a source are proper if the name of the class has no separators. -/
theorem proper_steps_iff (spelled : name.Spelled package) :
    (∀ step ∈ Source.steps name.generated, Source.Proper step) ↔ '/' ∉ name.qualified.toList := by
  rw [spelled.qualified, dotted, notMem_intercalate_iff _ (by decide), spelled.steps_generated,
    List.forall_mem_append, List.forall_mem_append, List.forall_mem_singleton,
    ← notMem_intercalate_iff name.simpleNames (by decide : '/' ∉ "_".toList)]
  rw [proper_file_iff]
  refine and_congr_left fun _ => forall₂_congr fun segment mem => ?_
  obtain ⟨nonempty, dotless⟩ := spelled.proper segment (List.mem_append_left _ mem)
  obtain ⟨notHere, notAbove⟩ := Source.Path.ne_of_dot_notMem dotless
  exact ⟨fun proper => proper.2.1, fun plain => ⟨nonempty, plain, notHere, notAbove⟩⟩

end Spelled

/-- Base classes with the same steps are the same. -/
theorem generated_eq_of_steps {type type' : ClassName} {package package' : List String}
    (spelled : type.Spelled package) (spelled' : type'.Spelled package')
    (same : Source.steps type.generated = Source.steps type'.generated) :
    type.generated = type'.generated := by
  rw [Source.steps, Source.steps] at same
  obtain ⟨directories, file⟩ := List.append_inj' same rfl
  have package : type.package = type'.package := by
    rw [spelled.joined, spelled'.joined, ← spelled.directories, ← spelled'.directories]
    exact congrArg dotted directories
  refine ext_simpleNames package ?_
  have outermost := (String.append_left_inj ".java").mp (List.cons.inj file).1
  exact congrArg (· :: []) outermost

end ClassName

end Java

open Source FileTree

namespace DirectoryStore

variable {root text text' : String} {type type' : ClassName} {file file' : SourceFile}

/-! ## Places -/

/-- **The place of a source**: its course goes on from the root, or from that of the file system. -/
theorem target_eq (read : ClassName.ofDotted? text = some type)
    (named : file.name = type.generated) :
    target root file =
      (if leaves file.name then ["/"] else destination root) ++ course file.name := by
  have relative : Path.isAbsolute (type.generated.outermost ++ ".java") = false := by
    have start : (type.generated.outermost ++ ".java").toList.head? = some 'A' := by
      rw [ClassName.generated, ClassName.peer, String.toList_append, String.toList_append]
      rfl
    rw [Path.isAbsolute, start]
    rfl
  obtain ⟨segments, start⟩ := segments_sourcePath relative
  have plain := plain_sourcePath (dot_notMem_generated read)
  rw [target, SourceFile.path, named, ← segments, ← start]
  cases absolute : Path.isAbsolute (sourcePath type.generated) with
  | true => rw [destination_join_of_absolute plain absolute, if_pos rfl, List.singleton_append]
  | false =>
      rw [destination_join_of_relative plain absolute, if_neg Bool.false_ne_true]

/-- A source lies below a root in a directory for each segment of its package, in a file that is
named after its class. -/
structure Housed (root : String) (file : SourceFile) : Prop where
  place : target root file = destination root ++ steps file.name
  proper : ∀ step ∈ steps file.name, Proper step

/-- The source of a base class is housed if the name of the class has no separators. -/
theorem housed_iff (read : ClassName.ofDotted? text = some type)
    (named : file.name = type.generated) : Housed root file ↔ '/' ∉ type.qualified.toList := by
  obtain ⟨package, spelled, -⟩ := ClassName.ofDotted?_eq_some_iff.mp read
  rw [← spelled.proper_steps_iff, ← named]
  refine ⟨Housed.proper, fun proper => ⟨?_, proper⟩⟩
  obtain ⟨along, within⟩ := course_eq_steps proper
  rw [target_eq read named, along, within, if_neg Bool.false_ne_true]

/-! ## Two sources -/

/-- What writing a source leaves. -/
theorem placed_of_write {store later : DirectoryStore} (done : write root store file = (.ok (), later)) :
    ∃ changed, Placed store.tree later.tree (Path.join root file.path) file.source changed := by
  unfold write at done
  split at done
  · cases done
  · dsimp only at done
    split at done
    · rename_i placed
      cases done
      exact ⟨_, placed_of_place placed⟩
    · cases done

/-- **Sources at different places do not overwrite each other.** -/
theorem entry?_write_write {store first second : DirectoryStore}
    (done : write root store file = (.ok (), first))
    (done' : write root first file' = (.ok (), second))
    (apart : target root file ≠ target root file') :
    second.tree.entry? (target root file) = some (.file file.source) ∧
      second.tree.entry? (target root file') = some (.file file'.source) := by
  obtain ⟨_, placed⟩ := placed_of_write done
  obtain ⟨_, placed'⟩ := placed_of_write done'
  exact ⟨(placed'.elsewhere _ apart).entry?_eq_file_iff.mpr placed.written, placed'.written⟩

/-- **Where the sources of different base classes are**: they are housed, and not at one place, just
if no separator is in the names of the classes.  Then both are there once they were written. -/
theorem places_generated (root : String) {text text' : String} {type type' : ClassName}
    (read : ClassName.ofDotted? text = some type) (read' : ClassName.ofDotted? text' = some type')
    (different : type.generated ≠ type'.generated) {file file' : SourceFile}
    (named : file.name = type.generated) (named' : file'.name = type'.generated) :
    (∀ source ∈ [file, file'], target root source =
      (if leaves source.name then ["/"] else destination root) ++ course source.name) ∧
    (Housed root file ∧ Housed root file' ∧ target root file ≠ target root file' ↔
      '/' ∉ type.qualified.toList ∧ '/' ∉ type'.qualified.toList) ∧
    ('/' ∉ type.qualified.toList → '/' ∉ type'.qualified.toList →
      ∀ store first second, write root store file = (.ok (), first) →
        write root first file' = (.ok (), second) →
        second.tree.entry? (destination root ++ steps file.name) = some (.file file.source) ∧
          second.tree.entry? (destination root ++ steps file'.name) =
            some (.file file'.source)) := by
  have first : Housed root file ↔ '/' ∉ type.qualified.toList := housed_iff read named
  have second : Housed root file' ↔ '/' ∉ type'.qualified.toList := housed_iff read' named'
  have apart : Housed root file → Housed root file' → target root file ≠ target root file' := by
    intro housed housed' same
    obtain ⟨_, spelled, -⟩ := ClassName.ofDotted?_eq_some_iff.mp read
    obtain ⟨_, spelled', -⟩ := ClassName.ofDotted?_eq_some_iff.mp read'
    rw [housed.place, housed'.place, named, named'] at same
    exact different (ClassName.generated_eq_of_steps spelled spelled' (List.append_cancel_left same))
  rw [← first, ← second]
  refine ⟨?_, ⟨fun both => ⟨both.1, both.2.1⟩, fun both => ⟨both.1, both.2, ?_⟩⟩, ?_⟩
  · rw [List.forall_mem_cons, List.forall_mem_singleton]
    exact ⟨target_eq read named, target_eq read' named'⟩
  · exact apart both.1 both.2
  · intro housed housed' store _ _ done done'
    rw [← housed.place, ← housed'.place]
    exact entry?_write_write done done' (apart housed housed')

/-- A class and a nested one have sources at different places of one directory. -/
theorem places_generated_nested :
    let file : SourceFile := ⟨⟨"foo", "AutoDelegate_C", []⟩, ""⟩
    let file' : SourceFile := ⟨⟨"foo", "AutoDelegate_A_B", []⟩, ""⟩
    Housed "out" file ∧ Housed "out" file' ∧ target "out" file ≠ target "out" file' :=
  (@places_generated "out" "foo.C" "foo.A.B" ⟨"foo", "C", []⟩ ⟨"foo", "A", ["B"]⟩
    (by decide +kernel) (by decide +kernel) (by decide) _ _ rfl rfl).2.1.mpr (by decide)

/-- A package `foo/bar` shares its directory with `foo.bar`, and a package that begins with a
separator has one that is not below the root. -/
theorem not_housed_apart :
    (∃ type type', ClassName.ofDotted? "foo.bar.C" = some type ∧
      ClassName.ofDotted? "foo/bar.C" = some type' ∧ type.generated ≠ type'.generated ∧
      ∀ root source source',
        target root ⟨type.generated, source⟩ = target root ⟨type'.generated, source'⟩) ∧
    ∃ type, ClassName.ofDotted? "/tmp/autodelegate-elsewhere/foo.C" = some type ∧
      ∀ source, ¬ destination "out" <+: target "out" ⟨type.generated, source⟩ := by
  constructor
  · refine ⟨⟨"foo.bar", "C", []⟩, ⟨"foo/bar", "C", []⟩, by decide +kernel, by decide +kernel,
      by decide, fun root source source' => ?_⟩
    have same : sourcePath (ClassName.generated ⟨"foo.bar", "C", []⟩) =
        sourcePath (ClassName.generated ⟨"foo/bar", "C", []⟩) := by decide +kernel
    exact congrArg (fun path => destination (Path.join root path)) same
  · refine ⟨⟨"/tmp/autodelegate-elsewhere/foo", "C", []⟩, by decide +kernel, fun source => ?_⟩
    show ¬ destination "out" <+: destination (Path.join "out"
      (sourcePath (ClassName.generated ⟨"/tmp/autodelegate-elsewhere/foo", "C", []⟩)))
    decide +kernel

end DirectoryStore

end Delegation
