import Delegation.Proofs.Compilation.Attempts
import Delegation.Proofs.Compilation.Faults
import Delegation.Proofs.Output.Directory
import Delegation.Proofs.Output.SourcePath
import Delegation.Proofs.Snapshot.Order

/-!
# Compiling into a directory

A compilation that writes its sources below a root goes the same way as one that keeps them in
memory, as long as the file system lets it.  Afterwards each source is where its path leads to, all
other files are as they were, and compiling once more changes nothing.  This takes paths that lead
to different places.  Different paths below the root do, but the path of a class whose package
begins with a separator is absolute: it does not lead below the root, and may lead to the place of a
class that does.

## Main Definitions

* `MemoryStore.Distinct` — no two sources have one path.
* `MemoryStore.Apart` — no path from outside leads to a place below the root.

## Main Statements

* `Compilation.directory_agrees` — a directory agrees with memory, and compiling again changes
  nothing.
* `Compilation.not_directory_agrees` — but not for all classes whose sources have different paths.
-/

namespace Delegation

open Java Source DirectoryStore

/-! ## Names of annotated types -/

/-- A definition that is read gives an entry with the name that is written in it. -/
theorem TypeDefinition.ofDotted?_of_toEntry {definition : TypeDefinition} {entry : Entry}
    (read : definition.toEntry = .ok entry) :
    ClassName.ofDotted? definition.name = some entry.name := by
  simp only [toEntry, bind_eq_ok_iff] at read
  obtain ⟨name, named, methods, -, constructors, -, interfaces, -, read⟩ := read
  have known : ClassName.ofDotted? definition.name = some name := by
    unfold Conversion.className at named
    split at named
    · cases named
      assumption
    · cases named
  split at read
  · obtain ⟨_, thrown, -⟩ := bind_eq_ok_iff.mp read
    cases thrown
  · cases read
    exact known

/-- The name of an annotated type can be written with dots. -/
theorem Snapshot.Reached.exists_ofDotted? {snapshot : Snapshot} (reached : snapshot.Reached)
    {type : ClassName} (annotated : type ∈ snapshot.annotated) :
    ∃ text, ClassName.ofDotted? text = some type := by
  rw [annotated_eq] at annotated
  induction reached with
  | @read types options snapshot ok =>
      obtain ⟨declared, all, same⟩ := bind_eq_ok_iff.mp ok
      cases same
      obtain ⟨wf, -, entries, readAll, listed⟩ := (wellFormed_empty options).declareAll all
      obtain ⟨entry, mem, rfl⟩ := List.mem_map.mp annotated
      rw [annotations, written_refresh, wf.written_withObject, List.filter_append] at mem
      rcases List.mem_append.mp mem with own | root
      · obtain ⟨original, among, rfl⟩ := List.mem_map.mp (List.mem_of_mem_filter own)
        rw [listed, empty, List.nil_append] at among
        obtain ⟨definition, -, read⟩ := exists_of_mem_mapM readAll among
        have named := TypeDefinition.ofDotted?_of_toEntry read
        exact ⟨definition.name, named⟩
      · -- the root class that is added is not annotated
        split at root <;> simp [Entry.written, Entry.object] at root
  | moved _ round ih => exact ih (annotations_setRound _ round ▸ annotated)
  | joined _ ok ih => exact ih (annotations_register ok ▸ annotated)

/-! ## Places -/

namespace MemoryStore

/-- No two sources have one path. -/
def Distinct (store : MemoryStore) : Prop :=
  ∀ name file other file', store.Holds name file → store.Holds other file' → name ≠ other →
    ¬ Path.Alike file.path file'.path

/-- No absolute path leads to a place below the root that belongs to another source. -/
def Apart (root : String) (store : MemoryStore) : Prop :=
  ∀ name file other file', store.Holds name file → store.Holds other file' →
    Path.isAbsolute file.path = true → Path.isAbsolute file'.path = false →
      target root file ≠ target root file'

/-- Then every source has its place to itself, if the paths are plain. -/
theorem Distinct.alone {store : MemoryStore} {root : String} (distinct : store.Distinct)
    (apart : store.Apart root)
    (plain : ∀ name file, store.Holds name file → Path.Plain file.path) {name : ClassName}
    {file : SourceFile} (holds : store.Holds name file) : Alone root store name file := by
  intro other file' holds' different same
  cases start : Path.isAbsolute file.path <;> cases start' : Path.isAbsolute file'.path
  case false.true => exact apart other file' name file holds' holds start' start same
  case true.false => exact apart name file other file' holds holds' start start' same.symm
  all_goals
    refine distinct other file' name file holds' holds different ?_
    exact FileTree.alike_of_destination_eq (plain _ _ holds') (plain _ _ holds)
      (start'.trans start.symm) same

end MemoryStore

namespace Compilation

variable {snapshot : Snapshot}

/-- The paths of the sources that a compilation leaves in memory are plain. -/
theorem plain_of_holds_attempts {σ : Type} (reached : snapshot.Reached) {config : Options}
    {output : Output σ} {store : σ} {name : ClassName} {file : SourceFile}
    (holds : (MemoryStore.output.after config .empty
      (attempts ⟨snapshot, config⟩ output store)).Holds name file) : Path.Plain file.path := by
  rcases MemoryStore.exists_of_holds_after holds with before | ⟨base, mem, rfl, rfl⟩
  · exact absurd before MemoryStore.not_holds_empty
  · obtain ⟨type, annotated, same⟩ := exists_of_mem_attempts reached mem
    obtain ⟨text, read⟩ := reached.exists_ofDotted? annotated
    refine plain_sourcePath ?_
    show '.' ∉ base.name.outermost.toList
    rw [← same]
    exact dot_notMem_generated read

/-- A compilation into a directory goes the same way as one into memory, unless the file system
fails, and the directory mirrors the memory afterwards. -/
theorem mirrors_run (compilation : Compilation) (root : String) (tree : FileTree)
    (writable : ∀ path cause,
      (compilation.run (DirectoryStore.output root) (.ofTree tree)).outcome ≠
        .error (.unwritable path cause)) :
    let memory := compilation.run MemoryStore.output .empty
    let directory := compilation.run (DirectoryStore.output root) (.ofTree tree)
    directory.outcome = memory.outcome ∧ directory.diagnostics = memory.diagnostics ∧
      directory.log = memory.log ∧ Mirrors root tree memory.store directory.store := by
  intro memory directory
  obtain ⟨answers, mirrors⟩ := (mirrors_start root tree).after fun path cause failed =>
    writable path cause (outcome_of_answer failed)
  have inMemory : memory = ⟨directory.outcome, directory.compilation, MemoryStore.output.after
      compilation.options .empty (compilation.attempts (DirectoryStore.output root) (.ofTree tree)),
      directory.diagnostics, directory.log⟩ := run_of_answers answers
  rw [inMemory, show directory.store = _ from store_run _ _ _]
  exact ⟨rfl, rfl, rfl, mirrors⟩

/-- **A directory agrees with memory**, unless the file system fails.  If moreover the sources have
different paths that are not mixed up below the root, each is where its path leads to afterwards,
with a note whether it was there before; the other files are as they were; and compiling once more
gives the same result and changes nothing. -/
theorem directory_agrees (reached : snapshot.Reached) (config : Options) (root : String)
    (tree : FileTree)
    (writable : ∀ path cause,
      (run ⟨snapshot, config⟩ (DirectoryStore.output root) (.ofTree tree)).outcome ≠
        .error (.unwritable path cause)) :
    let memory := run ⟨snapshot, config⟩ MemoryStore.output .empty
    let first := run ⟨snapshot, config⟩ (DirectoryStore.output root) (.ofTree tree)
    let second := run ⟨snapshot, config⟩ (DirectoryStore.output root) (.ofTree first.store.tree)
    first.outcome = memory.outcome ∧ first.diagnostics = memory.diagnostics ∧
    (∀ name, name ∈ first.store.written ↔ name ∈ memory.store.files) ∧
    (memory.store.Distinct → memory.store.Apart root →
      (∀ (name : ClassName) (file : SourceFile), memory.store.files[name]? = some file →
        first.store.tree.read? (Path.join root file.path) = some file.source ∧
        first.store.written[name]? = some ⟨Path.join root file.path,
          decide (tree.entry? (target root file) ≠ some (.file file.source))⟩) ∧
      (∀ place, (∀ (name : ClassName) (file : SourceFile),
          memory.store.files[name]? = some file → place ≠ target root file) →
        ∀ content, first.store.tree.entry? place = some (.file content) ↔
          tree.entry? place = some (.file content)) ∧
      second.outcome = memory.outcome ∧ second.diagnostics = memory.diagnostics ∧
      second.store.tree = first.store.tree ∧
      ∀ name : ClassName, second.store.written[name]? =
        memory.store.files[name]?.map fun file => ⟨Path.join root file.path, false⟩) := by
  intro memory first second
  obtain ⟨outcome, diagnostics, -, mirrors⟩ := mirrors_run ⟨snapshot, config⟩ root tree writable
  refine ⟨outcome, diagnostics, mirrors.names, fun distinct apart => ?_⟩
  have plain : ∀ name file, memory.store.Holds name file → Path.Plain file.path :=
    fun name file holds => plain_of_holds_attempts reached (store_run _ _ _ ▸ holds)
  have alone : ∀ name file, memory.store.Holds name file → Alone root memory.store name file :=
    fun name file holds => distinct.alone apart plain holds
  -- the second time, the sources that the first time left are there for each class
  have kept : memory.store = MemoryStore.output.after config .empty
      (attempts ⟨snapshot, config⟩ MemoryStore.output .empty) := store_run _ _ _
  have settled : Settled root first.store.tree memory.store := mirrors.settled alone
  rw [kept] at settled
  obtain ⟨again, repeats⟩ := (repeats_start root first.store.tree).after settled
  have secondRun : second = ⟨memory.outcome, memory.compilation,
      (DirectoryStore.output root).after config (.ofTree first.store.tree)
        (attempts ⟨snapshot, config⟩ MemoryStore.output .empty), memory.diagnostics, memory.log⟩ :=
    run_of_answers again.symm
  rw [secondRun]
  refine ⟨fun name file holds => ?_, fun place unused content => ?_, rfl, rfl, repeats.unchanged,
    fun name => ?_⟩
  · obtain ⟨there, noted⟩ := mirrors.content name file holds (alone name file holds)
    exact ⟨read?_eq_some_iff.mpr ⟨(mirrors.reaches name file holds).leads, there⟩, noted⟩
  · exact (mirrors.elsewhere place unused).entry?_eq_file_iff
  · rw [kept]
    exact repeats.noted name

/-- A tree with an old file at the place of the base class of `alone`. -/
def outdated : FileTree := FileTree.empty.plant "out/foo/AutoDelegate_C.java" (.file "")

/-- The old file is replaced the first time and left alone the second time. -/
theorem directory_agrees_alone :
    let memory := run ⟨.sample alone, .standard⟩ MemoryStore.output .empty
    let first := run ⟨.sample alone, .standard⟩ (DirectoryStore.output "out") (.ofTree outdated)
    let second := run ⟨.sample alone, .standard⟩ (DirectoryStore.output "out")
      (.ofTree first.store.tree)
    (Snapshot.sample alone).Reached ∧ first.outcome = .ok ⟨[⟨"foo", "AutoDelegate_C", []⟩], 2⟩ ∧
    memory.store.Distinct ∧ memory.store.Apart "out" ∧
    first.store.written[(⟨"foo", "AutoDelegate_C", []⟩ : ClassName)]? =
      some ⟨"out/foo/AutoDelegate_C.java", true⟩ ∧
    second.store.tree = first.store.tree ∧
    second.store.written[(⟨"foo", "AutoDelegate_C", []⟩ : ClassName)]? =
      some ⟨"out/foo/AutoDelegate_C.java", false⟩ := by
  intro memory first second
  have reached : (Snapshot.sample alone).Reached := .read (Snapshot.ofTypes_sample (by
    decide +kernel))
  have done : first.outcome = .ok ⟨[⟨"foo", "AutoDelegate_C", []⟩], 2⟩ := by decide +kernel
  have held : memory.store.files.keys = [⟨"foo", "AutoDelegate_C", []⟩] := by decide +kernel
  have only : ∀ name file, memory.store.Holds name file → name = ⟨"foo", "AutoDelegate_C", []⟩ := by
    intro name file holds
    simpa [held] using Std.TreeMap.mem_keys.mpr holds.mem
  have distinct : memory.store.Distinct := fun name file other file' holds holds' different =>
    absurd ((only name file holds).trans (only other file' holds').symm) different
  have apart : memory.store.Apart "out" := by
    intro name file other file' holds holds' absolute relative
    obtain rfl := (only name file holds).trans (only other file' holds').symm
    obtain rfl := Option.some_inj.mp (holds.symm.trans holds')
    exact absurd absolute (by simp [relative])
  obtain ⟨-, -, -, agrees⟩ := directory_agrees reached .standard "out" outdated fun path cause => by
    rw [show (run _ _ _).outcome = _ from done]
    nofun
  obtain ⟨-, -, -, -, same, -⟩ := agrees distinct apart
  exact ⟨reached, done, distinct, apart, by decide +kernel, same, by decide +kernel⟩

/-- A class, and another one whose package is that of the first below a source root. -/
def outside : List TypeDefinition :=
  alone ++ [{ name := "/out/foo.C", kind := .class_, extends? := some "/out/foo.AutoDelegate_C"
              request? := some .empty }]

/-- The sources of both have different paths, yet below the source root they have one place, and
each is written over the other one whenever they are compiled. -/
theorem not_directory_agrees :
    let memory := run ⟨.sample outside, .standard⟩ MemoryStore.output .empty
    let first := run ⟨.sample outside, .standard⟩ (DirectoryStore.output "/out") (.ofTree .empty)
    let second := run ⟨.sample outside, .standard⟩ (DirectoryStore.output "/out")
      (.ofTree first.store.tree)
    Snapshot.ofTypes outside .standard = .ok (.sample outside) ∧
    (memory.store.files.values.map (·.path) =
      ["/out/foo/AutoDelegate_C.java", "foo/AutoDelegate_C.java"]) ∧
    first.outcome = memory.outcome ∧
    ((memory.store.files.values.filter fun file =>
      first.store.tree.read? (Path.join "/out" file.path) ≠ some file.source).map (·.path) =
        ["foo/AutoDelegate_C.java"]) ∧
    second.store.written.values.map (·.changed) = [true, true] := by
  refine ⟨Snapshot.ofTypes_sample (by decide +kernel), ?_⟩
  decide +kernel

end Compilation

end Delegation
