import Delegation.Output.Directory
import Delegation.Output.Memory
import Delegation.Proofs.Output.FileTree
import Delegation.Proofs.Pass.Attempts

/-!
# Sources below a root, and in memory

A directory takes the same classes as memory does, as long as the file system lets it: it refuses a
class exactly when memory does.  Each source that memory holds has been written to the place that
its path leads to, and is there unless another source has the same place.  All other files stay.  If
everything is handed to the tree once more, nothing changes.

## Main Definitions

* `DirectoryStore.Placed` — a text has been written to the place that a path leads to.
* `DirectoryStore.target` — the place of a source below a root.
* `DirectoryStore.Mirrors` — a directory has taken the same classes as memory.
* `DirectoryStore.Repeats` — a directory has taken them without a change.

## Main Statements

* `DirectoryStore.Mirrors.after` — the directory answers as memory does and goes on mirroring it.
* `DirectoryStore.Repeats.after` — where all sources are there, it answers so without a change.
-/

namespace Delegation

open Java Source FileTree

namespace DirectoryStore

/-! ## One file -/

/-- A path leads to its destination, and its directory is there. -/
structure Reaches (tree : FileTree) (path : String) : Prop where
  leads : tree.locate path = .ok (destination path)
  provided : tree.Provides (Path.parent path)

/-- A text has been written to the place that a path leads to.  Where there was nothing, directories
may have come. -/
structure Placed (tree later : FileTree) (path text : String) (changed : Bool) : Prop where
  reaches : Reaches later path
  free : tree.entry? (destination path) ≠ some .directory
  written : later.entry? (destination path) = some (.file text)
  changed_iff : changed = true ↔ tree.entry? (destination path) ≠ some (.file text)
  elsewhere : ∀ place, place ≠ destination path → tree.ExtendsAt later place

variable {tree later : FileTree} {path text : String} {changed : Bool}

theorem Reaches.of_upholds (reaches : Reaches tree path) (upholds : tree.Upholds later) :
    Reaches later path :=
  ⟨upholds.locate reaches.leads, reaches.provided.of_upholds upholds⟩

/-- Directories stay. -/
theorem Placed.upholds (placed : Placed tree later path text changed) : tree.Upholds later := by
  intro place there
  refine (placed.elsewhere place ?_).directory there
  rintro rfl
  exact placed.free there

/-- The content of a file is read from the place that its path leads to. -/
theorem read?_eq_some_iff : tree.read? path = some text ↔
    tree.locate path = .ok (destination path) ∧
      tree.entry? (destination path) = some (.file text) := by
  unfold read? find?
  cases located : tree.locate path with
  | error error => simp
  | ok place =>
      obtain rfl := locate_eq_ok located
      cases there : tree.entry? (destination path) with
      | none => simp [there]
      | some entry => cases entry <;> simp [there]

/-- A file is written where its path leads to, unless that is a directory. -/
theorem writeFile_eq_ok_iff : tree.writeFile path text = .ok later ↔
    tree.locate path = .ok (destination path) ∧
      tree.entry? (destination path) ≠ some .directory ∧
      later = tree.put (destination path) (.file text) := by
  rw [writeFile, bind_eq_ok_iff]
  constructor
  · rintro ⟨place, located, wrote⟩
    obtain rfl := locate_eq_ok located
    split at wrote
    · cases wrote
    · rename_i free
      cases wrote
      exact ⟨located, free, rfl⟩
  · rintro ⟨located, free, rfl⟩
    refine ⟨_, located, ?_⟩
    split
    · rename_i there
      exact absurd there free
    · rfl

/-- Updating a file whose directory is there. -/
theorem placed_of_update (provided : tree.Provides (Path.parent path))
    (done : update tree path text = (.ok changed, later)) :
    Placed tree later path text changed := by
  unfold update at done
  split at done
  · rename_i same
    cases done
    obtain ⟨located, there⟩ := read?_eq_some_iff.mp same
    exact ⟨⟨located, provided⟩, by simp [there], there, by simp [there], fun _ _ => .inl rfl⟩
  · rename_i different
    split at done
    · rename_i next wrote
      cases done
      obtain ⟨located, free, rfl⟩ := writeFile_eq_ok_iff.mp wrote
      have upholds := upholds_put text free
      refine ⟨⟨upholds.locate located, provided.of_upholds upholds⟩, free, ?_, ?_, ?_⟩
      · exact entry?_put_self _ _ (isStart_eq_false free)
      · exact iff_of_true rfl fun there => different (read?_eq_some_iff.mpr ⟨located, there⟩)
      · exact fun place elsewhere => .inl (entry?_put_of_ne _ _ elsewhere)
    · cases done

/-- **Writing a text below a directory that may have to be made.** -/
theorem placed_of_place (done : place tree path text = (.ok changed, later)) :
    Placed tree later path text changed := by
  unfold place at done
  split at done
  · cases done
  · rename_i mid made
    have more := extends_createDirectories tree (Path.parent path)
    rw [made] at more
    have placed := placed_of_update (provides_createDirectories made) done
    -- the file is no directory, so making directories has not changed what is there
    have same := (more (destination path)).entry?_eq placed.free
    refine ⟨placed.reaches, same ▸ placed.free, placed.written, same ▸ placed.changed_iff, ?_⟩
    exact fun other elsewhere => (more other).trans (placed.elsewhere other elsewhere)

/-- Where a text is there already, nothing is done. -/
theorem place_of_reaches (reaches : Reaches tree path)
    (there : tree.entry? (destination path) = some (.file text)) :
    place tree path text = (.ok false, tree) := by
  rw [place, createDirectories_of_provides reaches.provided]
  show update tree path text = _
  rw [update, if_pos (read?_eq_some_iff.mpr ⟨reaches.leads, there⟩)]

/-- Writing a text fails only because of the file system. -/
theorem unwritable_of_place {fault : Fault}
    (failed : place tree path text = (.error fault, later)) :
    ∃ path cause, fault = .unwritable path cause := by
  unfold place at failed
  split at failed
  · cases failed
    exact ⟨_, _, rfl⟩
  · unfold update at failed
    split at failed
    · cases failed
    · split at failed
      · cases failed
      · cases failed
        exact ⟨_, _, rfl⟩

/-! ## All files -/

/-- The place of a source below a root. -/
def target (root : String) (file : SourceFile) : Place := destination (Path.join root file.path)

end DirectoryStore

namespace MemoryStore

variable {memory : MemoryStore} {name : ClassName} {file : SourceFile}

/-- The source of a class is in memory. -/
def Holds (memory : MemoryStore) (name : ClassName) (file : SourceFile) : Prop :=
  memory.files[name]? = some file

theorem not_holds_empty : ¬ empty.Holds name file := by
  simp [Holds, empty]

theorem Holds.mem (holds : memory.Holds name file) : name ∈ memory.files :=
  Std.TreeMap.mem_iff_isSome_getElem?.mpr (by rw [holds]; rfl)

/-- What is held after a new source was written. -/
theorem holds_insert_iff (fresh : file.name ∉ memory.files) {base : BaseClass}
    {other : SourceFile} :
    Holds ⟨memory.files.insert file.name file, memory.classes.insert base.name base⟩ name other ↔
      name = file.name ∧ other = file ∨ memory.Holds name other := by
  rw [Holds, Std.TreeMap.getElem?_insert]
  by_cases same : file.name = name
  · have vacant : ¬ memory.Holds name other := fun holds => fresh (same ▸ holds.mem)
    simp [same, vacant, eq_comm]
  · simp [Holds, Std.LawfulEqCmp.compare_eq_iff_eq, same, Ne.symm same]

/-- A new source is held once it was written. -/
theorem holds_write (fresh : file.name ∉ memory.files) (base : BaseClass) :
    (memory.write base file).2.Holds file.name file := by
  rw [MemoryStore.write, if_neg (mt Std.TreeMap.mem_iff_contains.mpr fresh)]
  exact (holds_insert_iff fresh).mpr (.inl ⟨rfl, rfl⟩)

/-- A source stays in memory. -/
theorem Holds.write (holds : memory.Holds name file) (base : BaseClass) (other : SourceFile) :
    (memory.write base other).2.Holds name file := by
  unfold MemoryStore.write
  split
  · exact holds
  · rename_i fresh
    exact (holds_insert_iff (mt Std.TreeMap.mem_iff_contains.mp fresh)).mpr (.inr holds)

/-- Every source in memory was there before or has been written. -/
theorem exists_of_holds_after {options : Options} {bases : List BaseClass}
    (holds : (output.after options memory bases).Holds name file) :
    memory.Holds name file ∨ ∃ base ∈ bases, name = base.name ∧ file = render base options := by
  induction bases generalizing memory with
  | nil => exact .inl holds
  | cons base rest ih =>
      rcases ih holds with before | ⟨other, mem, named⟩
      · change (memory.write base (render base options)).2.Holds name file at before
        unfold MemoryStore.write at before
        split at before
        · exact .inl before
        · rename_i fresh
          rcases (holds_insert_iff (mt Std.TreeMap.mem_iff_contains.mp fresh)).mp before with
            now | before
          · exact .inr ⟨base, List.mem_cons_self, now⟩
          · exact .inl before
      · exact .inr ⟨other, List.mem_cons_of_mem _ mem, named⟩

theorem Holds.after (holds : memory.Holds name file) {options : Options} {bases : List BaseClass} :
    (output.after options memory bases).Holds name file := by
  induction bases generalizing memory with
  | nil => exact holds
  | cons base rest ih => exact ih (holds.write base (render base options))

end MemoryStore

namespace DirectoryStore

variable {root : String} {tree later : FileTree} {memory : MemoryStore} {directory : DirectoryStore}

/-- No other source in memory has the place of this one. -/
def Alone (root : String) (memory : MemoryStore) (name : ClassName) (file : SourceFile) : Prop :=
  ∀ other file', memory.Holds other file' → other ≠ name → target root file' ≠ target root file

/-- A directory, which was `tree` in the beginning, has taken the same classes as a store in
memory. -/
structure Mirrors (root : String) (tree : FileTree) (memory : MemoryStore)
    (directory : DirectoryStore) : Prop where
  /-- It holds the same classes. -/
  names : ∀ name, name ∈ directory.written ↔ name ∈ memory.files
  /-- The paths of all sources can be followed. -/
  reaches : ∀ name file, memory.Holds name file →
    Reaches directory.tree (Path.join root file.path)
  /-- Each source is at its place, with a note whether it was there before. -/
  content : ∀ name file, memory.Holds name file → Alone root memory name file →
    directory.tree.entry? (target root file) = some (.file file.source) ∧
      directory.written[name]? = some ⟨Path.join root file.path,
        decide (tree.entry? (target root file) ≠ some (.file file.source))⟩
  /-- At other places, only directories have come. -/
  elsewhere : ∀ place, (∀ name file, memory.Holds name file → place ≠ target root file) →
    tree.ExtendsAt directory.tree place

theorem mirrors_start (root : String) (tree : FileTree) :
    Mirrors root tree .empty (ofTree tree) where
  names _ := iff_of_false Std.TreeMap.not_mem_emptyc Std.TreeMap.not_mem_emptyc
  reaches _ _ holds := absurd holds MemoryStore.not_holds_empty
  content _ _ holds := absurd holds MemoryStore.not_holds_empty
  elsewhere _ _ := .inl rfl

namespace Mirrors

/-- A new class that is written to its place. -/
theorem place (mirrors : Mirrors root tree memory directory) {base : BaseClass} {file : SourceFile}
    {changed : Bool} (fresh : file.name ∉ memory.files)
    (done : DirectoryStore.place directory.tree (Path.join root file.path) file.source =
      (.ok changed, later)) :
    Mirrors root tree ⟨memory.files.insert file.name file, memory.classes.insert base.name base⟩
      ⟨later, directory.written.insert file.name ⟨Path.join root file.path, changed⟩⟩ := by
  have placed := placed_of_place done
  have apart : ∀ {name other}, memory.Holds name other → name ≠ file.name := by
    rintro name other holds rfl
    exact fresh holds.mem
  constructor
  · intro name
    simp only [Std.TreeMap.mem_insert, mirrors.names name]
  · intro name other now
    rcases (MemoryStore.holds_insert_iff fresh).mp now with ⟨-, rfl⟩ | before
    · exact placed.reaches
    · exact (mirrors.reaches name other before).of_upholds placed.upholds
  · intro name other now alone
    rcases (MemoryStore.holds_insert_iff fresh).mp now with ⟨rfl, rfl⟩ | before
    · -- no source was written to this place before, so the tree is here as it was
      have unused : tree.ExtendsAt directory.tree (target root other) := by
        refine mirrors.elsewhere _ fun name' file' before => Ne.symm ?_
        exact alone name' file' ((MemoryStore.holds_insert_iff fresh).mpr (.inr before))
          (apart before)
      have changed_iff := placed.changed_iff
      rw [show destination _ = target root other from rfl, unused.entry?_eq placed.free]
        at changed_iff
      refine ⟨placed.written, ?_⟩
      rw [Std.TreeMap.getElem?_insert_self]
      simp [← changed_iff]
    · have aloneBefore : Alone root memory name other := fun name' file' before' =>
        alone name' file' ((MemoryStore.holds_insert_iff fresh).mpr (.inr before'))
      obtain ⟨there, noted⟩ := mirrors.content name other before aloneBefore
      have elsewhere : target root other ≠ target root file := Ne.symm <|
        alone file.name file ((MemoryStore.holds_insert_iff fresh).mpr (.inl ⟨rfl, rfl⟩))
          (apart before).symm
      refine ⟨(placed.elsewhere _ elsewhere).entry?_eq_file_iff.mpr there, ?_⟩
      rw [Std.TreeMap.getElem?_insert, if_neg, noted]
      rw [Std.LawfulEqCmp.compare_eq_iff_eq]
      exact (apart before).symm
  · intro place unused
    have before := mirrors.elsewhere place fun name other before =>
      unused name other ((MemoryStore.holds_insert_iff fresh).mpr (.inr before))
    have here := unused file.name file ((MemoryStore.holds_insert_iff fresh).mpr (.inl ⟨rfl, rfl⟩))
    exact before.trans (placed.elsewhere place here)

/-- A directory knows a class exactly when memory does. -/
theorem contains_eq (mirrors : Mirrors root tree memory directory) (name : ClassName) :
    directory.written.contains name = memory.files.contains name := by
  rw [Bool.eq_iff_iff, ← Std.TreeMap.mem_iff_contains, ← Std.TreeMap.mem_iff_contains]
  exact mirrors.names name

/-- Writing one class, unless the file system fails. -/
theorem write (mirrors : Mirrors root tree memory directory) (base : BaseClass) (file : SourceFile)
    (writable : ∀ path cause,
      (DirectoryStore.write root directory file).1 ≠ .error (.unwritable path cause)) :
    (DirectoryStore.write root directory file).1 = (memory.write base file).1 ∧
      Mirrors root tree (memory.write base file).2
        (DirectoryStore.write root directory file).2 := by
  unfold DirectoryStore.write MemoryStore.write at *
  rw [mirrors.contains_eq] at writable ⊢
  cases known : memory.files.contains file.name with
  | true => exact ⟨rfl, mirrors⟩
  | false =>
      simp only [known, Bool.false_eq_true, if_false] at writable ⊢
      cases done : DirectoryStore.place directory.tree (Path.join root file.path) file.source with
      | mk answer later =>
          rw [done] at writable
          cases answer with
          | error fault =>
              obtain ⟨path, cause, rfl⟩ := unwritable_of_place done
              exact absurd rfl (writable path cause)
          | ok changed =>
              have fresh : file.name ∉ memory.files := by
                rw [Std.TreeMap.mem_iff_contains, known]
                exact Bool.false_ne_true
              exact ⟨rfl, mirrors.place fresh done⟩

/-- **A directory answers as memory does and goes on mirroring it**, if the file system does not
fail. -/
theorem after (mirrors : Mirrors root tree memory directory) {options : Options}
    {bases : List BaseClass}
    (writable : ∀ path cause, .error (.unwritable path cause) ∉
      (output root).answers options directory bases) :
    MemoryStore.output.answers options memory bases =
        (output root).answers options directory bases ∧
      Mirrors root tree (MemoryStore.output.after options memory bases)
        ((output root).after options directory bases) := by
  induction bases generalizing memory directory with
  | nil => exact ⟨rfl, mirrors⟩
  | cons base rest ih =>
      have first := mirrors.write base (render base options) fun path cause failed =>
        writable path cause (List.mem_cons.mpr (.inl failed.symm))
      obtain ⟨answers, mirrors'⟩ := ih first.2 fun path cause listed =>
        writable path cause (List.mem_cons_of_mem _ listed)
      exact ⟨List.cons_eq_cons.mpr ⟨first.1.symm, answers⟩, mirrors'⟩

end Mirrors

/-! ## Once more -/

/-- Every source in memory is at its place. -/
def Settled (root : String) (tree : FileTree) (memory : MemoryStore) : Prop :=
  ∀ name file, memory.Holds name file → Reaches tree (Path.join root file.path) ∧
    tree.entry? (target root file) = some (.file file.source)

/-- If no two sources have one place, all of them are at their places. -/
theorem Mirrors.settled (mirrors : Mirrors root tree memory directory)
    (alone : ∀ name file, memory.Holds name file → Alone root memory name file) :
    Settled root directory.tree memory := fun name file holds =>
  ⟨mirrors.reaches name file holds, (mirrors.content name file holds (alone name file holds)).1⟩

/-- A directory has taken the same classes as a store in memory and is still `tree`. -/
structure Repeats (root : String) (tree : FileTree) (memory : MemoryStore)
    (directory : DirectoryStore) : Prop where
  unchanged : directory.tree = tree
  noted : ∀ name : ClassName, directory.written[name]? =
    memory.files[name]?.map fun file => ⟨Path.join root file.path, false⟩

theorem repeats_start (root : String) (tree : FileTree) :
    Repeats root tree .empty (ofTree tree) where
  unchanged := rfl
  noted name := by simp [MemoryStore.empty, ofTree]

namespace Repeats

/-- Writing one class whose source is at its place. -/
theorem write (repeats : Repeats root tree memory directory) (base : BaseClass) (file : SourceFile)
    (there : file.name ∉ memory.files → Reaches tree (Path.join root file.path) ∧
      tree.entry? (target root file) = some (.file file.source)) :
    (DirectoryStore.write root directory file).1 = (memory.write base file).1 ∧
      Repeats root tree (memory.write base file).2
        (DirectoryStore.write root directory file).2 := by
  have same : directory.written.contains file.name = memory.files.contains file.name := by
    rw [Std.TreeMap.contains_eq_isSome_getElem?, Std.TreeMap.contains_eq_isSome_getElem?,
      repeats.noted, Option.isSome_map]
  unfold DirectoryStore.write MemoryStore.write
  rw [same]
  cases known : memory.files.contains file.name with
  | true => exact ⟨rfl, repeats⟩
  | false =>
      obtain ⟨reaches, content⟩ := there (by
        rw [Std.TreeMap.mem_iff_contains, known]
        exact Bool.false_ne_true)
      simp only [Bool.false_eq_true, if_false, repeats.unchanged,
        place_of_reaches reaches content]
      refine ⟨trivial, rfl, fun name => ?_⟩
      rw [Std.TreeMap.getElem?_insert, Std.TreeMap.getElem?_insert, repeats.noted]
      split <;> rfl

/-- **Where all sources are there, a directory answers as memory does without a change.** -/
theorem after (repeats : Repeats root tree memory directory) {options : Options}
    {bases : List BaseClass}
    (settled : Settled root tree (MemoryStore.output.after options memory bases)) :
    MemoryStore.output.answers options memory bases =
        (output root).answers options directory bases ∧
      Repeats root tree (MemoryStore.output.after options memory bases)
        ((output root).after options directory bases) := by
  induction bases generalizing memory directory with
  | nil => exact ⟨rfl, repeats⟩
  | cons base rest ih =>
      have there : base.name ∉ memory.files →
          Reaches tree (Path.join root (render base options).path) ∧
            tree.entry? (target root (render base options)) =
              some (.file (render base options).source) := by
        intro fresh
        have written : (memory.write base (render base options)).2.Holds base.name
            (render base options) := MemoryStore.holds_write fresh base
        exact settled base.name _ written.after
      have first := repeats.write base (render base options) there
      obtain ⟨answers, repeats'⟩ := ih first.2 settled
      exact ⟨List.cons_eq_cons.mpr ⟨first.1.symm, answers⟩, repeats'⟩

end Repeats

end DirectoryStore

end Delegation
