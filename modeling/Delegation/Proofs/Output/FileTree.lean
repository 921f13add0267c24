import Delegation.Output.FileTree
import Delegation.Proofs.Outcome
import Mathlib.Data.List.TakeWhile

/-!
# What paths lead to

Where a path leads does not depend on the tree; whether it leads anywhere does, but only on the
directories on the way.  So a path that can be followed can be followed still when directories have
come to the tree or files have changed.  Making directories is a change of this kind: it puts
directories where nothing was and does nothing else.

## Main Definitions

* `FileTree.destination` — where a path leads if it leads anywhere.
* `FileTree.Upholds` — a later tree has the directories of an earlier one.
* `FileTree.ExtendsAt`, `FileTree.Extends` — a later tree has more directories, and is the same
  elsewhere.
* `FileTree.Provides` — a directory is there, so that nothing must be done to have it.

## Main Statements

* `FileTree.follow_eq_ok` — where a path leads.
* `FileTree.extends_createDirectories` — what making directories does.
* `FileTree.provides_createDirectories`, `FileTree.createDirectories_of_provides` — it has an
  effect, and none the second time.
-/

namespace Delegation

namespace FileTree

open Source

/-! ## Destinations -/

/-- Go on from a directory by one segment. -/
def enter (place : Place) (segment : String) : Except FileError Place :=
  if segment.isEmpty || segment == "." then .ok place
  else if segment == ".." then .ok (above place)
  else if segment.utf8ByteSize > maxSegmentSize then .error .nameTooLong
  else .ok (place ++ [segment])

/-- Where one segment leads, if it leads anywhere. -/
def advance (place : Place) (segment : String) : Place :=
  if segment.isEmpty || segment == "." then place
  else if segment == ".." then above place
  else place ++ [segment]

/-- Where a path leads, if it leads anywhere. -/
def destination (path : String) : Place := (startOf path).2.foldl advance (startOf path).1

variable {tree later last : FileTree} {place next : Place} {path : String} {segment : String}

/-- A step starts from a directory and does not depend on anything else in the tree. -/
theorem step_eq_ok_iff : tree.step place segment = .ok next ↔
    tree.entry? place = some .directory ∧ enter place segment = .ok next := by
  unfold step
  cases tree.entry? place with
  | none => simp
  | some entry => cases entry <;> simp [enter]

theorem eq_advance_of_enter (entered : enter place segment = .ok next) :
    next = advance place segment := by
  unfold enter at entered
  unfold advance
  split at entered
  · cases entered
    rw [if_pos ‹_›]
  · split at entered
    · cases entered
      rw [if_neg ‹_›, if_pos ‹_›]
    · split at entered
      · cases entered
      · cases entered
        rw [if_neg ‹_›, if_neg ‹_›]

/-- Segments that can be followed lead where they lead in any tree. -/
theorem foldlM_step_eq_ok {segments : List String} {start : Place}
    (walked : segments.foldlM tree.step start = .ok place) :
    place = segments.foldl advance start := by
  induction segments generalizing start with
  | nil =>
      cases walked
      rfl
  | cons segment rest ih =>
      rw [List.foldlM_cons] at walked
      obtain ⟨mid, stepped, walked⟩ := bind_eq_ok_iff.mp walked
      rw [List.foldl_cons, ← eq_advance_of_enter (step_eq_ok_iff.mp stepped).2]
      exact ih walked

/-- **A path that can be followed leads to its destination.** -/
theorem follow_eq_ok (followed : tree.follow path = .ok place) : place = destination path :=
  foldlM_step_eq_ok followed

/-- A path leads somewhere when it may be a path and can be followed. -/
theorem locate_eq_ok_iff :
    tree.locate path = .ok place ↔ checkPath path = .ok () ∧ tree.follow path = .ok place := by
  rw [locate, bind_eq_ok_iff]
  exact ⟨fun ⟨_, checked, followed⟩ => ⟨checked, followed⟩, fun ⟨checked, followed⟩ =>
    ⟨(), checked, followed⟩⟩

theorem locate_eq_ok (located : tree.locate path = .ok place) : place = destination path :=
  follow_eq_ok (locate_eq_ok_iff.mp located).2

/-- A path leads to a directory when it leads to its destination and a directory is there. -/
theorem isDirectory_iff : tree.isDirectory path ↔
    tree.locate path = .ok (destination path) ∧
      tree.entry? (destination path) = some .directory := by
  unfold isDirectory find?
  cases located : tree.locate path with
  | error error => simp
  | ok place =>
      obtain rfl := locate_eq_ok located
      simp

/-! ## Trees with the same directories -/

/-- A later tree has the directories of an earlier one. -/
def Upholds (tree later : FileTree) : Prop :=
  ∀ place, tree.entry? place = some .directory → later.entry? place = some .directory

namespace Upholds

theorem refl (tree : FileTree) : tree.Upholds tree := fun _ there => there

theorem trans (first : tree.Upholds later) (second : later.Upholds last) : tree.Upholds last :=
  fun place there => second place (first place there)

/-- Segments that can be followed can be followed still. -/
theorem foldlM_step (upholds : tree.Upholds later) {segments : List String} {start : Place}
    (walked : segments.foldlM tree.step start = .ok place) :
    segments.foldlM later.step start = .ok place := by
  induction segments generalizing start with
  | nil => exact walked
  | cons segment rest ih =>
      rw [List.foldlM_cons] at walked ⊢
      obtain ⟨mid, stepped, walked⟩ := bind_eq_ok_iff.mp walked
      obtain ⟨there, entered⟩ := step_eq_ok_iff.mp stepped
      have stepped' := step_eq_ok_iff.mpr ⟨upholds _ there, entered⟩
      exact bind_eq_ok_iff.mpr ⟨mid, stepped', ih walked⟩

theorem follow (upholds : tree.Upholds later) (followed : tree.follow path = .ok place) :
    later.follow path = .ok place :=
  upholds.foldlM_step followed

theorem locate (upholds : tree.Upholds later) (located : tree.locate path = .ok place) :
    later.locate path = .ok place := by
  obtain ⟨checked, followed⟩ := locate_eq_ok_iff.mp located
  exact locate_eq_ok_iff.mpr ⟨checked, upholds.follow followed⟩

theorem isDirectory (upholds : tree.Upholds later) (there : tree.isDirectory path) :
    later.isDirectory path := by
  obtain ⟨located, entry⟩ := isDirectory_iff.mp there
  exact isDirectory_iff.mpr ⟨upholds.locate located, upholds _ entry⟩

end Upholds

/-- At a place, a later tree has what an earlier one has, or a directory where that has nothing. -/
def ExtendsAt (tree later : FileTree) (place : Place) : Prop :=
  later.entry? place = tree.entry? place ∨
    tree.entry? place = none ∧ later.entry? place = some .directory

namespace ExtendsAt

theorem trans (first : tree.ExtendsAt later place) (second : later.ExtendsAt last place) :
    tree.ExtendsAt last place := by
  rcases second with same | ⟨nothing, made⟩
  · rw [ExtendsAt, same]
    exact first
  · rcases first with same | ⟨-, there⟩
    · exact .inr ⟨same ▸ nothing, made⟩
    · rw [there] at nothing
      cases nothing

/-- A directory stays. -/
theorem directory (more : tree.ExtendsAt later place)
    (there : tree.entry? place = some .directory) : later.entry? place = some .directory := by
  rcases more with same | ⟨nothing, -⟩
  · rw [same, there]
  · rw [there] at nothing
    cases nothing

/-- Where there is no directory in the end, nothing has changed. -/
theorem entry?_eq (more : tree.ExtendsAt later place)
    (other : later.entry? place ≠ some .directory) : later.entry? place = tree.entry? place :=
  more.resolve_right fun made => other made.2

/-- The files are the same. -/
theorem entry?_eq_file_iff (more : tree.ExtendsAt later place) {content : String} :
    later.entry? place = some (.file content) ↔ tree.entry? place = some (.file content) := by
  rcases more with same | ⟨nothing, made⟩
  · rw [same]
  · simp [nothing, made]

end ExtendsAt

/-- A later tree has directories where an earlier one has nothing, and is the same elsewhere. -/
def Extends (tree later : FileTree) : Prop := ∀ place, tree.ExtendsAt later place

namespace Extends

theorem refl (tree : FileTree) : tree.Extends tree := fun _ => .inl rfl

theorem trans (first : tree.Extends later) (second : later.Extends last) : tree.Extends last :=
  fun place => (first place).trans (second place)

theorem upholds (more : tree.Extends later) : tree.Upholds later := fun place =>
  (more place).directory

end Extends

/-! ## Changes at a place -/

/-- What is put at a place is there afterwards. -/
theorem entry?_put_self (tree : FileTree) (entry : FileEntry) (inside : isStart place = false) :
    entry? (tree.put place entry) place = some entry := by
  simp [FileTree.entry?, put, inside]

/-- Nothing changes at other places. -/
theorem entry?_put_of_ne (tree : FileTree) (entry : FileEntry) {other : Place}
    (different : other ≠ place) : entry? (tree.put place entry) other = tree.entry? other := by
  have apart : compare place other ≠ .eq := fun same =>
    different (Std.LawfulEqCmp.eq_of_compare same).symm
  simp [FileTree.entry?, put, Std.TreeMap.getElem?_insert, apart]

/-- Where paths start there is a directory. -/
theorem isStart_eq_false (other : tree.entry? place ≠ some .directory) :
    isStart place = false := by
  by_contra start
  exact other (by rw [FileTree.entry?, if_pos (by simpa using start)])

theorem isStart_eq_false_of_none (nothing : tree.entry? place = none) : isStart place = false := by
  have free : tree.entry? place ≠ some .directory := by
    rw [nothing]
    nofun
  exact isStart_eq_false free

/-- A directory that is put where nothing was. -/
theorem extends_put (nothing : tree.entry? place = none) :
    tree.Extends (tree.put place .directory) := by
  have inside := isStart_eq_false_of_none nothing
  intro other
  by_cases same : other = place
  · rw [same]
    exact .inr ⟨nothing, entry?_put_self _ _ inside⟩
  · exact .inl (entry?_put_of_ne _ _ same)

/-- A file that is put where no directory was. -/
theorem upholds_put (content : String) (free : tree.entry? place ≠ some .directory) :
    tree.Upholds (tree.put place (.file content)) := by
  intro other there
  have different : other ≠ place := by
    rintro rfl
    exact free there
  rwa [entry?_put_of_ne _ _ different]

/-! ## Separators at the end -/

theorem splitOn_replicate (count : Nat) :
    (List.replicate count '/').splitOn '/' = List.replicate (count + 1) [] := by
  induction count with
  | zero => rfl
  | succ count ih =>
      have cut := List.splitOn_append_cons_self (a := '/') [] (List.replicate count '/')
      rw [List.nil_append, ih] at cut
      rw [List.replicate_succ, cut]
      rfl

theorem splitOn_append_replicate (text : List Char) (count : Nat) :
    (text ++ List.replicate count '/').splitOn '/' =
      text.splitOn '/' ++ List.replicate count [] := by
  cases count with
  | zero => simp
  | succ count => rw [List.replicate_succ, List.splitOn_append_cons_self, splitOn_replicate]

/-- A text is followed by the separators that are dropped from it. -/
theorem exists_eq_append_replicate (text : List Char) : ∃ kept count,
    text = kept ++ List.replicate count '/' ∧
      text.reverse.dropWhile (· == '/') = kept.reverse := by
  have separators : text.reverse.takeWhile (· == '/') =
      List.replicate (text.reverse.takeWhile (· == '/')).length '/' := by
    refine List.eq_replicate_of_mem fun separator mem => ?_
    exact eq_of_beq (List.mem_takeWhile_imp (p := (· == '/')) mem)
  have parts := congrArg List.reverse
    (List.takeWhile_append_dropWhile (p := (· == '/')) (l := text.reverse))
  rw [List.reverse_reverse, List.reverse_append, separators, List.reverse_replicate] at parts
  exact ⟨_, _, parts.symm, (List.reverse_reverse _).symm⟩

/-- Dropping separators from the end of a path drops empty segments. -/
theorem startOf_dropSeparators (path : String) :
    ∃ count, startOf path = ((startOf (Path.dropSeparators path)).1,
      (startOf (Path.dropSeparators path)).2 ++ List.replicate count "") := by
  obtain ⟨kept, count, whole, dropped⟩ := exists_eq_append_replicate path.toList
  cases kept with
  | nil =>
      cases count with
      | zero =>
          obtain rfl : path = "" := String.toList_inj.mp whole
          exact ⟨0, rfl⟩
      | succ count =>
          have absolute : Path.isAbsolute path = true := by
            rw [Path.isAbsolute, whole]
            rfl
          have root : Path.dropSeparators path = "/" := by
            rw [Path.dropSeparators, dropped]
            exact if_pos absolute
          refine ⟨count, ?_⟩
          rw [root, startOf, absolute, whole, List.nil_append, splitOn_replicate,
            List.map_replicate]
          rfl
  | cons first rest =>
      have stem : Path.dropSeparators path = String.ofList (first :: rest) := by
        rw [Path.dropSeparators, dropped]
        split
        · rename_i empty
          simp at empty
        · rw [List.reverse_reverse]
      have start : Path.isAbsolute path = Path.isAbsolute (String.ofList (first :: rest)) := by
        rw [Path.isAbsolute, Path.isAbsolute, whole, String.toList_ofList]
        rfl
      refine ⟨count, ?_⟩
      rw [stem, startOf, startOf, start, whole, splitOn_append_replicate, String.toList_ofList,
        List.map_append, List.map_replicate]

/-- A path that can be followed can be followed without the separators at its end. -/
theorem follow_dropSeparators (followed : tree.follow path = .ok place) :
    tree.follow (Path.dropSeparators path) = .ok place := by
  obtain ⟨count, same⟩ := startOf_dropSeparators path
  rw [follow, same] at followed
  show List.foldlM _ _ _ = _
  simp only [List.foldlM_append] at followed
  obtain ⟨mid, walked, rest⟩ := bind_eq_ok_iff.mp followed
  have stays : place = mid := by
    rw [foldlM_step_eq_ok rest]
    clear walked rest followed same
    induction count with
    | zero => rfl
    | succ count ih => exact ih
  rw [stays]
  exact walked

/-- A path to a directory may end in separators. -/
theorem follow_of_dropSeparators (followed : tree.follow (Path.dropSeparators path) = .ok place)
    (there : tree.entry? place = some .directory) : tree.follow path = .ok place := by
  obtain ⟨count, same⟩ := startOf_dropSeparators path
  rw [follow, same]
  show List.foldlM _ _ _ = _
  rw [List.foldlM_append]
  refine bind_eq_ok_iff.mpr ⟨place, followed, ?_⟩
  clear followed same
  induction count with
  | zero => rfl
  | succ count ih =>
      rw [List.replicate_succ, List.foldlM_cons]
      exact bind_eq_ok_iff.mpr ⟨place, step_eq_ok_iff.mpr ⟨there, rfl⟩, ih⟩

/-! ## Making directories -/

/-- A directory is made where a path leads to and nothing is. -/
theorem createDirectory_eq_ok_iff : tree.createDirectory path = .ok later ↔
    checkPath path = .ok () ∧ ∃ place, tree.follow (Path.dropSeparators path) = .ok place ∧
      tree.entry? place = none ∧ later = tree.put place .directory := by
  rw [createDirectory, bind_eq_ok_iff]
  constructor
  · rintro ⟨_, checked, made⟩
    obtain ⟨place, followed, made⟩ := bind_eq_ok_iff.mp made
    refine ⟨checked, place, followed, ?_⟩
    split at made
    · cases made
    · rename_i nothing
      cases made
      exact ⟨nothing, rfl⟩
  · rintro ⟨checked, place, followed, nothing, rfl⟩
    refine ⟨(), checked, bind_eq_ok_iff.mpr ⟨place, followed, ?_⟩⟩
    rw [nothing]
    rfl

/-- A directory that was made is there. -/
theorem isDirectory_createDirectory (made : tree.createDirectory path = .ok later) :
    later.isDirectory path := by
  obtain ⟨checked, place, followed, nothing, rfl⟩ := createDirectory_eq_ok_iff.mp made
  have upholds := (extends_put nothing).upholds
  have there : entry? (tree.put place .directory) place = some .directory :=
    entry?_put_self _ _ (isStart_eq_false_of_none nothing)
  have located := locate_eq_ok_iff.mpr
    ⟨checked, follow_of_dropSeparators (upholds.follow followed) there⟩
  obtain rfl := locate_eq_ok located
  exact isDirectory_iff.mpr ⟨located, there⟩

/-- A directory that is there is not made again. -/
theorem createDirectory_of_isDirectory (there : tree.isDirectory path) :
    tree.createDirectory path = .error .alreadyExists := by
  obtain ⟨located, entry⟩ := isDirectory_iff.mp there
  obtain ⟨checked, followed⟩ := locate_eq_ok_iff.mp located
  simp only [createDirectory, checked, follow_dropSeparators followed, bind, Except.bind, entry]
  rfl

/-- Making one directory extends the tree. -/
theorem extends_orExisting {attempt : Except FileError FileTree}
    (made : ∀ later, attempt = .ok later → tree.Extends later) :
    tree.Extends (tree.orExisting path attempt).2 := by
  cases attempt with
  | ok later => exact made later rfl
  | error error => exact .refl tree

theorem extends_createDirectory (made : tree.createDirectory path = .ok later) :
    tree.Extends later := by
  obtain ⟨-, place, -, nothing, rfl⟩ := createDirectory_eq_ok_iff.mp made
  exact extends_put nothing

/-- Making directories extends the tree, whether it succeeds or not. -/
theorem extends_createFirst (tree : FileTree) (paths : List String) :
    tree.Extends (tree.createFirst paths).2 := by
  induction paths generalizing tree with
  | nil => exact .refl tree
  | cons path above ih =>
      rw [createFirst]
      split
      · split
        · rename_i mid first
          have before := ih tree
          rw [first] at before
          exact before.trans (extends_orExisting fun _ made => extends_createDirectory made)
        · exact ih tree
      · exact extends_orExisting fun _ made => extends_createDirectory made

/-- A directory that was made or was there is there. -/
theorem isDirectory_orExisting {mid : FileTree}
    (ready : mid.orExisting path (mid.createDirectory path) = (.ok (), later)) :
    later.isDirectory path := by
  cases made : mid.createDirectory path with
  | ok next =>
      rw [made] at ready
      cases ready
      exact isDirectory_createDirectory made
  | error error =>
      rw [made, orExisting] at ready
      simp only [Prod.mk.injEq] at ready
      obtain ⟨there, rfl⟩ := ready
      by_contra missing
      rw [if_neg missing] at there
      cases there

/-- After directories were made, the first one is there. -/
theorem isDirectory_createFirst {above : List String}
    (ready : tree.createFirst (path :: above) = (.ok (), later)) : later.isDirectory path := by
  rw [createFirst] at ready
  split at ready
  · split at ready
    · exact isDirectory_orExisting ready
    · rename_i failure failed
      exact absurd ready (failed later)
  · exact isDirectory_orExisting ready

/-- Where a directory is there, nothing is done. -/
theorem createFirst_of_isDirectory (there : tree.isDirectory path) (above : List String) :
    tree.createFirst (path :: above) = (.ok (), tree) := by
  rw [createFirst, createDirectory_of_isDirectory there]
  show tree.orExisting path (.error .alreadyExists) = _
  rw [orExisting, if_pos there]

/-- A directory is there; the place where relative paths start always is. -/
def Provides (tree : FileTree) (path : String) : Prop := path = "" ∨ tree.isDirectory path

theorem Provides.of_upholds (provides : tree.Provides path) (upholds : tree.Upholds later) :
    later.Provides path :=
  provides.imp_right upholds.isDirectory

/-- A path that is not empty is the first of those above it. -/
theorem exists_ancestors_eq (nonempty : path ≠ "") :
    ∃ above, Path.ancestors path = path :: above := by
  have long : ∃ bound, path.length = bound + 1 :=
    Nat.exists_eq_succ_of_ne_zero fun none_left => nonempty (String.length_eq_zero_iff.mp none_left)
  obtain ⟨bound, long⟩ := long
  rw [Path.ancestors, long, Path.ancestorsWithin, if_neg (by simpa using nonempty)]
  split
  · exact ⟨_, rfl⟩
  · exact ⟨_, rfl⟩

/-- **Making directories extends the tree**, whether it succeeds or not. -/
theorem extends_createDirectories (tree : FileTree) (path : String) :
    tree.Extends (tree.createDirectories path).2 :=
  extends_createFirst tree _

/-- **Afterwards the directory is there.** -/
theorem provides_createDirectories (ready : tree.createDirectories path = (.ok (), later)) :
    later.Provides path := by
  by_cases empty : path = ""
  · exact .inl empty
  · obtain ⟨above, listed⟩ := exists_ancestors_eq empty
    rw [createDirectories, listed] at ready
    exact .inr (isDirectory_createFirst ready)

/-- **Where the directory is there, nothing is done.** -/
theorem createDirectories_of_provides (provides : tree.Provides path) :
    tree.createDirectories path = (.ok (), tree) := by
  rcases provides with rfl | there
  · rfl
  · by_cases empty : path = ""
    · rw [empty]
      rfl
    · obtain ⟨above, listed⟩ := exists_ancestors_eq empty
      rw [createDirectories, listed]
      exact createFirst_of_isDirectory there above

end FileTree

end Delegation
