import Delegation.Proofs.Snapshot.Superclass

/-!
# A snapshot after any operations

A snapshot stores what every superclass clause means, and this changes with the round and with the
classes that have joined.  After any operations, in any order and however often the round goes back,
what is stored agrees with what is written: a clause means what the entries and the current round
say, and the index leads to every entry and to nothing else.

## Main Definitions

* `Snapshot.Operation`, `Snapshot.perform` — what can be done to a snapshot, and what becomes of it.
* `Snapshot.Means` — the meaning of a superclass clause, read off the entries and the round.
* `Snapshot.Exact` — what is stored agrees with what is written.

## Main Statements

* `Snapshot.Reached.exact` — every snapshot that can be made is exact.
* `Snapshot.exact_and_refused_iff` — so is a snapshot after any operations, and a class is refused
  exactly when its name is taken.
-/

namespace Delegation

open Java

namespace Snapshot

/-! ## Operations -/

/-- What can be done to a snapshot. -/
inductive Operation
  /-- Go to a round, forwards or backwards. -/
  | setRound (round : Nat)
  /-- Add a generated class, if its name is not taken. -/
  | register (base : BaseClass)

/-- Do something to a snapshot.  The fault is the reason if a class is refused. -/
def perform (snapshot : Snapshot) : Operation → Option Fault × Snapshot
  | .setRound round => (none, snapshot.setRound round)
  | .register base => snapshot.registerAll [base]

/-- Do several things one after the other, whatever is refused. -/
def performAll (snapshot : Snapshot) (operations : List Operation) : Snapshot :=
  operations.foldl (fun snapshot operation => (snapshot.perform operation).2) snapshot

variable {snapshot : Snapshot}

/-- An operation makes a snapshot that can be made. -/
theorem Reached.perform (reached : snapshot.Reached) (operation : Operation) :
    (snapshot.perform operation).2.Reached := by
  cases operation with
  | setRound round => exact .moved reached round
  | register base => exact reached.joinedAll [base]

/-- So do any operations. -/
theorem Reached.performAll (reached : snapshot.Reached) (operations : List Operation) :
    (snapshot.performAll operations).Reached := by
  induction operations generalizing snapshot with
  | nil => exact reached
  | cons operation rest ih => exact ih (reached.perform operation)

/-- A class whose name is taken is refused, and the snapshot is as it was. -/
theorem Reached.perform_register_of_mem (reached : snapshot.Reached) {base : BaseClass}
    (taken : base.name ∈ snapshot.entryNames) :
    snapshot.perform (.register base) =
      (some (.duplicateOutput base.name.qualified), snapshot) := by
  have known : base.name ∈ snapshot.index := reached.wellFormed.mem_index_iff.mpr taken
  cases joined : snapshot.register base with
  | ok next =>
      obtain ⟨extended, inserted, -⟩ := register_eq_ok_iff.mp joined
      exact absurd known (insert_eq_some_iff.mp inserted).1
  | error fault => rw [Snapshot.perform, registerAll, joined, fault_of_register joined]

/-- A class whose name is new joins. -/
theorem Reached.perform_register_of_notMem (reached : snapshot.Reached) {base : BaseClass}
    (fresh : base.name ∉ snapshot.entryNames) :
    (snapshot.perform (.register base)).1 = none := by
  obtain ⟨next, joined⟩ := reached.exists_register fresh
  rw [Snapshot.perform, registerAll, joined]
  rfl

/-! ## What clauses mean -/

/-- A type of this name has appeared. -/
def Shows (snapshot : Snapshot) (name : ClassName) : Prop :=
  ∃ entry ∈ snapshot.entries.toList, entry.name = name ∧ entry.round ≤ snapshot.round

/-- What the superclass clause of an entry means in the current round. -/
inductive Means (snapshot : Snapshot) (entry : Entry) : Superclass → Prop
  /-- The root class extends nothing, and neither does what is no class. -/
  | nothing (other : entry.decl.kind ≠ .class_ ∨ entry.name = .object) : Means snapshot entry .absent
  /-- A class without a clause extends the root class, whether that has appeared or not. -/
  | root (isClass : entry.decl.kind = .class_) (proper : entry.name ≠ .object)
      (unsaid : entry.extends? = none) : Means snapshot entry (.resolved .object)
  /-- The clause names a type that has appeared. -/
  | type {text : String} {name : ClassName} (isClass : entry.decl.kind = .class_)
      (proper : entry.name ≠ .object) (said : entry.extends? = some text)
      (named : ClassName.ofDotted? text = some name) (shown : snapshot.Shows name) :
      Means snapshot entry (.resolved name)
  /-- The clause names no type that has appeared, or no type at all. -/
  | unknown {text : String} (isClass : entry.decl.kind = .class_) (proper : entry.name ≠ .object)
      (said : entry.extends? = some text)
      (unshown : ∀ name, ClassName.ofDotted? text = some name → ¬ snapshot.Shows name) :
      Means snapshot entry (.unresolved text)

/-- A name is visible when a type of this name has appeared. -/
theorem WellFormed.isSome_lookup_iff_shows (wf : snapshot.WellFormed) {name : ClassName} :
    (snapshot.lookup name).isSome ↔ snapshot.Shows name := by
  rw [Option.isSome_iff_exists]
  constructor
  · rintro ⟨decl, found⟩
    obtain ⟨entry, mem, named, appeared, -⟩ := wf.lookup_eq_some_iff.mp found
    exact ⟨entry, mem, named, appeared⟩
  · rintro ⟨entry, mem, named, appeared⟩
    exact ⟨entry.decl, wf.lookup_eq_some_iff.mpr ⟨entry, mem, named, appeared, rfl⟩⟩

/-- Reading a clause gives its meaning. -/
theorem WellFormed.means_superclassOf (wf : snapshot.WellFormed) (entry : Entry) :
    snapshot.Means entry (snapshot.superclassOf entry) := by
  by_cases other : entry.decl.kind ≠ .class_ ∨ entry.name = .object
  · have absent : snapshot.superclassOf entry = .absent := by
      rw [superclassOf, if_pos (by simpa using other)]
    rw [absent]
    exact .nothing other
  · obtain ⟨isClass, proper⟩ : entry.decl.kind = .class_ ∧ entry.name ≠ .object := by
      simpa using other
    cases said : entry.extends? with
    | none =>
        have root : snapshot.superclassOf entry = .resolved .object := by
          simp [superclassOf, isClass, proper, said]
        rw [root]
        exact .root isClass proper said
    | some text =>
        rw [superclassOf_of_clause snapshot isClass proper said]
        cases named : ClassName.ofDotted? text with
        | none => exact .unknown isClass proper said (by simp [named])
        | some name =>
            simp only []
            by_cases shown : snapshot.Shows name
            · rw [if_pos (wf.isSome_lookup_iff_shows.mpr shown)]
              exact .type isClass proper said named shown
            · rw [if_neg fun visible => shown (wf.isSome_lookup_iff_shows.mp visible)]
              refine .unknown isClass proper said fun other read => ?_
              rw [named] at read
              cases read
              exact shown

/-- What is stored about a clause is what reading it gives. -/
theorem Reached.superclass_eq (reached : snapshot.Reached) {entry : Entry}
    (mem : entry ∈ snapshot.entries.toList) :
    entry.decl.superclass = snapshot.superclassOf entry := by
  rw [reached.entries_eq] at mem
  obtain ⟨written, -, rfl⟩ := List.mem_map.mp mem
  rfl

/-! ## Exactness -/

/-- What a snapshot stores agrees with what is written in it. -/
structure Exact (snapshot : Snapshot) : Prop where
  /-- No two entries have one name. -/
  nodup : snapshot.entryNames.Nodup
  /-- The index leads from a name to the place of its entry, and from no other name anywhere. -/
  indexed : ∀ (name : ClassName) (position : Nat),
    snapshot.index[name]? = some position ↔ snapshot.entryNames[position]? = some name
  /-- There is an entry for the root class. -/
  rooted : .object ∈ snapshot.entryNames
  /-- What is stored about a superclass clause is what the clause means in the current round. -/
  superclass : ∀ entry ∈ snapshot.entries.toList, snapshot.Means entry entry.decl.superclass

/-- Every snapshot that can be made has the root class. -/
theorem Reached.object_mem_entryNames (reached : snapshot.Reached) :
    .object ∈ snapshot.entryNames := by
  induction reached with
  | read ok =>
      obtain ⟨declared, all, same⟩ := bind_eq_ok_iff.mp ok
      cases same
      have wf := ((wellFormed_empty _).declareAll all).1
      rw [← map_name_written, written_refresh, wf.written_withObject, List.map_append,
        map_name_written, List.mem_append]
      by_cases known : .object ∈ declared.entryNames
      · exact .inl known
      · right
        rw [if_neg known]
        exact List.mem_singleton_self _
  | moved _ round ih => rwa [entryNames_setRound]
  | joined _ ok ih =>
      rw [entryNames_register ok]
      exact List.mem_append_left _ ih

/-- Every snapshot that can be made is exact. -/
theorem Reached.exact (reached : snapshot.Reached) : snapshot.Exact where
  nodup := reached.wellFormed.nodup_entryNames
  indexed name position := by
    rw [reached.wellFormed.indexed, entryNames, List.getElem?_map, Option.map_eq_some_iff]
  rooted := reached.object_mem_entryNames
  superclass entry mem := by
    rw [reached.superclass_eq mem]
    exact reached.wellFormed.means_superclassOf entry

/-- **A snapshot is exact after any operations.**  A class is refused exactly when an entry, visible
or not, has its name, and then the snapshot stays as it was. -/
theorem exact_and_refused_iff {types : List TypeDefinition} {options : Options}
    (read : ofTypes types options = .ok snapshot) (operations : List Operation) :
    let after := snapshot.performAll operations
    after.Exact ∧ ∀ base : BaseClass,
      ((after.perform (.register base)).1.isSome ↔ base.name ∈ after.entryNames) ∧
      ∀ fault later, after.perform (.register base) = (some fault, later) →
        later = after ∧ fault = .duplicateOutput base.name.qualified := by
  intro after
  have reached : after.Reached := Reached.performAll (.read read) operations
  refine ⟨reached.exact, fun base => ?_⟩
  by_cases taken : base.name ∈ after.entryNames
  · rw [reached.perform_register_of_mem taken]
    refine ⟨iff_of_true rfl taken, fun fault later refused => ?_⟩
    cases refused
    exact ⟨rfl, rfl⟩
  · have joins := reached.perform_register_of_notMem taken
    refine ⟨iff_of_false (by rw [joins]; exact Bool.false_ne_true) taken, ?_⟩
    intro fault later refused
    rw [refused] at joins
    cases joins

/-- A class that is yet to come, one that extends it, and one without a clause. -/
def successors : List TypeDefinition :=
  [{ name := "foo.Later", kind := .class_, round := 2 },
   { name := "foo.Heir", kind := .class_, extends? := some "foo.Later" },
   { name := "foo.Plain", kind := .class_ }]

/-- A class is generated, and again, in a round where the first one has come; then the rounds begin
anew. -/
def backAndForth : List Operation :=
  [.setRound 2, .register ⟨⟨"foo", "Made", []⟩, ⟨"foo", "Later", []⟩, [], [], [], []⟩,
   .register ⟨⟨"foo", "Made", []⟩, .object, [], [], [], []⟩, .setRound 0]

/-- In the end the name of the generated class is taken, though it is not to be seen, and so it is
refused once more. -/
theorem refused_backAndForth :
    let after := (sample successors).performAll backAndForth
    let made : BaseClass := ⟨⟨"foo", "Made", []⟩, .object, [], [], [], []⟩
    ofTypes successors .standard = .ok (sample successors) ∧
    after.lookup made.name = none ∧ after.Exact ∧
    after.perform (.register made) = (some (.duplicateOutput "foo.Made"), after) := by
  intro after made
  have read : ofTypes successors .standard = .ok (sample successors) :=
    ofTypes_sample (by decide +kernel)
  obtain ⟨exact_, refused⟩ := exact_and_refused_iff read backAndForth
  obtain ⟨refused_iff, same⟩ := refused made
  refine ⟨read, by decide +kernel, exact_, ?_⟩
  obtain ⟨fault, told⟩ := Option.isSome_iff_exists.mp (refused_iff.mpr (by decide +kernel))
  obtain ⟨unchanged, duplicate⟩ := same fault _ (Prod.ext told rfl)
  exact Prod.ext (told.trans (congrArg some duplicate)) unchanged

end Snapshot

end Delegation
