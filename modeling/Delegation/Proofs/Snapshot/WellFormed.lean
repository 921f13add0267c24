import Delegation.Proofs.Outcome
import Delegation.Proofs.Symbol.Table
import Delegation.Snapshot
import Mathlib.Data.List.Nodup

/-!
# Well-formed snapshots

A snapshot finds its entries through an index.  Whatever is done to it, the index gives the place of
every entry and of nothing else; so no two entries have one name, and the symbol table of any round
is lawful.  Going to a round and adding classes leave what is written in the entries as it is: only
the meaning of the superclass clauses changes.

## Main Definitions

* `Snapshot.WellFormed` — the index is exact, and the entries are as reading makes them.
* `Snapshot.Reached` — the snapshots that can be made.
* `Snapshot.written`, `Snapshot.entryNames` — the entries without the meaning of their superclass
  clauses, and their names.

## Main Statements

* `Snapshot.Reached.wellFormed` — every snapshot that can be made is well-formed.
* `Snapshot.WellFormed.lookup_eq_some_iff` — what a name denotes in a round.
* `Snapshot.written_register`, `Snapshot.written_setRound` — what is written stays.
-/

namespace Delegation

open Java

/-! ## Entries -/

namespace Entry

/-- The entry without the meaning of its superclass clause. -/
def written (entry : Entry) : Entry :=
  { entry with decl := { entry.decl with superclass := .absent } }

/-- An entry as reading makes it: it does not appear before the first round, and its methods belong
to it. -/
structure Proper (entry : Entry) : Prop where
  appears : 1 ≤ entry.round
  owned : ∀ method ∈ entry.decl.methods, method.owner = entry.name

theorem proper_object : object.Proper where
  appears := Nat.le_refl 1
  owned method mem := by
    simp only [object, objectMethod, List.mem_cons, List.not_mem_nil, or_false] at mem
    rcases mem with rfl | rfl | rfl <;> rfl

theorem proper_ofBase (base : BaseClass) {round : Nat} (begun : 1 ≤ round) :
    (ofBase base round).Proper where
  appears := begun
  owned method mem := by
    obtain ⟨forwarder, -, rfl⟩ := List.mem_map.mp mem
    rfl

end Entry

/-- A method that is read belongs to the type it is read for. -/
theorem Conversion.owner_of_method {owner : ClassName} {kind : TypeKind}
    {definition : MethodDefinition} {result : Method}
    (read : method owner kind definition = .ok result) : result.owner = owner := by
  simp only [method, bind_eq_ok_iff] at read
  obtain ⟨returns, -, parameters, -, throws, -, same⟩ := read
  cases same
  rfl

/-- A definition that is read gives a proper entry. -/
theorem TypeDefinition.proper_of_toEntry {definition : TypeDefinition} {entry : Entry}
    (read : definition.toEntry = .ok entry) : entry.Proper := by
  simp only [toEntry, bind_eq_ok_iff] at read
  obtain ⟨name, -, methods, readMethods, constructors, -, interfaces, -, read⟩ := read
  split at read
  · obtain ⟨_, thrown, -⟩ := bind_eq_ok_iff.mp read
    cases thrown
  · cases read
    constructor
    · exact Nat.le_max_right ..
    · intro method mem
      obtain ⟨source, -, readMethod⟩ := exists_of_mem_mapM readMethods mem
      exact Conversion.owner_of_method readMethod

namespace Snapshot

/-! ## The invariant -/

/-- The index of a snapshot gives the place of every entry under its name and nothing else, and all
entries are proper. -/
structure WellFormed (snapshot : Snapshot) : Prop where
  indexed : ∀ (name : ClassName) (position : Nat), snapshot.index[name]? = some position ↔
    ∃ entry, snapshot.entries.toList[position]? = some entry ∧ entry.name = name
  proper : ∀ entry ∈ snapshot.entries.toList, entry.Proper

/-- The snapshots that can be made: read from definitions, moved to any round, and extended by
generated classes. -/
inductive Reached : Snapshot → Prop
  | read {types : List TypeDefinition} {options : Options} {snapshot : Snapshot}
      (ok : ofTypes types options = .ok snapshot) : Reached snapshot
  | moved {snapshot : Snapshot} (reached : Reached snapshot) (round : Nat) :
      Reached (snapshot.setRound round)
  | joined {snapshot snapshot' : Snapshot} (reached : Reached snapshot) {base : BaseClass}
      (ok : snapshot.register base = .ok snapshot') : Reached snapshot'

/-- What is written in the entries, in order. -/
def written (snapshot : Snapshot) : List Entry := snapshot.entries.toList.map Entry.written

/-- The names of the entries, in order. -/
def entryNames (snapshot : Snapshot) : List ClassName := snapshot.entries.toList.map Entry.name

/-! ## Reading clauses again -/

/-- An entry with the meaning that its superclass clause has in the current round. -/
def reread (snapshot : Snapshot) (entry : Entry) : Entry :=
  { entry with decl := { entry.decl with superclass := snapshot.superclassOf entry } }

theorem entries_refresh (snapshot : Snapshot) :
    snapshot.refresh.entries.toList = snapshot.entries.toList.map snapshot.reread := by
  simp [refresh, reread]

@[simp] theorem round_refresh (snapshot : Snapshot) : snapshot.refresh.round = snapshot.round := rfl

@[simp] theorem index_refresh (snapshot : Snapshot) : snapshot.refresh.index = snapshot.index := rfl

/-- Reading the superclass clauses again leaves what is written. -/
@[simp] theorem written_refresh (snapshot : Snapshot) :
    snapshot.refresh.written = snapshot.written := by
  rw [written, entries_refresh, List.map_map]
  rfl

/-- Going to a round leaves what is written. -/
@[simp] theorem written_setRound (snapshot : Snapshot) (round : Nat) :
    (snapshot.setRound round).written = snapshot.written := written_refresh _

@[simp] theorem round_setRound (snapshot : Snapshot) (round : Nat) :
    (snapshot.setRound round).round = max round 1 := rfl

theorem map_name_written (snapshot : Snapshot) :
    snapshot.written.map Entry.name = snapshot.entryNames := by
  rw [written, List.map_map]
  rfl

/-- Going to a round leaves the names of the entries. -/
@[simp] theorem entryNames_setRound (snapshot : Snapshot) (round : Nat) :
    (snapshot.setRound round).entryNames = snapshot.entryNames := by
  rw [← map_name_written, written_setRound, map_name_written]

/-! ## Adding entries -/

/-- An entry whose name is new is added at the end. -/
theorem insert_eq_some_iff {snapshot snapshot' : Snapshot} {entry : Entry} :
    snapshot.insert entry = some snapshot' ↔
      entry.name ∉ snapshot.index ∧ snapshot' = { snapshot with
        entries := snapshot.entries.push entry
        index := snapshot.index.insert entry.name snapshot.entries.size } := by
  unfold insert
  split
  · rename_i known
    rw [← Std.TreeMap.mem_iff_contains] at known
    simp [known]
  · rename_i fresh
    rw [← Std.TreeMap.mem_iff_contains] at fresh
    simp [fresh, eq_comm]

theorem register_eq_ok_iff {snapshot snapshot' : Snapshot} {base : BaseClass} :
    snapshot.register base = .ok snapshot' ↔
      ∃ extended, snapshot.insert (.ofBase base snapshot.round) = some extended ∧
        snapshot' = extended.refresh := by
  unfold register
  cases inserted : snapshot.insert (.ofBase base snapshot.round) with
  | none => simp
  | some extended => simp [eq_comm]

/-- A class that is kept from joining is one whose name is taken. -/
theorem fault_of_register {snapshot : Snapshot} {base : BaseClass} {fault : Fault}
    (rejected : snapshot.register base = .error fault) :
    fault = .duplicateOutput base.name.qualified := by
  rw [register] at rejected
  split at rejected
  · cases rejected
  · cases rejected
    rfl

theorem written_insert {snapshot snapshot' : Snapshot} {entry : Entry}
    (inserted : snapshot.insert entry = some snapshot') :
    snapshot'.written = snapshot.written ++ [entry.written] := by
  obtain ⟨-, rfl⟩ := insert_eq_some_iff.mp inserted
  simp [written]

/-- A generated class joins at the end, in the current round. -/
theorem written_register {snapshot snapshot' : Snapshot} {base : BaseClass}
    (joined : snapshot.register base = .ok snapshot') :
    snapshot'.written = snapshot.written ++ [(Entry.ofBase base snapshot.round).written] := by
  obtain ⟨extended, inserted, rfl⟩ := register_eq_ok_iff.mp joined
  rw [written_refresh, written_insert inserted]

theorem round_register {snapshot snapshot' : Snapshot} {base : BaseClass}
    (joined : snapshot.register base = .ok snapshot') : snapshot'.round = snapshot.round := by
  obtain ⟨extended, inserted, rfl⟩ := register_eq_ok_iff.mp joined
  obtain ⟨-, rfl⟩ := insert_eq_some_iff.mp inserted
  rfl

/-! ## What keeps a snapshot well-formed -/

theorem wellFormed_empty (options : Options) : (empty options).WellFormed where
  indexed := by simp [empty]
  proper := by simp [empty]

namespace WellFormed

variable {snapshot snapshot' : Snapshot}

/-- The index has the names of the entries. -/
theorem mem_index_iff (wf : snapshot.WellFormed) {name : ClassName} :
    name ∈ snapshot.index ↔ name ∈ snapshot.entryNames := by
  rw [Std.TreeMap.mem_iff_isSome_getElem?, Option.isSome_iff_exists, entryNames, List.mem_map]
  constructor
  · rintro ⟨position, found⟩
    obtain ⟨entry, placed, same⟩ := (wf.indexed name position).mp found
    exact ⟨entry, List.mem_of_getElem? placed, same⟩
  · rintro ⟨entry, mem, same⟩
    obtain ⟨position, placed⟩ := List.mem_iff_getElem?.mp mem
    exact ⟨position, (wf.indexed name position).mpr ⟨entry, placed, same⟩⟩

/-- Reading the superclass clauses again moves no entry. -/
theorem refresh (wf : snapshot.WellFormed) : snapshot.refresh.WellFormed where
  indexed name position := by
    rw [index_refresh, wf.indexed, entries_refresh]
    simp only [List.getElem?_map, Option.map_eq_some_iff]
    constructor
    · rintro ⟨entry, placed, same⟩
      exact ⟨_, ⟨entry, placed, rfl⟩, same⟩
    · rintro ⟨_, ⟨entry, placed, rfl⟩, same⟩
      exact ⟨entry, placed, same⟩
  proper entry mem := by
    rw [entries_refresh] at mem
    obtain ⟨original, listed, rfl⟩ := List.mem_map.mp mem
    obtain ⟨appears, owned⟩ := wf.proper original listed
    exact ⟨appears, owned⟩

/-- Going to a round moves no entry. -/
theorem setRound (wf : snapshot.WellFormed) (round : Nat) : (snapshot.setRound round).WellFormed :=
  refresh ⟨wf.indexed, wf.proper⟩

/-- Adding an entry keeps a snapshot well-formed. -/
theorem insert (wf : snapshot.WellFormed) {entry : Entry} (proper : entry.Proper)
    (inserted : snapshot.insert entry = some snapshot') : snapshot'.WellFormed := by
  obtain ⟨fresh, rfl⟩ := insert_eq_some_iff.mp inserted
  constructor
  · intro name position
    simp only [Array.toList_push, Std.TreeMap.getElem?_insert,
      Std.LawfulEqCmp.compare_eq_iff_eq]
    split
    · rename_i same
      subst same
      constructor
      · intro last
        cases last
        exact ⟨entry, by simp, rfl⟩
      · rintro ⟨other, placed, same⟩
        rw [List.getElem?_append] at placed
        split at placed
        · -- An old entry of the name would be in the index already.
          have mem := List.mem_map_of_mem (f := Entry.name) (List.mem_of_getElem? placed)
          rw [same] at mem
          exact absurd (wf.mem_index_iff.mpr mem) fresh
        · obtain ⟨only, -⟩ := List.getElem?_eq_some_iff.mp placed
          simp only [Array.length_toList, List.length_singleton] at only
          congr 1
          simp only [Array.length_toList] at *
          omega
    · rename_i different
      rw [wf.indexed]
      constructor
      · rintro ⟨other, placed, same⟩
        exact ⟨other, by rw [List.getElem?_append_left (List.getElem?_eq_some_iff.mp placed).1,
          placed], same⟩
      · rintro ⟨other, placed, same⟩
        rw [List.getElem?_append] at placed
        split at placed
        · exact ⟨other, placed, same⟩
        · obtain rfl := List.mem_singleton.mp (List.mem_of_getElem? placed)
          exact absurd same different
  · intro other mem
    rw [Array.toList_push, List.mem_append, List.mem_singleton] at mem
    rcases mem with mem | rfl
    · exact wf.proper other mem
    · exact proper

/-- A generated class joins in the current round, which must have begun. -/
theorem register (wf : snapshot.WellFormed) (begun : 1 ≤ snapshot.round) {base : BaseClass}
    (joined : snapshot.register base = .ok snapshot') : snapshot'.WellFormed := by
  obtain ⟨extended, inserted, rfl⟩ := register_eq_ok_iff.mp joined
  exact (wf.insert (Entry.proper_ofBase base begun) inserted).refresh

/-- Declaring types keeps a snapshot well-formed and adds the entries that are read, in order. -/
theorem declareAll (wf : snapshot.WellFormed) {types : List TypeDefinition}
    (declared : types.foldlM declare snapshot = .ok snapshot') :
    snapshot'.WellFormed ∧ snapshot'.round = snapshot.round ∧
      ∃ entries, types.mapM TypeDefinition.toEntry = .ok entries ∧
        snapshot'.entries.toList = snapshot.entries.toList ++ entries := by
  induction types generalizing snapshot with
  | nil =>
      cases declared
      exact ⟨wf, rfl, [], rfl, by simp⟩
  | cons definition rest ih =>
      rw [List.foldlM_cons, bind_eq_ok_iff] at declared
      obtain ⟨mid, first, declared⟩ := declared
      simp only [declare, bind_eq_ok_iff] at first
      obtain ⟨entry, read, first⟩ := first
      split at first
      · rename_i extended inserted
        cases first
        obtain ⟨wf', round, entries, readRest, added⟩ :=
          ih (wf.insert (TypeDefinition.proper_of_toEntry read) inserted) declared
        obtain ⟨-, rfl⟩ := insert_eq_some_iff.mp inserted
        refine ⟨wf', round, entry :: entries, ?_, by simpa using added⟩
        exact mapM_eq_ok_iff.mpr (.cons read (mapM_eq_ok_iff.mp readRest))
      · cases first

/-- Adding the root class keeps a snapshot well-formed. -/
theorem withObject (wf : snapshot.WellFormed) : snapshot.withObject.WellFormed := by
  unfold Snapshot.withObject
  cases inserted : snapshot.insert .object with
  | none => exact wf
  | some extended => exact wf.insert Entry.proper_object inserted

end WellFormed

theorem round_withObject (snapshot : Snapshot) : snapshot.withObject.round = snapshot.round := by
  unfold withObject
  cases inserted : snapshot.insert .object with
  | none => rfl
  | some extended =>
      obtain ⟨-, rfl⟩ := insert_eq_some_iff.mp inserted
      rfl

namespace Reached

/-- In every snapshot that can be made, the first round has begun. -/
theorem begun {snapshot : Snapshot} (reached : snapshot.Reached) : 1 ≤ snapshot.round := by
  induction reached with
  | read ok =>
      obtain ⟨declared, all, same⟩ := bind_eq_ok_iff.mp ok
      cases same
      obtain ⟨-, round, -⟩ := (wellFormed_empty _).declareAll all
      rw [round_refresh, round_withObject, round]
      exact Nat.le_refl 1
  | moved _ round _ => exact Nat.le_max_right ..
  | joined _ ok ih => exact (round_register ok).symm ▸ ih

/-- Every snapshot that can be made is well-formed. -/
theorem wellFormed {snapshot : Snapshot} (reached : snapshot.Reached) : snapshot.WellFormed := by
  induction reached with
  | read ok =>
      obtain ⟨declared, all, same⟩ := bind_eq_ok_iff.mp ok
      cases same
      exact ((wellFormed_empty _).declareAll all).1.withObject.refresh
  | moved _ round ih => exact ih.setRound round
  | joined reached ok ih => exact ih.register reached.begun ok

end Reached

/-- The snapshot of some types, if they can be read. -/
def sample (types : List TypeDefinition) : Snapshot :=
  (ofTypes types .standard).toOption.getD (empty .standard)

theorem ofTypes_sample {types : List TypeDefinition}
    (readable : (ofTypes types .standard).toOption.isSome) :
    ofTypes types .standard = .ok (sample types) := by
  unfold sample
  cases read : ofTypes types .standard with
  | error fault => simp [read, Except.toOption] at readable
  | ok snapshot => rfl

/-! ## What names denote -/

namespace WellFormed

variable {snapshot : Snapshot}

/-- No two entries have one name. -/
theorem nodup_entryNames (wf : snapshot.WellFormed) : snapshot.entryNames.Nodup := by
  rw [entryNames, List.Nodup, List.pairwise_map, List.pairwise_iff_getElem]
  intro first second firstWithin secondWithin before same
  have atFirst := (wf.indexed _ first).mpr ⟨_, List.getElem?_eq_getElem firstWithin, same⟩
  have atSecond := (wf.indexed _ second).mpr ⟨_, List.getElem?_eq_getElem secondWithin, rfl⟩
  rw [atFirst] at atSecond
  cases atSecond
  exact absurd before (Nat.lt_irrefl _)

/-- The entry of a name is the one that has the name. -/
theorem entry?_eq_some_iff (wf : snapshot.WellFormed) {name : ClassName} {entry : Entry} :
    snapshot.entry? name = some entry ↔ entry ∈ snapshot.entries.toList ∧ entry.name = name := by
  simp only [Option.bind_eq_some_iff, entry?, wf.indexed, ← Array.getElem?_toList]
  constructor
  · rintro ⟨position, ⟨other, placed, same⟩, found⟩
    rw [placed] at found
    cases found
    exact ⟨List.mem_of_getElem? placed, same⟩
  · rintro ⟨mem, same⟩
    obtain ⟨position, placed⟩ := List.mem_iff_getElem?.mp mem
    exact ⟨position, ⟨entry, placed, same⟩, placed⟩

/-- A name denotes the declaration of the entry that has the name, once its round has come. -/
theorem lookup_eq_some_iff (wf : snapshot.WellFormed) {name : ClassName} {decl : TypeDecl} :
    snapshot.lookup name = some decl ↔
      ∃ entry ∈ snapshot.entries.toList, entry.name = name ∧ entry.round ≤ snapshot.round ∧
        entry.decl = decl := by
  simp only [lookup, Option.map_eq_some_iff, Option.filter_eq_some_iff, wf.entry?_eq_some_iff,
    isVisible, decide_eq_true_eq]
  constructor
  · rintro ⟨entry, ⟨⟨mem, named⟩, visible⟩, same⟩
    exact ⟨entry, mem, named, visible, same⟩
  · rintro ⟨entry, mem, named, visible, same⟩
    exact ⟨entry, ⟨⟨mem, named⟩, visible⟩, same⟩

/-- The symbol table of a round finds every declaration under its own name. -/
theorem lawful (wf : snapshot.WellFormed) : snapshot.table.Lawful := by
  intro name decl found
  obtain ⟨entry, -, named, -, rfl⟩ := wf.lookup_eq_some_iff.mp found
  exact named

/-- The methods of a visible declaration belong to it. -/
theorem owner_of_lookup (wf : snapshot.WellFormed) {name : ClassName} {decl : TypeDecl}
    (found : snapshot.table.lookup name = some decl) {method : Method}
    (mem : method ∈ decl.methods) : method.owner = name := by
  obtain ⟨entry, listed, named, -, rfl⟩ := wf.lookup_eq_some_iff.mp found
  exact ((wf.proper entry listed).owned method mem).trans named

end WellFormed

end Snapshot

end Delegation
