import Delegation.Proofs.Compilation.Rounds
import Mathlib.Data.List.Perm.Basic

/-!
# The order of a snapshot

A snapshot keeps its types in the order of their declaration, but nothing that a name denotes
depends on the order.  Two snapshots with the same entries in any order have one symbol table; they
stay so when both go to a round, and when both are joined by the same classes, again in any order.

## Main Definitions

* `Snapshot.ShowsSame` — two snapshots with the same entries, of which the same have appeared.
* `Snapshot.Alike` — two snapshots with the same entries, in the same round.

## Main Statements

* `Snapshot.ShowsSame.table` — they have the same symbol table.
* `Snapshot.Alike.setRound`, `Snapshot.Alike.registerAll` — they stay alike.
* `Snapshot.exists_alike_of_perm` — types that are declared in another order give a snapshot alike.
-/

namespace Delegation

open Java

namespace Snapshot

variable {first second : Snapshot}

/-! ## Visibility -/

/-- A name is visible when an entry has it and the round of that entry has come. -/
theorem WellFormed.isSome_lookup_iff {snapshot : Snapshot} (wf : snapshot.WellFormed)
    {name : ClassName} : (snapshot.lookup name).isSome ↔
      ∃ entry ∈ snapshot.written, entry.name = name ∧ entry.round ≤ snapshot.round := by
  rw [Option.isSome_iff_exists]
  constructor
  · rintro ⟨decl, found⟩
    obtain ⟨entry, mem, named, appeared, -⟩ := wf.lookup_eq_some_iff.mp found
    exact ⟨entry.written, List.mem_map_of_mem mem, named, appeared⟩
  · rintro ⟨entry, mem, named, appeared⟩
    obtain ⟨original, listed, rfl⟩ := List.mem_map.mp mem
    exact ⟨original.decl, wf.lookup_eq_some_iff.mpr ⟨original, listed, named, appeared, rfl⟩⟩

/-- What a superclass clause means depends on which names are visible, and on nothing else. -/
theorem reread_congr (visible : ∀ name, (first.lookup name).isSome = (second.lookup name).isSome)
    (entry : Entry) : first.reread entry = second.reread entry := by
  have same : first.superclassOf entry = second.superclassOf entry := by
    unfold superclassOf
    simp only [visible]
  rw [reread, reread, same]

/-- In a snapshot that can be made, all superclass clauses have the meaning of the current round. -/
theorem Reached.entries_eq {snapshot : Snapshot} (reached : snapshot.Reached) :
    snapshot.entries.toList = snapshot.written.map snapshot.reread := by
  -- The last thing that every operation does is to read the clauses again.
  have settled : ∀ before : Snapshot, before.WellFormed →
      before.refresh.entries.toList = before.refresh.written.map before.refresh.reread := by
    intro before wf
    have visible : ∀ name, (before.lookup name).isSome = (before.refresh.lookup name).isSome := by
      intro name
      rw [Bool.eq_iff_iff, wf.isSome_lookup_iff, wf.refresh.isSome_lookup_iff, written_refresh]
      rfl
    rw [entries_refresh, written_refresh, written, List.map_map]
    refine List.map_congr_left fun entry _ => ?_
    exact reread_congr visible entry
  cases reached with
  | read ok =>
      obtain ⟨declared, all, same⟩ := bind_eq_ok_iff.mp ok
      cases same
      exact settled _ ((wellFormed_empty _).declareAll all).1.withObject
  | moved reached round =>
      obtain ⟨indexed, proper⟩ := reached.wellFormed
      exact settled _ ⟨indexed, proper⟩
  | @joined _ _ reached base ok =>
      obtain ⟨extended, inserted, rfl⟩ := register_eq_ok_iff.mp ok
      have proper := Entry.proper_ofBase base reached.begun
      exact settled _ (reached.wellFormed.insert proper inserted)

/-! ## Snapshots that show the same -/

/-- Two snapshots show the same: they have the same entries, in any order, and the same of them have
appeared. -/
structure ShowsSame (first second : Snapshot) : Prop where
  reachedFirst : first.Reached
  reachedSecond : second.Reached
  written : first.written.Perm second.written
  appeared : ∀ entry ∈ first.written, entry.round ≤ first.round ↔ entry.round ≤ second.round

namespace ShowsSame

/-- The same names are visible. -/
theorem visible (same : first.ShowsSame second) (name : ClassName) :
    (first.lookup name).isSome = (second.lookup name).isSome := by
  rw [Bool.eq_iff_iff, same.reachedFirst.wellFormed.isSome_lookup_iff,
    same.reachedSecond.wellFormed.isSome_lookup_iff]
  refine exists_congr fun entry => ?_
  rw [← same.written.mem_iff]
  exact and_congr_right fun mem => and_congr_right fun _ => same.appeared entry mem

/-- The entries are the same, the meaning of their clauses included. -/
theorem entries (same : first.ShowsSame second) :
    first.entries.toList.Perm second.entries.toList := by
  rw [same.reachedFirst.entries_eq, same.reachedSecond.entries_eq,
    funext (reread_congr same.visible)]
  exact same.written.map _

/-- A name denotes the same in both. -/
theorem lookup (same : first.ShowsSame second) : first.lookup = second.lookup := by
  funext name
  apply Option.ext
  intro decl
  rw [same.reachedFirst.wellFormed.lookup_eq_some_iff,
    same.reachedSecond.wellFormed.lookup_eq_some_iff]
  refine exists_congr fun entry => ?_
  rw [← same.entries.mem_iff]
  refine and_congr_right fun mem => and_congr_right fun _ => and_congr_left fun _ => ?_
  exact same.appeared entry.written (List.mem_map_of_mem mem)

/-- The names are listed in the same order, which is their own. -/
theorem keys (same : first.ShowsSame second) : first.index.keys = second.index.keys := by
  -- Both lists are sorted, so it is enough that they have the same names.
  have permuted : first.index.keys.Perm second.index.keys := by
    refine (List.perm_ext_iff_of_nodup Std.TreeMap.nodup_keys Std.TreeMap.nodup_keys).mpr ?_
    intro name
    rw [Std.TreeMap.mem_keys, Std.TreeMap.mem_keys,
      same.reachedFirst.wellFormed.mem_index_iff,
      same.reachedSecond.wellFormed.mem_index_iff]
    exact (same.entries.map _).mem_iff
  refine permuted.eq_of_pairwise ?_ Std.TreeMap.ordered_keys Std.TreeMap.ordered_keys
  intro a b _ _ before after
  exact absurd after (Std.OrientedCmp.not_lt_of_lt before)

/-- Snapshots that show the same have the same symbol table. -/
theorem table (same : first.ShowsSame second) : first.table = second.table := by
  show (⟨first.lookup, .object, first.index.keys, _⟩ : SymbolTable) =
    ⟨second.lookup, .object, second.index.keys, _⟩
  congr 1
  · exact same.lookup
  · exact same.keys

end ShowsSame

/-! ## Snapshots that are alike -/

/-- Two snapshots with the same entries, in any order, and in the same round. -/
structure Alike (first second : Snapshot) : Prop where
  reachedFirst : first.Reached
  reachedSecond : second.Reached
  round : first.round = second.round
  written : first.written.Perm second.written

namespace Alike

theorem symm (alike : first.Alike second) : second.Alike first :=
  ⟨alike.reachedSecond, alike.reachedFirst, alike.round.symm, alike.written.symm⟩

/-- Snapshots that are alike show the same. -/
theorem showsSame (alike : first.Alike second) : first.ShowsSame second where
  reachedFirst := alike.reachedFirst
  reachedSecond := alike.reachedSecond
  written := alike.written
  appeared entry _ := by rw [alike.round]

/-- The entries are the same, the meaning of their clauses included. -/
theorem entries (alike : first.Alike second) :
    first.entries.toList.Perm second.entries.toList := alike.showsSame.entries

/-- Snapshots that are alike have the same symbol table. -/
theorem table (alike : first.Alike second) : first.table = second.table := alike.showsSame.table

/-- Snapshots that are alike stay so when both go to a round. -/
theorem setRound (alike : first.Alike second) (round : Nat) :
    (first.setRound round).Alike (second.setRound round) where
  reachedFirst := .moved alike.reachedFirst round
  reachedSecond := .moved alike.reachedSecond round
  round := rfl
  written := by
    rw [written_setRound, written_setRound]
    exact alike.written

/-- Types are still to come in both or in none. -/
theorem hasLaterRounds (alike : first.Alike second) :
    first.hasLaterRounds = second.hasLaterRounds := by
  rw [Snapshot.hasLaterRounds, Snapshot.hasLaterRounds, ← Array.any_toList, ← Array.any_toList,
    alike.round]
  exact alike.entries.any_eq

/-- The same annotated types are new in a round. -/
theorem annotatedIn (alike : first.Alike second) (round : Nat) :
    (first.annotatedIn round).Perm (second.annotatedIn round) :=
  (alike.entries.filter _).map _

end Alike

/-! ## Joining in any order -/

/-- One class joins when its name is new. -/
theorem Reached.exists_register {snapshot : Snapshot} (reached : snapshot.Reached)
    {base : BaseClass} (fresh : base.name ∉ snapshot.entryNames) :
    ∃ extended, snapshot.register base = .ok extended := by
  have absent : (Entry.ofBase base snapshot.round).name ∉ snapshot.index :=
    fun known => fresh (reached.wellFormed.mem_index_iff.mp known)
  exact ⟨_, register_eq_ok_iff.mpr ⟨_, insert_eq_some_iff.mpr ⟨absent, rfl⟩, rfl⟩⟩

theorem entryNames_register {snapshot snapshot' : Snapshot} {base : BaseClass}
    (joined : snapshot.register base = .ok snapshot') :
    snapshot'.entryNames = snapshot.entryNames ++ [base.name] := by
  rw [← map_name_written, written_register joined, List.map_append, map_name_written]
  rfl

/-- Several classes join when their names are new and different. -/
theorem Reached.exists_registerAll {snapshot : Snapshot} (reached : snapshot.Reached)
    {bases : List BaseClass}
    (nodup : (snapshot.entryNames ++ bases.map (·.name)).Nodup) :
    ∃ extended, snapshot.registerAll bases = (none, extended) := by
  induction bases generalizing snapshot with
  | nil => exact ⟨snapshot, rfl⟩
  | cons base rest ih =>
      have fresh : base.name ∉ snapshot.entryNames := fun known =>
        (List.nodup_append.mp nodup).2.2 _ known _ List.mem_cons_self rfl
      obtain ⟨next, joined⟩ := reached.exists_register fresh
      obtain ⟨extended, all⟩ := ih (.joined reached joined) (by
        rw [entryNames_register joined, List.append_assoc]
        exact nodup)
      exact ⟨extended, by rw [registerAll, joined]; exact all⟩

/-- What classes that have joined add to a snapshot. -/
theorem Reached.of_registerAll {snapshot snapshot' : Snapshot} (reached : snapshot.Reached)
    {bases : List BaseClass} (joined : snapshot.registerAll bases = (none, snapshot')) :
    snapshot'.Reached ∧ snapshot'.round = snapshot.round ∧
      snapshot'.written = snapshot.written ++
        bases.map (fun base => (Entry.ofBase base snapshot.round).written) := by
  induction bases generalizing snapshot with
  | nil =>
      cases joined
      exact ⟨reached, rfl, by simp⟩
  | cons base rest ih =>
      rw [registerAll] at joined
      split at joined
      · rename_i next ok
        obtain ⟨reached', round, written⟩ := ih (.joined reached ok) joined
        refine ⟨reached', round.trans (round_register ok), ?_⟩
        rw [written, written_register ok, round_register ok, List.append_assoc]
        rfl
      · cases joined

/-- Snapshots that are alike stay so when the same classes join, in whatever order: where they join
the one, they join the other. -/
theorem Alike.registerAll (alike : first.Alike second) {bases others : List BaseClass}
    (perm : bases.Perm others) {first' : Snapshot}
    (joined : first.registerAll bases = (none, first')) :
    ∃ second', second.registerAll others = (none, second') ∧ first'.Alike second' := by
  obtain ⟨reachedFirst, roundFirst, writtenFirst⟩ := alike.reachedFirst.of_registerAll joined
  have nodup : (second.entryNames ++ others.map (·.name)).Nodup := by
    have names : first'.entryNames = first.entryNames ++ bases.map (·.name) := by
      rw [← map_name_written, writtenFirst, List.map_append, List.map_map, map_name_written]
      rfl
    have before := reachedFirst.wellFormed.nodup_entryNames
    rw [names] at before
    exact ((alike.entries.map Entry.name).append (perm.map _)).nodup_iff.mp before
  obtain ⟨second', joinedSecond⟩ := alike.reachedSecond.exists_registerAll nodup
  obtain ⟨reachedSecond, roundSecond, writtenSecond⟩ :=
    alike.reachedSecond.of_registerAll joinedSecond
  refine ⟨second', joinedSecond, reachedFirst, reachedSecond, ?_, ?_⟩
  · rw [roundFirst, roundSecond, alike.round]
  · rw [writtenFirst, writtenSecond, alike.round]
    exact alike.written.append (perm.map _)

/-! ## Declaring in any order -/

/-- Types that can be read and have new and different names can be declared. -/
theorem WellFormed.exists_declareAll {snapshot : Snapshot} (wf : snapshot.WellFormed)
    {types : List TypeDefinition} {entries : List Entry}
    (read : types.mapM TypeDefinition.toEntry = .ok entries)
    (nodup : (snapshot.entryNames ++ entries.map Entry.name).Nodup) :
    ∃ declared, types.foldlM declare snapshot = .ok declared := by
  have all := mapM_eq_ok_iff.mp read
  clear read
  induction all generalizing snapshot with
  | nil => exact ⟨snapshot, rfl⟩
  | @cons definition entry rest entries ok _ ih =>
      have fresh : entry.name ∉ snapshot.index := by
        rw [wf.mem_index_iff]
        exact fun known => (List.nodup_append.mp nodup).2.2 _ known _ List.mem_cons_self rfl
      have inserted := insert_eq_some_iff.mpr ⟨fresh, rfl⟩
      obtain ⟨declared, more⟩ :=
        ih (wf.insert (TypeDefinition.proper_of_toEntry ok) inserted) (by
          rw [← map_name_written, written_insert inserted, List.map_append, map_name_written,
            List.append_assoc]
          exact nodup)
      refine ⟨declared, ?_⟩
      rw [List.foldlM_cons, bind_eq_ok_iff]
      refine ⟨_, ?_, more⟩
      rw [declare, bind_eq_ok_iff]
      refine ⟨entry, ok, ?_⟩
      rw [inserted]
      rfl

/-- The root class is added to the entries unless it is among them. -/
theorem WellFormed.written_withObject {snapshot : Snapshot} (wf : snapshot.WellFormed) :
    snapshot.withObject.written = snapshot.written ++
      if .object ∈ snapshot.entryNames then [] else [Entry.object.written] := by
  have known_iff : Entry.object.name ∈ snapshot.index ↔ .object ∈ snapshot.entryNames :=
    wf.mem_index_iff
  unfold Snapshot.withObject
  cases inserted : snapshot.insert .object with
  | none =>
      have known : Entry.object.name ∈ snapshot.index := by
        by_contra absent
        rw [insert_eq_some_iff.mpr ⟨absent, rfl⟩] at inserted
        cases inserted
      rw [if_pos (known_iff.mp known), List.append_nil]
      rfl
  | some extended =>
      have absent := (insert_eq_some_iff.mp inserted).1
      rw [if_neg fun known => absent (known_iff.mpr known)]
      exact written_insert inserted

/-- Types that are declared in another order can be read as well, and give a snapshot alike. -/
theorem exists_alike_of_perm {types others : List TypeDefinition} (perm : types.Perm others)
    {options : Options} (read : ofTypes types options = .ok first) :
    ∃ second, ofTypes others options = .ok second ∧ first.Alike second := by
  obtain ⟨declared, all, same⟩ := bind_eq_ok_iff.mp read
  obtain ⟨wf, round, entries, readAll, listed⟩ := (wellFormed_empty options).declareAll all
  -- Each type gives the same entry wherever it stands, so the entries are permuted as well.
  obtain ⟨otherEntries, readOthers, permEntries⟩ :=
    List.perm_comp_forall₂ perm.symm (mapM_eq_ok_iff.mp readAll)
  have nodup : ((empty options).entryNames ++ otherEntries.map Entry.name).Nodup := by
    have names := wf.nodup_entryNames
    rw [entryNames, listed] at names
    exact (permEntries.map Entry.name).nodup_iff.mpr names
  obtain ⟨otherDeclared, otherAll⟩ :=
    (wellFormed_empty options).exists_declareAll (mapM_eq_ok_iff.mpr readOthers) nodup
  obtain ⟨otherWf, otherRound, found, readFound, otherListed⟩ :=
    (wellFormed_empty options).declareAll otherAll
  obtain rfl : found = otherEntries := by
    have both := readFound.symm.trans (mapM_eq_ok_iff.mpr readOthers)
    exact Except.ok.inj both
  have otherRead : ofTypes others options = .ok otherDeclared.withObject.refresh :=
    bind_eq_ok_iff.mpr ⟨otherDeclared, otherAll, rfl⟩
  have written : declared.written.Perm otherDeclared.written := by
    rw [Snapshot.written, Snapshot.written, listed, otherListed]
    exact permEntries.symm.map _
  refine ⟨_, otherRead, .read read, .read otherRead, ?_, ?_⟩
  · cases same
    rw [round_refresh, round_refresh, round_withObject, round_withObject, round, otherRound]
  · cases same
    rw [written_refresh, written_refresh, wf.written_withObject, otherWf.written_withObject]
    have known : .object ∈ declared.entryNames ↔ .object ∈ otherDeclared.entryNames := by
      rw [← map_name_written, ← map_name_written]
      exact (written.map Entry.name).mem_iff
    simp only [known]
    exact written.append_right _

end Snapshot

end Delegation
