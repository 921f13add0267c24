import Delegation.Proofs.Snapshot.Operations
import Delegation.Proofs.Symbol.Growth

/-!
# Snapshots that move forward

A compilation takes its snapshot from round to round and never back, and generated classes join it on
the way.  What has appeared in such a snapshot stays, as it is written; so the symbol table only
grows.

## Main Definitions

* `Snapshot.Advances` — a snapshot becomes another one without going back.

## Main Statements

* `Snapshot.Advances.written_prefix` — what is written stays.
* `Snapshot.Advances.growsTo` — the symbol table grows.
-/

namespace Delegation

open Java

namespace Snapshot

variable {snapshot later : Snapshot}

/-- A snapshot becomes another one by any number of steps: it goes to a round that is not before its
own, or a class is handed to it, which joins or is refused. -/
inductive Advances (snapshot : Snapshot) : Snapshot → Prop
  | refl : Advances snapshot snapshot
  | moved {later : Snapshot} (advances : Advances snapshot later) {round : Nat}
      (onward : later.round ≤ round) : Advances snapshot (later.perform (.setRound round)).2
  | joined {later : Snapshot} (advances : Advances snapshot later) (base : BaseClass) :
      Advances snapshot (later.perform (.register base)).2

/-- A class that is handed to a snapshot adds its entry or nothing, and the round stays. -/
theorem perform_register (snapshot : Snapshot) (base : BaseClass) :
    (snapshot.perform (.register base)).2.round = snapshot.round ∧
      snapshot.written <+: (snapshot.perform (.register base)).2.written := by
  rw [Snapshot.perform, registerAll]
  cases joined : snapshot.register base with
  | error fault => exact ⟨rfl, List.prefix_rfl⟩
  | ok next =>
      refine ⟨round_register joined, ?_⟩
      show snapshot.written <+: next.written
      rw [written_register joined]
      exact List.prefix_append ..

/-- Where all types that have appeared stay and go on to be visible, the symbol table grows. -/
theorem Reached.growsTo_of_visible (reached : snapshot.Reached) (laterReached : later.Reached)
    (kept : ∀ entry ∈ snapshot.written, entry.round ≤ snapshot.round →
      entry ∈ later.written ∧ entry.round ≤ later.round) :
    snapshot.table.GrowsTo later.table := by
  intro name decl found
  obtain ⟨entry, mem, named, appeared, rfl⟩ := reached.lookup_eq_some_iff.mp found
  obtain ⟨stays, appearedLater⟩ := kept entry mem appeared
  exact ⟨later.superclassOf entry,
    laterReached.lookup_eq_some_iff.mpr ⟨entry, stays, named, appearedLater, rfl⟩⟩

namespace Advances

/-- A snapshot that can be made becomes one that can be made. -/
theorem reached (advances : snapshot.Advances later) (reached : snapshot.Reached) :
    later.Reached := by
  induction advances with
  | refl => exact reached
  | moved _ _ ih => exact ih.perform _
  | joined _ base ih => exact ih.perform _

/-- The round does not go back. -/
theorem round_le (advances : snapshot.Advances later) : snapshot.round ≤ later.round := by
  induction advances with
  | refl => exact Nat.le_refl _
  | moved _ onward ih => exact (ih.trans onward).trans (Nat.le_max_left ..)
  | joined _ base ih => exact ih.trans (Nat.le_of_eq (perform_register _ base).1.symm)

/-- What is written stays. -/
theorem written_prefix (advances : snapshot.Advances later) : snapshot.written <+: later.written := by
  induction advances with
  | refl => exact List.prefix_rfl
  | moved _ _ ih => exact ih.trans ((written_setRound _ _).symm ▸ List.prefix_rfl)
  | joined _ base ih => exact ih.trans (perform_register _ base).2

/-- The symbol table grows. -/
theorem growsTo (advances : snapshot.Advances later) (reached : snapshot.Reached) :
    snapshot.table.GrowsTo later.table :=
  reached.growsTo_of_visible (advances.reached reached) fun _ mem appeared =>
    ⟨advances.written_prefix.subset mem, appeared.trans advances.round_le⟩

end Advances

end Snapshot

end Delegation
