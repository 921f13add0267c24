import Delegation.Proofs.Java.FreshName

/-!
# A supply of names in use

A supply is asked for one thing after the other: to reserve a name, to tell whether a name is in use,
or for a fresh name.  What is in use is what was reserved or given out before and nothing else, so a
name that is given out differs from all of these; and it is the first one that can be used when
underscores are added to the suggestion one by one.  There always is such a name, and it comes after
at most one underscore more than there are names in use.

## Main Definitions

* `NameSupply.Call`, `NameSupply.Answer`, `NameSupply.callAll` — the calls of a supply.
* `NameSupply.Exchange.uses` — a call and its answer put a name to use.
* `NameSupply.Allots` — what a supply gives out for a suggestion.

## Main Statements

* `NameSupply.allots_allocate` — an allocation gives out the first name that can be used.
* `NameSupply.isTaken_callAll` — which names are in use after some calls.
* `NameSupply.allots_after_calls` — what is given out after any calls is new.
-/

namespace Delegation.Java

open Delegation.Text

/-- A suggestion that looks like an identifier, spelled out: what cannot stand in an identifier has
become an underscore, and there is one more in front if there is nothing else or a digit comes
first. -/
theorem toList_sanitise (suggestion : String) :
    let body := suggestion.toList.map fun c => if isNamePart c then c else '_'
    (sanitise suggestion).toList = if body.head?.all isNumeric then '_' :: body else body := by
  unfold sanitise
  generalize suggestion.toList.map (fun c => if isNamePart c then c else '_') = body
  cases body with
  | nil => rfl
  | cons first rest =>
      intro body
      exact String.toList_ofList

namespace NameSupply

variable {supply : NameSupply} {name : String}

/-! ## Calls -/

/-- What a supply can be asked. -/
inductive Call
  /-- Mark a name as used. -/
  | reserve (name : String)
  /-- Tell whether a name is in use. -/
  | isTaken (name : String)
  /-- Give out a fresh name. -/
  | allocate (suggestion : String)
deriving DecidableEq, Repr, Inhabited

/-- What a supply answers. -/
inductive Answer
  /-- Whether a name was free, or whether it is in use. -/
  | flag (holds : Bool)
  /-- A name that is given out. -/
  | name (name : String)
deriving DecidableEq, Repr, Inhabited

/-- Answer a call. -/
def call (supply : NameSupply) : Call → Answer × NameSupply
  | .reserve name => (.flag (supply.reserve name).1, (supply.reserve name).2)
  | .isTaken name => (.flag (supply.isTaken name), supply)
  | .allocate suggestion =>
    (.name (supply.allocate suggestion).1, (supply.allocate suggestion).2)

/-- Answer calls one after the other. -/
def callAll (supply : NameSupply) : List Call → List Answer × NameSupply
  | [] => ([], supply)
  | first :: rest =>
    let (answer, supply) := supply.call first
    let (answers, supply) := supply.callAll rest
    (answer :: answers, supply)

/-- A call with its answer. -/
abbrev Exchange := Call × Answer

/-- A call and its answer put a name to use. -/
def Exchange.uses : Exchange → String → Prop
  | (.reserve name, _), used => used = name
  | (.isTaken _, _), _ => False
  | (.allocate _, .name name), used => used = name
  | (.allocate _, .flag _), _ => False

/-- The calls with their answers. -/
def exchanges (supply : NameSupply) (calls : List Call) : List Exchange :=
  calls.zip (supply.callAll calls).1

/-! ## What is in use -/

theorem isTaken_iff : supply.isTaken name = true ↔ name ∈ supply.taken := List.contains_iff_mem

/-- A reserved name is in use, and what was in use before. -/
theorem isTaken_reserve (supply : NameSupply) (name other : String) :
    (supply.reserve name).2.isTaken other = true ↔ other = name ∨ supply.isTaken other = true := by
  unfold reserve
  split
  · rename_i known
    constructor
    · exact .inr
    · rintro (rfl | used)
      · exact known
      · exact used
  · rw [isTaken_iff, isTaken_iff, List.mem_cons]

/-- A name that was given out is in use, and what was in use before. -/
theorem isTaken_allocate (supply : NameSupply) (suggestion other : String) :
    (supply.allocate suggestion).2.isTaken other = true ↔
      other = (supply.allocate suggestion).1 ∨ supply.isTaken other = true := by
  rw [isTaken_iff, taken_allocate, List.mem_cons, isTaken_iff]

/-- A call puts one name to use at most. -/
theorem isTaken_call (supply : NameSupply) (call : Call) (name : String) :
    (supply.call call).2.isTaken name = true ↔
      Exchange.uses (call, (supply.call call).1) name ∨ supply.isTaken name = true := by
  cases call with
  | reserve reserved => exact supply.isTaken_reserve reserved name
  | isTaken asked => exact (or_iff_right id).symm
  | allocate suggestion => exact supply.isTaken_allocate suggestion name

/-- **In use after some calls is what they put to use**, and what was in use before. -/
theorem isTaken_callAll (supply : NameSupply) (calls : List Call) (name : String) :
    (supply.callAll calls).2.isTaken name = true ↔
      (∃ exchange ∈ supply.exchanges calls, exchange.uses name) ∨ supply.isTaken name = true := by
  induction calls generalizing supply with
  | nil => simp [callAll, exchanges]
  | cons first rest ih =>
      have listed : supply.exchanges (first :: rest) =
          (first, (supply.call first).1) :: (supply.call first).2.exchanges rest := rfl
      show ((supply.call first).2.callAll rest).2.isTaken name = true ↔ _
      rw [ih, isTaken_call, listed, List.exists_mem_cons_iff, or_assoc, or_left_comm]

/-! ## Fresh names -/

/-- What a supply gives out for a suggestion: the suggestion, made to look like an identifier, with the
fewest underscores at its end that make it an identifier not in use. -/
structure Allots (supply : NameSupply) (suggestion name : String) (count : Nat) : Prop where
  underscores : name = underscored (sanitise suggestion) count
  identifier : isIdentifier name = true
  unused : supply.isTaken name = false
  /-- With fewer underscores it is no identifier, or it is in use. -/
  fewest : ∀ fewer < count, isIdentifier (underscored (sanitise suggestion) fewer) = true →
    supply.isTaken (underscored (sanitise suggestion) fewer) = true
  /-- One underscore makes an identifier of a reserved word, and each name in use costs one more. -/
  within : count ≤ supply.taken.length + 1
  /-- The search would not go on if it were allowed more underscores. -/
  ends : ∀ bound > supply.taken.length, supply.settle bound (sanitise suggestion) = name

/-- A free name is an identifier that is not in use. -/
theorem isFree_iff : supply.isFree name = true ↔
    isIdentifier name = true ∧ supply.isTaken name = false := by
  rw [isFree, Bool.and_eq_true, Bool.not_eq_true']

/-- The search stops at the first candidate that is free. -/
theorem settle_eq_of_isFree {stem : String} {count bound : Nat}
    (free : supply.isFree (underscored stem count) = true)
    (skipped : ∀ fewer < count, supply.isFree (underscored stem fewer) = false)
    (within : count ≤ bound) : supply.settle bound stem = underscored stem count := by
  obtain ⟨found, bounded, same, stops, before⟩ := supply.exists_settle_eq bound stem
  rw [same]
  congr 1
  apply Nat.le_antisymm
  · by_contra later
    rw [before count (Nat.lt_of_not_le later)] at free
    cases free
  · by_contra earlier
    -- the search has come to a name that is not free, so it has used up its bound
    rcases stops with free' | last
    · rw [skipped found (Nat.lt_of_not_le earlier)] at free'
      cases free'
    · omega

/-- **An allocation gives out the first name that can be used.** -/
theorem allots_allocate (supply : NameSupply) (suggestion : String) :
    ∃ count, supply.Allots suggestion (supply.allocate suggestion).1 count := by
  obtain ⟨count, within, found, -, skipped⟩ :=
    supply.exists_settle_eq (supply.taken.length + 1) (sanitise suggestion)
  have found : (supply.allocate suggestion).1 = underscored (sanitise suggestion) count := found
  have identifier := supply.isIdentifier_allocate suggestion
  have unused : supply.isTaken (supply.allocate suggestion).1 = false := by
    rw [← Bool.not_eq_true, isTaken_iff]
    exact supply.allocate_notMem suggestion
  have free : supply.isFree (underscored (sanitise suggestion) count) = true :=
    found ▸ isFree_iff.mpr ⟨identifier, unused⟩
  refine ⟨count, found, identifier, unused, ?_, within, ?_⟩
  · intro fewer before identifier
    have notFree := skipped fewer before
    rw [isFree, identifier, Bool.true_and, Bool.not_eq_false'] at notFree
    exact notFree
  · intro bound enough
    rw [found]
    exact settle_eq_of_isFree free skipped (by omega)

/-- **What is given out after any calls is new.**  In use is what was reserved or given out.  To ask
whether a name is in use changes nothing, and to reserve a name changes nothing else.  For every
suggestion a name is given out: it is the suggestion, made to look like an identifier, with the fewest
underscores that make it an identifier not in use; so it was neither reserved nor given out before, and
from then on it is in use, and no other name changes. -/
theorem allots_after_calls (earlier : List Call) :
    let supply := (empty.callAll earlier).2
    (∀ name, supply.isTaken name = true ↔
      ∃ exchange ∈ empty.exchanges earlier, exchange.uses name) ∧
    (∀ name, supply.call (.isTaken name) = (.flag (supply.isTaken name), supply)) ∧
    (∀ name, (supply.call (.reserve name)).1 = .flag (!supply.isTaken name) ∧
      ∀ other, (supply.call (.reserve name)).2.isTaken other = true ↔
        other = name ∨ supply.isTaken other = true) ∧
    ∀ suggestion,
      (let body := suggestion.toList.map fun c => if isNamePart c then c else '_'
       (sanitise suggestion).toList = if body.head?.all isNumeric then '_' :: body else body) ∧
      ∃ name count, (supply.call (.allocate suggestion)).1 = .name name ∧
        supply.Allots suggestion name count ∧
        (∀ exchange ∈ empty.exchanges earlier, ¬ exchange.uses name) ∧
        ∀ other, (supply.call (.allocate suggestion)).2.isTaken other = true ↔
          other = name ∨ supply.isTaken other = true := by
  intro supply
  have used : ∀ name, supply.isTaken name = true ↔
      ∃ exchange ∈ empty.exchanges earlier, exchange.uses name := by
    intro name
    have nothing : ¬ empty.isTaken name = true := by simp [isTaken, empty]
    rw [isTaken_callAll, or_iff_left nothing]
  refine ⟨used, fun name => rfl, fun name => ⟨?_, supply.isTaken_reserve name⟩, ?_⟩
  · show Answer.flag (supply.reserve name).1 = .flag (!supply.isTaken name)
    unfold reserve
    cases supply.isTaken name <;> rfl
  · intro suggestion
    obtain ⟨count, allots⟩ := supply.allots_allocate suggestion
    refine ⟨toList_sanitise suggestion, _, count, rfl, allots, ?_,
      supply.isTaken_allocate suggestion⟩
    intro exchange mem uses
    have taken := (used _).mpr ⟨exchange, mem, uses⟩
    rw [allots.unused] at taken
    cases taken

example : (empty.callAll [.reserve "p", .allocate "p", .allocate "p", .allocate "class",
    .allocate "9-", .isTaken "class_", .reserve "_9_"]).1 =
    [.flag true, .name "p_", .name "p__", .name "class_", .name "_9_", .flag true, .flag false] := by
  decide +kernel

end NameSupply

end Delegation.Java
