import Delegation.Java.FreshName
import Mathlib.Data.List.Nodup
import Mathlib.Data.List.Perm.Subperm

/-!
# Fresh names are fresh

A supply looks for a free name among those that differ from the suggestion in the number of
underscores at the end.  Only the suggestion itself can be a reserved word, so every other candidate
is free or in use; and there is one candidate more than there are names in use.

## Main Definitions

* `underscored` — a name with some underscores at its end.
* `FewestUnderscores` — a name has as few of them as some names in use allow.

## Main Statements

* `NameSupply.fewestUnderscores_allocate` — an allocated name, if the suggestion is no reserved word.
* `NameSupply.allocate_notMem`, `NameSupply.isIdentifier_allocate` — an allocated name is an
  identifier that was not in use.
* `NameSupply.allocateAll_fresh` — neither was any of several, and they are different.
-/

namespace Delegation.Java

open Delegation.Text

/-! ## Candidates -/

/-- A name with some underscores at its end. -/
def underscored (name : String) : Nat → String
  | 0 => name
  | count + 1 => (underscored name count).push '_'

theorem underscored_push (name : String) (count : Nat) :
    underscored (name.push '_') count = underscored name (count + 1) := by
  induction count with
  | zero => rfl
  | succ count ih =>
      show (underscored (name.push '_') count).push '_' = (underscored name (count + 1)).push '_'
      rw [ih]

theorem length_underscored (name : String) (count : Nat) :
    (underscored name count).length = name.length + count := by
  induction count with
  | zero => rfl
  | succ count ih => rw [underscored, String.length_push, ih, Nat.add_assoc]

/-- Candidates with different numbers of underscores are different. -/
theorem underscored_injective (name : String) : Function.Injective (underscored name) := by
  intro first second same
  have lengths := congrArg String.length same
  rw [length_underscored, length_underscored] at lengths
  omega

/-- A name is another one with the fewest underscores at its end that tell it from some names in
use. -/
def FewestUnderscores (stem : String) (used : List String) (name : String) : Prop :=
  ∃ count, name = underscored stem count ∧ name ∉ used ∧
    ∀ fewer < count, underscored stem fewer ∈ used

/-- Making a suggestion look like an identifier does not make it shorter. -/
theorem length_le_length_sanitise (suggestion : String) :
    suggestion.length ≤ (sanitise suggestion).length := by
  have kept : (suggestion.toList.map fun c => if isNamePart c then c else '_').length =
      suggestion.length := by rw [List.length_map, String.length_toList]
  unfold sanitise
  generalize suggestion.toList.map _ = body at kept
  rw [← kept]
  cases body with
  | nil => exact Nat.zero_le _
  | cons first rest =>
      simp only [String.length_ofList]
      split
      · exact Nat.le_succ _
      · exact Nat.le_refl _

/-- What is made to look like an identifier does. -/
theorem isNameShape_sanitise (suggestion : String) :
    isNameShape (sanitise suggestion).toList = true := by
  have parts : ∀ c ∈ suggestion.toList.map (fun c => if isNamePart c then c else '_'),
      isNamePart c = true := by
    intro c mem
    obtain ⟨original, -, rfl⟩ := List.mem_map.mp mem
    split
    · assumption
    · decide
  unfold sanitise
  generalize suggestion.toList.map _ = body at parts
  cases body with
  | nil => decide
  | cons first rest =>
      obtain ⟨firstPart, restParts⟩ := List.forall_mem_cons.mp parts
      simp only [String.toList_ofList]
      split
      · refine isNameShape_eq_true_iff.mpr ⟨'_', first :: rest, rfl, by decide, parts⟩
      · rename_i notNumeric
        refine isNameShape_eq_true_iff.mpr ⟨first, rest, rfl, ?_, restParts⟩
        simpa [isNamePart, isAlphanumeric, isNameStart, notNumeric] using firstPart

/-- Underscores at the end do not change the look of an identifier. -/
theorem isNameShape_underscored {name : String} (shape : isNameShape name.toList = true)
    (count : Nat) : isNameShape (underscored name count).toList = true := by
  induction count with
  | zero => exact shape
  | succ count ih =>
      obtain ⟨first, rest, same, start, parts⟩ := isNameShape_eq_true_iff.mp ih
      refine isNameShape_eq_true_iff.mpr ⟨first, rest ++ ['_'], ?_, start, ?_⟩
      · rw [underscored, String.toList_push, same]
        rfl
      · intro c mem
        rcases List.mem_append.mp mem with before | last
        · exact parts c before
        · rw [List.mem_singleton.mp last]
          decide

/-- With an underscore at its end, what looks like an identifier is one: the only reserved word that
ends in an underscore is the underscore. -/
theorem isIdentifier_underscored {name : String} (shape : isNameShape name.toList = true)
    (count : Nat) : isIdentifier (underscored name (count + 1)) = true := by
  have words : ∀ word ∈ reservedWords, word.toList.getLast? = some '_' → word.length ≤ 1 := by
    decide
  rw [isIdentifier, isNameShape_underscored shape, Bool.true_and, Bool.not_eq_true',
    List.contains_eq_mem, decide_eq_false_iff_not]
  intro reserved
  have ends : (underscored name (count + 1)).toList.getLast? = some '_' := by
    rw [underscored, String.toList_push, List.getLast?_concat]
  have short := words _ reserved ends
  have nonempty : 0 < name.length := by
    obtain ⟨first, rest, same, -, -⟩ := isNameShape_eq_true_iff.mp shape
    rw [← String.length_toList, same]
    exact Nat.succ_pos _
  rw [length_underscored] at short
  omega

namespace NameSupply

/-! ## The search -/

/-- The search ends with the first candidate that is free, or with the last one. -/
theorem exists_settle_eq (supply : NameSupply) (bound : Nat) (name : String) :
    ∃ count ≤ bound, supply.settle bound name = underscored name count ∧
      (supply.isFree (underscored name count) = true ∨ count = bound) ∧
      ∀ earlier < count, supply.isFree (underscored name earlier) = false := by
  induction bound generalizing name with
  | zero => exact ⟨0, Nat.le_refl 0, rfl, .inr rfl, nofun⟩
  | succ bound ih =>
      rw [settle]
      split
      · rename_i free
        exact ⟨0, Nat.zero_le _, rfl, .inl free, nofun⟩
      · rename_i taken
        obtain ⟨count, within, found, stops, skipped⟩ := ih (name.push '_')
        rw [underscored_push] at found stops
        refine ⟨count + 1, Nat.succ_le_succ within, found, stops.imp_right (congrArg _), ?_⟩
        intro earlier before
        cases earlier with
        | zero =>
            show supply.isFree name = false
            simpa using taken
        | succ earlier =>
            rw [← underscored_push]
            exact skipped earlier (Nat.lt_of_succ_lt_succ before)

/-- An allocated name is the first candidate that is free, if there is one. -/
theorem exists_allocate_eq (supply : NameSupply) (suggestion : String) :
    ∃ count, (supply.allocate suggestion).1 = underscored (sanitise suggestion) count ∧
      ∀ fewer < count, supply.isFree (underscored (sanitise suggestion) fewer) = false := by
  obtain ⟨count, -, found, -, skipped⟩ :=
    supply.exists_settle_eq (supply.taken.length + 1) (sanitise suggestion)
  exact ⟨count, found, skipped⟩

/-- **An allocated name was not in use.** -/
theorem allocate_notMem (supply : NameSupply) (suggestion : String) :
    (supply.allocate suggestion).1 ∉ supply.taken := by
  have shape := isNameShape_sanitise suggestion
  obtain ⟨count, -, found, stops, skipped⟩ :=
    supply.exists_settle_eq (supply.taken.length + 1) (sanitise suggestion)
  show supply.settle (supply.taken.length + 1) (sanitise suggestion) ∉ supply.taken
  rw [found]
  intro used
  rcases stops with free | last
  · simp [isFree, isTaken, used] at free
  · -- All candidates with an underscore would be in use, more than there are names in use.
    have all : ∀ more < supply.taken.length + 1,
        underscored (sanitise suggestion) (more + 1) ∈ supply.taken := by
      intro more within
      by_cases final : more + 1 = count
      · rw [final]
        exact used
      · have notFree := skipped (more + 1) (by omega)
        simpa [isFree, isTaken, isIdentifier_underscored shape] using notFree
    have distinct : ((List.range (supply.taken.length + 1)).map fun more =>
        underscored (sanitise suggestion) (more + 1)).Nodup :=
      List.Nodup.map (fun _ _ same => Nat.succ.inj (underscored_injective _ same))
        List.nodup_range
    have among : ((List.range (supply.taken.length + 1)).map fun more =>
        underscored (sanitise suggestion) (more + 1)) ⊆ supply.taken := by
      intro name mem
      obtain ⟨more, within, rfl⟩ := List.mem_map.mp mem
      exact all more (List.mem_range.mp within)
    have counted := (List.subperm_of_subset distinct among).length_le
    rw [List.length_map, List.length_range] at counted
    omega

/-- **An allocated name is an identifier.** -/
theorem isIdentifier_allocate (supply : NameSupply) (suggestion : String) :
    isIdentifier (supply.allocate suggestion).1 = true := by
  obtain ⟨count, -, found, stops, -⟩ :=
    supply.exists_settle_eq (supply.taken.length + 1) (sanitise suggestion)
  show isIdentifier (supply.settle (supply.taken.length + 1) (sanitise suggestion)) = true
  rw [found]
  rcases stops with free | last
  · exact ((Bool.and_eq_true _ _).mp free).1
  · rw [last]
    exact isIdentifier_underscored (isNameShape_sanitise suggestion) _

/-- **An allocated name has the fewest underscores that make it new**, if the suggestion is no reserved
word. -/
theorem fewestUnderscores_allocate (supply : NameSupply) {suggestion : String}
    (unreserved : sanitise suggestion ∉ reservedWords) :
    FewestUnderscores (sanitise suggestion) supply.taken (supply.allocate suggestion).1 := by
  obtain ⟨count, found, skipped⟩ := supply.exists_allocate_eq suggestion
  refine ⟨count, found, supply.allocate_notMem suggestion, fun fewer before => ?_⟩
  have shape := isNameShape_sanitise suggestion
  have identifier : isIdentifier (underscored (sanitise suggestion) fewer) = true := by
    cases fewer with
    | zero => simpa [isIdentifier, underscored, shape] using unreserved
    | succ more => exact isIdentifier_underscored shape more
  simpa [isFree, isTaken, identifier] using skipped fewer before

theorem taken_allocate (supply : NameSupply) (suggestion : String) :
    (supply.allocate suggestion).2.taken = (supply.allocate suggestion).1 :: supply.taken := rfl

/-- **Names that are allocated one after the other were not in use and are different.**  There is one
for each suggestion. -/
theorem allocateAll_fresh (supply : NameSupply) (suggestions : List String) :
    (supply.allocateAll suggestions).1.length = suggestions.length ∧
      (supply.allocateAll suggestions).1.Nodup ∧
      ∀ name ∈ (supply.allocateAll suggestions).1, name ∉ supply.taken := by
  induction suggestions generalizing supply with
  | nil => exact ⟨rfl, List.nodup_nil, nofun⟩
  | cons suggestion rest ih =>
      obtain ⟨length, nodup, fresh⟩ := ih (supply.allocate suggestion).2
      simp only [taken_allocate, List.mem_cons, not_or] at fresh
      refine ⟨congrArg (· + 1) length, ?_, ?_⟩
      · exact List.nodup_cons.mpr ⟨fun again => (fresh _ again).1 rfl, nodup⟩
      · exact List.forall_mem_cons.mpr
          ⟨supply.allocate_notMem suggestion, fun name mem => (fresh name mem).2⟩

/-- All of them are identifiers. -/
theorem isIdentifier_of_mem_allocateAll {supply : NameSupply} {suggestions : List String}
    {name : String} (mem : name ∈ (supply.allocateAll suggestions).1) : isIdentifier name = true := by
  induction suggestions generalizing supply with
  | nil => cases mem
  | cons suggestion rest ih =>
      rcases List.mem_cons.mp mem with rfl | later
      · exact supply.isIdentifier_allocate suggestion
      · exact ih later

/-- What is reserved is in use from then on. -/
theorem mem_taken_reserveAll {supply : NameSupply} {names : List String} {name : String} :
    name ∈ (supply.reserveAll names).taken ↔ name ∈ supply.taken ∨ name ∈ names := by
  induction names generalizing supply with
  | nil => simp [reserveAll]
  | cons first rest ih =>
      have step : name ∈ (supply.reserve first).2.taken ↔ name ∈ supply.taken ∨ name = first := by
        unfold reserve isTaken
        split
        · rename_i known
          have known : first ∈ supply.taken := by simpa using known
          constructor
          · exact .inl
          · rintro (old | rfl)
            · exact old
            · exact known
        · rw [List.mem_cons, or_comm]
      show name ∈ ((supply.reserve first).2.reserveAll rest).taken ↔ _
      rw [ih, step, List.mem_cons, or_assoc]

end NameSupply

end Delegation.Java
