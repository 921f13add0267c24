import Mathlib.Data.List.Nodup
import Std.Data.TreeSet.Lemmas

/-!
# Lists with distinct keys

In a list whose elements have different keys, a key picks out one element, and what a pass over the
list produces under a key is what that element produces.

## Main Statements

* `mem_map_filter_iff` — the keys of a selection.
* `filter_eq_singleton` — the element of a key.
* `filter_flatMap_eq` — what is produced under a key.
* `filter_flatMap_eq_of_perm` — the order of the list does not matter to it.
* `idxOf_lt_idxOf_of_lt` — in a sorted list, what is less comes first.
* `pairwise_idxOf_eraseDups` — without repetitions, elements stay in the order of a list.
* `toList_eq_of_mem_iff` — sorted sets with the same elements list them alike.
-/

namespace Delegation

variable {α β κ : Type}

/-- The key of an element is among the keys of a selection when the element is selected. -/
theorem mem_map_filter_iff {key : α → κ} {l : List α} (nodup : (l.map key).Nodup) {a : α}
    (mem : a ∈ l) (selected : α → Bool) :
    key a ∈ (l.filter selected).map key ↔ selected a := by
  constructor
  · intro listed
    obtain ⟨other, otherListed, same⟩ := List.mem_map.mp listed
    obtain ⟨otherMem, otherSelected⟩ := List.mem_filter.mp otherListed
    rwa [List.inj_on_of_nodup_map nodup otherMem mem same] at otherSelected
  · exact fun chosen => List.mem_map_of_mem (List.mem_filter.mpr ⟨mem, chosen⟩)

variable [DecidableEq κ]

/-- The only element with the key of an element is the element itself. -/
theorem filter_eq_singleton {key : α → κ} {l : List α} (nodup : (l.map key).Nodup) {a : α}
    (mem : a ∈ l) : l.filter (key · = key a) = [a] := by
  induction l with
  | nil => cases mem
  | cons head tail ih =>
      rw [List.map_cons, List.nodup_cons] at nodup
      rcases List.mem_cons.mp mem with rfl | mem
      · rw [List.filter_cons_of_pos (by simp), List.filter_eq_nil_iff.mpr]
        intro other listed
        have different : key other ≠ key a := fun same =>
          nodup.1 (same ▸ List.mem_map_of_mem listed)
        simpa using different
      · have different : key head ≠ key a := fun same =>
          nodup.1 (same ▸ List.mem_map_of_mem mem)
        rw [List.filter_cons_of_neg (by simpa using different)]
        exact ih nodup.2 mem

/-- If every element produces results under its own key only, then the results under a key come from
the elements with the key. -/
theorem filter_flatMap {key : α → κ} {produce : α → List β} {keyOf : β → κ} {l : List α}
    (own : ∀ a ∈ l, ∀ b ∈ produce a, keyOf b = key a) (k : κ) :
    (l.flatMap produce).filter (keyOf · = k) = (l.filter (key · = k)).flatMap produce := by
  induction l with
  | nil => rfl
  | cons head tail ih =>
      have ih := ih fun a mem => own a (List.mem_cons_of_mem _ mem)
      have headOwn := own head List.mem_cons_self
      rw [List.flatMap_cons, List.filter_append, ih]
      by_cases same : key head = k
      · rw [List.filter_cons_of_pos (by simpa using same), List.flatMap_cons,
          List.filter_eq_self.mpr]
        intro b produced
        simpa using (headOwn b produced).trans same
      · rw [List.filter_cons_of_neg (by simpa using same), List.filter_eq_nil_iff.mpr,
          List.nil_append]
        intro b produced
        simpa [headOwn b produced] using same

/-- With distinct keys, the results under the key of an element are its own. -/
theorem filter_flatMap_eq {key : α → κ} {produce : α → List β} {keyOf : β → κ} {l : List α}
    (nodup : (l.map key).Nodup) (own : ∀ a ∈ l, ∀ b ∈ produce a, keyOf b = key a) {a : α}
    (mem : a ∈ l) : (l.flatMap produce).filter (keyOf · = key a) = produce a := by
  rw [filter_flatMap own, filter_eq_singleton nodup mem, List.flatMap_singleton]

/-- The order of a list does not matter to what is produced under one key. -/
theorem filter_flatMap_eq_of_perm {key : α → κ} {produce : α → List β} {keyOf : β → κ}
    {l l' : List α} (perm : l.Perm l') (nodup : (l.map key).Nodup)
    (own : ∀ a ∈ l, ∀ b ∈ produce a, keyOf b = key a) (k : κ) :
    (l.flatMap produce).filter (keyOf · = k) = (l'.flatMap produce).filter (keyOf · = k) := by
  rw [filter_flatMap own, filter_flatMap fun a mem => own a (perm.mem_iff.mpr mem)]
  have selected : (l.filter (key · = k)).Perm (l'.filter (key · = k)) := perm.filter _
  -- One element has the key at most, so there is nothing to permute.
  by_cases found : ∃ a ∈ l, key a = k
  · obtain ⟨a, mem, rfl⟩ := found
    rw [filter_eq_singleton nodup mem] at selected ⊢
    rw [List.perm_singleton.mp selected.symm]
  · have none_selected : l.filter (key · = k) = [] := by
      refine List.filter_eq_nil_iff.mpr fun a mem => ?_
      simpa using fun same => found ⟨a, mem, same⟩
    rw [none_selected] at selected ⊢
    rw [List.perm_nil.mp selected.symm]

/-- In a list that is sorted by a rank, the key of an element of less rank comes first. -/
theorem idxOf_lt_idxOf_of_lt (key : α → κ) {rank : α → Nat} {l : List α}
    (sorted : l.Pairwise fun a b => rank a ≤ rank b) (nodup : (l.map key).Nodup) {a b : α}
    (memA : a ∈ l) (memB : b ∈ l) (lt : rank a < rank b) :
    (l.map key).idxOf (key a) < (l.map key).idxOf (key b) := by
  induction l with
  | nil => cases memA
  | cons head tail ih =>
      obtain ⟨least, sorted⟩ := List.pairwise_cons.mp sorted
      obtain ⟨fresh, nodup⟩ := List.nodup_cons.mp nodup
      have apart : ∀ c ∈ tail, key head ≠ key c := fun c mem same =>
        fresh (same ▸ List.mem_map_of_mem mem)
      rw [List.map_cons]
      rcases List.mem_cons.mp memB with rfl | laterB
      · -- nothing is of less rank than the first element
        rcases List.mem_cons.mp memA with rfl | laterA
        · exact absurd lt (Nat.lt_irrefl _)
        · exact absurd lt (Nat.not_lt.mpr (least a laterA))
      · rw [List.idxOf_cons_ne _ (apart b laterB)]
        rcases List.mem_cons.mp memA with rfl | laterA
        · rw [List.idxOf_cons_self]
          exact Nat.succ_pos _
        · rw [List.idxOf_cons_ne _ (apart a laterA)]
          exact Nat.succ_lt_succ (ih sorted nodup laterA laterB)

/-! ## First occurrences -/

section FirstOccurrences

variable [BEq α] [LawfulBEq α]

/-- What comes first in a selection comes first in the whole. -/
theorem idxOf_lt_of_idxOf_filter_lt {selected : α → Bool} {l : List α} {a b : α}
    (selectedA : selected a) (selectedB : selected b)
    (lt : (l.filter selected).idxOf a < (l.filter selected).idxOf b) : l.idxOf a < l.idxOf b := by
  induction l with
  | nil => cases lt
  | cons head tail ih =>
      by_cases keep : selected head
      · rw [List.filter_cons_of_pos keep] at lt
        have apart : head ≠ b := by
          rintro rfl
          rw [List.idxOf_cons_self] at lt
          cases lt
        rw [List.idxOf_cons_ne _ apart] at lt ⊢
        by_cases same : head = a
        · rw [same, List.idxOf_cons_self]
          exact Nat.succ_pos _
        · rw [List.idxOf_cons_ne _ same] at lt ⊢
          exact Nat.succ_lt_succ (ih (Nat.lt_of_succ_lt_succ lt))
      · rw [List.filter_cons_of_neg keep] at lt
        have apartA : head ≠ a := fun same => keep (same ▸ selectedA)
        have apartB : head ≠ b := fun same => keep (same ▸ selectedB)
        rw [List.idxOf_cons_ne _ apartA, List.idxOf_cons_ne _ apartB]
        exact Nat.succ_lt_succ (ih lt)

/-- Without repetitions, elements stand in the order of their first occurrences. -/
theorem pairwise_idxOf_eraseDups (l : List α) :
    l.eraseDups.Pairwise fun a b => l.idxOf a < l.idxOf b := by
  -- `eraseDups` goes on with a filtered tail, which is shorter but no part of the list.
  induction length : l.length using Nat.strongRecOn generalizing l with
  | _ n ih =>
      cases l with
      | nil => exact List.Pairwise.nil
      | cons head tail =>
          have shorter : (tail.filter fun b => !b == head).length < n := by
            have := List.length_filter_le (fun b => !b == head) tail
            rw [List.length_cons] at length
            omega
          have apart : ∀ b ∈ (tail.filter fun b => !b == head).eraseDups, head ≠ b := by
            intro b mem same
            simp [same] at mem
          rw [List.eraseDups_cons, List.pairwise_cons]
          constructor
          · intro b mem
            rw [List.idxOf_cons_self, List.idxOf_cons_ne _ (apart b mem)]
            exact Nat.succ_pos _
          · refine (ih _ shorter _ rfl).imp_of_mem fun {a b} memA memB lt => ?_
            rw [List.idxOf_cons_ne _ (apart a memA), List.idxOf_cons_ne _ (apart b memB)]
            refine Nat.succ_lt_succ (idxOf_lt_of_idxOf_filter_lt ?_ ?_ lt)
            · simpa using Ne.symm (apart a memA)
            · simpa using Ne.symm (apart b memB)

theorem nodup_eraseDups (l : List α) : l.eraseDups.Nodup := by
  refine (pairwise_idxOf_eraseDups l).imp fun {a b} lt => ?_
  rintro rfl
  exact Nat.lt_irrefl _ lt

end FirstOccurrences

/-- If every element is that of some key, the list is that of a list of keys. -/
theorem exists_map_eq {f : α → β} {holds : α → Prop} {l : List β}
    (each : ∀ b ∈ l, ∃ a, holds a ∧ f a = b) : ∃ l' : List α, l = l'.map f ∧ ∀ a ∈ l', holds a := by
  induction l with
  | nil => exact ⟨[], rfl, nofun⟩
  | cons b rest ih =>
      obtain ⟨⟨a, holdsA, rfl⟩, later⟩ := List.forall_mem_cons.mp each
      obtain ⟨as, rfl, all⟩ := ih later
      exact ⟨a :: as, rfl, List.forall_mem_cons.mpr ⟨holdsA, all⟩⟩

/-- A sorted set lists its elements in their order, however they came in. -/
theorem toList_eq_of_mem_iff {cmp : α → α → Ordering} [Std.TransCmp cmp] [Std.LawfulEqCmp cmp]
    {first second : Std.TreeSet α cmp} (same : ∀ a, a ∈ first ↔ a ∈ second) :
    first.toList = second.toList := by
  apply Std.TreeSet.equiv_iff_toList_eq.mp
  exact Std.TreeSet.equiv_iff_forall_mem_iff.mpr same

end Delegation
