import Delegation.Proofs.Judgement
import Delegation.Proofs.Outcome
import Delegation.Proofs.Symbol.Reach
import Mathlib.Data.List.Nodup

/-!
# What is gathered from the delegates

Every delegate presents some methods: the members of its interface that can be forwarded.  Gathering
goes through the delegates in their order and forwards each signature to the first delegate that
presents it.

## Main Definitions

* `Presents` — a delegate presents a method.
* `Forwarder.signature` — the signature of a forwarding method.

## Main Statements

* `Synthesis.nodup_signatures_of_synthesise` — no signature is forwarded twice.
* `Synthesis.mem_methods_of_synthesise_iff` — a signature is forwarded to the first delegate that
  presents it.
-/

namespace Delegation

open Java Synthesis

/-- The signature of a forwarding method. -/
def Forwarder.signature (method : Forwarder) : Signature :=
  ⟨method.name, method.parameters.map (·.type.text)⟩

@[simp] theorem signature_forward (field : String) (method : Method) :
    (forward field method).signature = method.signature := rfl

/-! ## One method after the other -/

namespace Synthesis

namespace Gathering

/-- The signatures that have an owner are those that are forwarded, each once. -/
structure Exact (gathering : Gathering) : Prop where
  owned : gathering.owners.map (·.1) = gathering.methods.map Forwarder.signature
  nodup : (gathering.methods.map Forwarder.signature).Nodup

theorem exact_empty : empty.Exact := ⟨rfl, List.nodup_nil⟩

/-- A signature is forwarded already when it has an owner. -/
theorem Exact.mem_signatures_iff {gathering : Gathering} (exact : gathering.Exact)
    {signature : Signature} : signature ∈ gathering.methods.map Forwarder.signature ↔
      (gathering.owners.lookup signature).isSome := by
  rw [← exact.owned, List.mem_map, List.lookup_isSome_iff]
  simp

/-- A method whose signature is forwarded already changes no forwarding method. -/
theorem Exact.methods_add_of_mem {gathering : Gathering} (exact : gathering.Exact)
    (delegate : Delegate) {method : Method}
    (known : method.signature ∈ gathering.methods.map Forwarder.signature) :
    (gathering.add delegate method).methods = gathering.methods ∧
      (gathering.add delegate method).owners = gathering.owners := by
  obtain ⟨chosen, owned⟩ := Option.isSome_iff_exists.mp (exact.mem_signatures_iff.mp known)
  simp [add, owned]

/-- A method with a new signature is forwarded. -/
theorem Exact.methods_add_of_notMem {gathering : Gathering} (exact : gathering.Exact)
    (delegate : Delegate) {method : Method}
    (fresh : method.signature ∉ gathering.methods.map Forwarder.signature) :
    (gathering.add delegate method).methods =
        gathering.methods ++ [forward delegate.field method] ∧
      (gathering.add delegate method).owners =
        gathering.owners ++ [(method.signature, delegate.interface)] := by
  rw [exact.mem_signatures_iff, Bool.not_eq_true, Option.isSome_eq_false_iff,
    Option.isNone_iff_eq_none] at fresh
  simp [add, fresh]

theorem Exact.add {gathering : Gathering} (exact : gathering.Exact) (delegate : Delegate)
    (method : Method) : (gathering.add delegate method).Exact := by
  by_cases known : method.signature ∈ gathering.methods.map Forwarder.signature
  · obtain ⟨methods, owners⟩ := exact.methods_add_of_mem delegate known
    exact ⟨by rw [methods, owners, exact.owned], methods ▸ exact.nodup⟩
  · obtain ⟨methods, owners⟩ := exact.methods_add_of_notMem delegate known
    constructor
    · simp [methods, owners, exact.owned]
    · rw [methods, List.map_append, List.nodup_append]
      refine ⟨exact.nodup, List.nodup_singleton _, ?_⟩
      rintro signature mem other last rfl
      rw [List.map_singleton, List.mem_singleton, signature_forward] at last
      exact known (last ▸ mem)

/-- Add the methods of several delegates. -/
def addOffers (gathering : Gathering) (offers : List (Delegate × Method)) : Gathering :=
  offers.foldl (fun gathering offer => gathering.add offer.1 offer.2) gathering

theorem Exact.addOffers {gathering : Gathering} (exact : gathering.Exact)
    (offers : List (Delegate × Method)) : (gathering.addOffers offers).Exact := by
  induction offers generalizing gathering with
  | nil => exact exact
  | cons offer rest ih => exact ih (exact.add offer.1 offer.2)

/-- After some methods were added, a new signature is forwarded to the first that has it. -/
theorem Exact.mem_methods_addOffers_iff {gathering : Gathering} (exact : gathering.Exact)
    {offers : List (Delegate × Method)} {forwarder : Forwarder} :
    forwarder ∈ (gathering.addOffers offers).methods ↔ forwarder ∈ gathering.methods ∨
      forwarder.signature ∉ gathering.methods.map Forwarder.signature ∧
        ∃ offer, offers.find? (·.2.signature = forwarder.signature) = some offer ∧
          forwarder = forward offer.1.field offer.2 := by
  induction offers generalizing gathering with
  | nil => simp [Gathering.addOffers]
  | cons offer rest ih =>
      obtain ⟨delegate, method⟩ := offer
      have step := ih (exact.add delegate method)
      rw [show gathering.addOffers ((delegate, method) :: rest) =
        (gathering.add delegate method).addOffers rest from rfl, step, List.find?_cons]
      by_cases known : method.signature ∈ gathering.methods.map Forwarder.signature
      -- Nothing is added, and the offer is not the first of a new signature either.
      · rw [(exact.methods_add_of_mem delegate known).1]
        refine or_congr_right (and_congr_right fun fresh => ?_)
        have different : method.signature ≠ forwarder.signature := by
          rintro same
          exact fresh (same ▸ known)
        simp [different]
      · rw [(exact.methods_add_of_notMem delegate known).1]
        by_cases same : method.signature = forwarder.signature
        · rw [same] at known
          simp [same, known]
        · have different : forwarder ≠ forward delegate.field method := by
            rintro rfl
            exact same rfl
          simp [same, different, Ne.symm same]

end Gathering

end Synthesis

/-! ## What delegates present -/

/-- A delegate presents a method when the method is the first declaration of its signature along the
lineage of the delegate's interface, and can be forwarded. -/
def Presents (table : SymbolTable) (delegate : Delegate) (method : Method) : Prop :=
  ∃ decl, table.lookup delegate.interface = some decl ∧
    (table.declared decl).find? (·.signature = method.signature) = some method ∧
    isForwardable table.root method

namespace Synthesis

variable {table : SymbolTable}

/-- The methods that a delegate presents, in the order of the lineage. -/
def presented (table : SymbolTable) (delegate : Delegate) : List Method :=
  ((table.lookup delegate.interface).map (forwardable table)).getD []

theorem mem_presented_iff {delegate : Delegate} {method : Method} :
    method ∈ presented table delegate ↔ Presents table delegate method := by
  unfold presented Presents
  cases found : table.lookup delegate.interface with
  | none => simp
  | some decl => simp [forwardable, SymbolTable.mem_members_iff]

/-- A delegate presents one method of a signature at most. -/
theorem Presents.unique {delegate : Delegate} {first second : Method}
    (atFirst : Presents table delegate first) (atSecond : Presents table delegate second)
    (same : first.signature = second.signature) : first = second := by
  obtain ⟨decl, found, isFirst, -⟩ := atFirst
  obtain ⟨other, foundOther, isSecond, -⟩ := atSecond
  rw [found] at foundOther
  cases foundOther
  rw [same, isSecond] at isFirst
  exact (Option.some.inj isFirst).symm

/-- What is presented is found by its signature. -/
theorem find?_presented_eq_some_iff {delegate : Delegate} {signature : Signature}
    {method : Method} : (presented table delegate).find? (·.signature = signature) = some method ↔
      Presents table delegate method ∧ method.signature = signature := by
  constructor
  · intro found
    exact ⟨mem_presented_iff.mp (List.mem_of_find?_eq_some found),
      by simpa using List.find?_some found⟩
  · rintro ⟨presents, rfl⟩
    cases found : (presented table delegate).find? (·.signature = method.signature) with
    | none =>
        rw [List.find?_eq_none] at found
        exact absurd (decide_eq_true rfl) (found method (mem_presented_iff.mpr presents))
    | some other =>
        have same : other.signature = method.signature := by simpa using List.find?_some found
        have mem := mem_presented_iff.mp (List.mem_of_find?_eq_some found)
        rw [Presents.unique mem presents same]

/-- The methods that the delegates present, in the order in which they are gathered. -/
def offers (table : SymbolTable) (delegates : List Delegate) : List (Delegate × Method) :=
  delegates.flatMap fun delegate => (presented table delegate).map (delegate, ·)

/-- A signature is first presented by a delegate when no earlier delegate presents it. -/
theorem find?_offers_eq_some_iff {delegates : List Delegate} {signature : Signature}
    {delegate : Delegate} {method : Method} :
    (offers table delegates).find? (·.2.signature = signature) = some (delegate, method) ↔
      Presents table delegate method ∧ method.signature = signature ∧
        ∃ earlier later, delegates = earlier ++ delegate :: later ∧
          ∀ other ∈ earlier, ∀ hidden, Presents table other hidden →
            hidden.signature ≠ signature := by
  have none_iff : ∀ other : Delegate,
      (((presented table other).map (other, ·)).find? (·.2.signature = signature) = none ↔
        ∀ hidden, Presents table other hidden → hidden.signature ≠ signature) := by
    intro other
    simp [List.find?_eq_none, mem_presented_iff]
  have some_iff : ∀ other : Delegate,
      (((presented table other).map (other, ·)).find? (·.2.signature = signature) =
        some (delegate, method) ↔
          other = delegate ∧ Presents table delegate method ∧ method.signature = signature) := by
    intro other
    rw [List.find?_map, Option.map_eq_some_iff]
    constructor
    · rintro ⟨found, atFound, same⟩
      cases same
      exact ⟨rfl, find?_presented_eq_some_iff.mp atFound⟩
    · rintro ⟨rfl, found⟩
      exact ⟨method, find?_presented_eq_some_iff.mpr found, rfl⟩
  rw [offers, List.find?_flatMap, List.findSome?_eq_some_iff]
  simp only [none_iff, some_iff]
  constructor
  · rintro ⟨earlier, _, later, split, ⟨rfl, presents, same⟩, notBefore⟩
    exact ⟨presents, same, earlier, later, split, notBefore⟩
  · rintro ⟨presents, same, earlier, later, split, notBefore⟩
    exact ⟨earlier, delegate, later, split, ⟨rfl, presents, same⟩, notBefore⟩

/-! ## Gathering -/

/-- Gathering adds what the delegates present. -/
theorem gather_zip {delegates : List Delegate} {decls : List TypeDecl}
    (read : delegates.mapM (delegateDecl table) = .ok decls) :
    gather table (delegates.zip decls) = Gathering.empty.addOffers (offers table delegates) := by
  -- The fold is over the pairs, while the offers go through the delegates: both follow `all`.
  have all := mapM_eq_ok_iff.mp read
  clear read
  unfold gather
  generalize Gathering.empty = gathering
  induction all generalizing gathering with
  | nil => rfl
  | @cons delegate decl delegates decls ok _ ih =>
      have here : gathering.addAll delegate (forwardable table decl) =
          gathering.addOffers ((presented table delegate).map (delegate, ·)) := by
        simp [Gathering.addAll, Gathering.addOffers, presented, (delegateDecl_eq_ok_iff.mp ok).1,
          List.foldl_map]
      rw [List.zip_cons_cons, List.foldl_cons, ih]
      show (gathering.addAll delegate (forwardable table decl)).addOffers _ = _
      rw [here]
      simp [Gathering.addOffers, offers]

variable {plan : Plan} {result : Synthesised}

/-- The methods of a base class are what is gathered from the delegates. -/
theorem methods_of_synthesise (ok : synthesise table plan = .ok result) :
    result.base.methods = (Gathering.empty.addOffers (offers table plan.delegates)).methods := by
  obtain ⟨decls, superclass, read, -, rfl⟩ := synthesise_eq_ok_iff.mp ok
  rw [← gather_zip read]
  rfl

/-- No signature is forwarded twice. -/
theorem nodup_signatures_of_synthesise (ok : synthesise table plan = .ok result) :
    (result.base.methods.map Forwarder.signature).Nodup := by
  rw [methods_of_synthesise ok]
  exact (Gathering.exact_empty.addOffers _).nodup

/-- A signature is forwarded to the first delegate that presents it. -/
theorem mem_methods_of_synthesise_iff (ok : synthesise table plan = .ok result)
    {forwarder : Forwarder} :
    forwarder ∈ result.base.methods ↔
      ∃ delegate method, Presents table delegate method ∧
        forwarder = forward delegate.field method ∧
        ∃ earlier later, plan.delegates = earlier ++ delegate :: later ∧
          ∀ other ∈ earlier, ∀ hidden, Presents table other hidden →
            hidden.signature ≠ method.signature := by
  rw [methods_of_synthesise ok, Gathering.exact_empty.mem_methods_addOffers_iff]
  constructor
  · rintro (mem | ⟨-, ⟨delegate, method⟩, found, same⟩)
    · cases mem
    · obtain ⟨presents, signature, split⟩ := find?_offers_eq_some_iff.mp found
      rw [← signature] at split
      exact ⟨delegate, method, presents, same, split⟩
  · rintro ⟨delegate, method, presents, rfl, split⟩
    refine .inr ⟨by simp [Gathering.empty], (delegate, method), ?_, rfl⟩
    exact find?_offers_eq_some_iff.mpr ⟨presents, rfl, split⟩

/-- The signatures that are forwarded are those that the delegates present. -/
theorem exists_mem_methods_iff (ok : synthesise table plan = .ok result) {signature : Signature} :
    (∃ forwarder ∈ result.base.methods, forwarder.signature = signature) ↔
      ∃ delegate ∈ plan.delegates, ∃ method, Presents table delegate method ∧
        method.signature = signature := by
  constructor
  · rintro ⟨forwarder, mem, rfl⟩
    obtain ⟨delegate, method, presents, rfl, earlier, later, split, -⟩ :=
      (mem_methods_of_synthesise_iff ok).mp mem
    exact ⟨delegate, by simp [split], method, presents, rfl⟩
  · rintro ⟨delegate, mem, method, presents, rfl⟩
    have offered : (delegate, method) ∈ offers table plan.delegates :=
      List.mem_flatMap.mpr ⟨delegate, mem, List.mem_map_of_mem (mem_presented_iff.mpr presents)⟩
    cases found : (offers table plan.delegates).find? (·.2.signature = method.signature) with
    | none =>
        rw [List.find?_eq_none] at found
        exact absurd (decide_eq_true rfl) (found _ offered)
    | some offer =>
        obtain ⟨first, chosen⟩ := offer
        obtain ⟨presentsFirst, same, split⟩ := find?_offers_eq_some_iff.mp found
        rw [← same] at split
        exact ⟨forward first.field chosen, (mem_methods_of_synthesise_iff ok).mpr
          ⟨first, chosen, presentsFirst, rfl, split⟩, same⟩

end Synthesis

end Delegation
