import Delegation.Proofs.Pass.Reports
import Delegation.Proofs.Snapshot.WellFormed
import Delegation.Proofs.Symbol.Walk
import Delegation.Proofs.Synthesis.Gathering
import Delegation.Proofs.Validation.Survey

/-!
# Signatures that delegates share

Several delegates may present methods of one signature.  The first of them in declaration order is
forwarded to, and all of them are listed in a collision.  Gathering keeps account of it one method at
a time; here it is compared with the list of the delegates that present a signature, which does not
depend on the order in which methods are met.

## Main Definitions

* `presenters` — the delegates that present a signature.
* `leading` — the methods that come first of their signatures.
* `ForwardsFirst` — each signature is forwarded to its first presenter.
* `ListsShared` — each signature with several presenters is listed with all of them.

## Main Statements

* `Gathering.Accounts.addOffers` — the account that gathering keeps.
* `Gathering.methods_addOffers_offers` — the methods that are gathered, in their order.
* `shared_signatures` — what a generated class does with the signatures of its delegates.
-/

namespace Delegation

open Java Synthesis

/-- A forwarding method copies a method and forwards to a field. -/
structure Forwarder.Copies (forwarder : Forwarder) (method : Method) (field : String) : Prop where
  name : forwarder.name = method.name
  returns : forwarder.returns = method.returns
  parameters : forwarder.parameters = method.parameters
  varargs : forwarder.varargs = method.varargs
  throws : forwarder.throws = method.throws
  field : forwarder.field = field

namespace Synthesis

/-! ## Presenters -/

section Presenters

variable (table : SymbolTable) (delegates : List Delegate)

/-- The delegates that present a signature, in declaration order. -/
def presenters (signature : Signature) : List Delegate :=
  delegates.filter fun delegate => signature ∈ (presented table delegate).map Method.signature

/-- The methods that come first of their signatures: no earlier delegate presents the signature.
They are in the order of the delegates and, for each delegate, of its members. -/
def leading : List (Delegate × Method) :=
  (offers table delegates).filter fun offer =>
    (presenters table delegates offer.2.signature).head? = some offer.1

/-- Each signature that is presented has one forwarding method.  It copies the method of the first
delegate that presents the signature, and forwards to that delegate. -/
structure ForwardsFirst (methods : List Forwarder) : Prop where
  once : (methods.map Forwarder.signature).Nodup
  forwarded_iff : ∀ signature, signature ∈ methods.map Forwarder.signature ↔
    presenters table delegates signature ≠ []
  copies : List.Forall₂ (fun offer forwarder => forwarder.Copies offer.2 offer.1.field)
    (leading table delegates) methods

/-- Each signature with several presenters is listed once, with the interface of the first presenter
and the interfaces of the others, in declaration order and without repetition. -/
structure ListsShared (collisions : List Collision) : Prop where
  once : (collisions.map (·.signature)).Nodup
  listed_iff : ∀ signature, signature ∈ collisions.map (·.signature) ↔
    2 ≤ (presenters table delegates signature).length
  all : ∀ collision ∈ collisions, collision.chosen :: collision.shadowed =
    (presenters table delegates collision.signature).map (·.interface)
  different : ∀ collision ∈ collisions, (collision.chosen :: collision.shadowed).Nodup

end Presenters

variable {table : SymbolTable} {delegates : List Delegate}

/-- A delegate presents a signature once at most. -/
theorem nodup_map_signature_presented (table : SymbolTable) (delegate : Delegate) :
    ((presented table delegate).map Method.signature).Nodup := by
  unfold presented
  cases table.lookup delegate.interface with
  | none => exact List.nodup_nil
  | some decl =>
      have members := nodup_map_signature_firsts (table.declared decl)
      rw [← members_eq_firsts] at members
      exact members.sublist (List.filter_sublist.map _)

theorem offers_append (first second : List Delegate) :
    offers table (first ++ second) = offers table first ++ offers table second :=
  List.flatMap_append

theorem offers_singleton (delegate : Delegate) :
    offers table [delegate] = (presented table delegate).map (delegate, ·) :=
  List.flatMap_singleton ..

theorem mem_offers_iff {delegate : Delegate} {method : Method} :
    (delegate, method) ∈ offers table delegates ↔
      delegate ∈ delegates ∧ method ∈ presented table delegate := by
  simp [offers]

/-- Whoever offers a method presents its signature. -/
theorem mem_presenters_of_mem_offers {delegate : Delegate} {method : Method}
    (offered : (delegate, method) ∈ offers table delegates) :
    delegate ∈ presenters table delegates method.signature := by
  obtain ⟨listed, mem⟩ := mem_offers_iff.mp offered
  exact List.mem_filter.mpr ⟨listed, decide_eq_true (List.mem_map_of_mem mem)⟩

/-- The presenters of a signature are those who offer a method of the signature. -/
theorem map_filter_offers (table : SymbolTable) (delegates : List Delegate)
    (signature : Signature) :
    ((offers table delegates).filter (·.2.signature = signature)).map (·.1) =
      presenters table delegates signature := by
  induction delegates with
  | nil => rfl
  | cons delegate rest ih =>
      have here : (((presented table delegate).map (delegate, ·)).filter
          (·.2.signature = signature)).map (·.1) =
            if signature ∈ (presented table delegate).map Method.signature then [delegate]
            else [] := by
        rw [List.filter_map, List.map_map]
        split
        · rename_i presents
          obtain ⟨method, mem, rfl⟩ := List.mem_map.mp presents
          have only := filter_eq_singleton (nodup_map_signature_presented table delegate) mem
          simpa [Function.comp_def] using congrArg (List.map fun _ => delegate) only
        · rename_i silent
          simpa [List.filter_eq_nil_iff] using silent
      rw [show offers table (delegate :: rest) = (presented table delegate).map (delegate, ·) ++
        offers table rest from List.flatMap_cons, List.filter_append, List.map_append, here, ih]
      by_cases presents : signature ∈ (presented table delegate).map Method.signature
      · rw [if_pos presents, presenters, presenters, List.filter_cons_of_pos (by simpa using presents),
          List.singleton_append]
      · rw [if_neg presents, presenters, presenters, List.filter_cons_of_neg (by simpa using presents),
          List.nil_append]

/-- Every signature that is presented has a leading method, and only those have. -/
theorem mem_map_signature_leading {signature : Signature} :
    signature ∈ (leading table delegates).map (·.2.signature) ↔
      presenters table delegates signature ≠ [] := by
  constructor
  · intro mem
    obtain ⟨⟨delegate, method⟩, leads, rfl⟩ := List.mem_map.mp mem
    exact List.ne_nil_of_mem (mem_presenters_of_mem_offers (List.mem_filter.mp leads).1)
  · intro nonempty
    obtain ⟨delegate, others, split⟩ := List.exists_cons_of_ne_nil nonempty
    have first : delegate ∈ presenters table delegates signature := split ▸ List.mem_cons_self
    obtain ⟨listed, presents⟩ := List.mem_filter.mp first
    obtain ⟨method, mem, rfl⟩ := List.mem_map.mp (of_decide_eq_true presents)
    refine List.mem_map.mpr ⟨(delegate, method), List.mem_filter.mpr ⟨?_, ?_⟩, rfl⟩
    · exact mem_offers_iff.mpr ⟨listed, mem⟩
    · simp [split]

/-- A further delegate leads where nobody presents the signature yet. -/
theorem leading_concat {delegate : Delegate} (new : delegate ∉ delegates) :
    leading table (delegates ++ [delegate]) = leading table delegates ++
      ((presented table delegate).filter (presenters table delegates ·.signature = [])).map
        (delegate, ·) := by
  have grown : ∀ signature, presenters table (delegates ++ [delegate]) signature =
      presenters table delegates signature ++ presenters table [delegate] signature :=
    fun signature => List.filter_append ..
  rw [leading, offers_append, List.filter_append, offers_singleton, List.filter_map]
  congr 1
  · refine List.filter_congr fun offer offered => ?_
    have nonempty := List.ne_nil_of_mem (mem_presenters_of_mem_offers offered)
    rw [grown, List.head?_append_of_ne_nil _ nonempty]
  · congr 1
    refine List.filter_congr fun method mem => ?_
    have presents : presenters table [delegate] method.signature = [delegate] :=
      List.filter_eq_self.mpr (by simpa using ⟨method, mem, rfl⟩)
    rw [Function.comp_apply, grown, presents]
    cases before : presenters table delegates method.signature with
    | nil => simp
    | cons other others =>
        have listed : other ∈ delegates := List.mem_of_mem_filter (before ▸ List.mem_cons_self)
        have different : other ≠ delegate := fun same => new (same ▸ listed)
        simp [different]

/-! ## The account -/

namespace Gathering

theorem addOffers_append (gathering : Gathering) (first second : List (Delegate × Method)) :
    gathering.addOffers (first ++ second) = (gathering.addOffers first).addOffers second :=
  List.foldl_append

/-- The signatures of the collisions after one more interface was met with a signature. -/
theorem map_signature_shadow (collisions : List Collision) (signature : Signature)
    (chosen other : ClassName) :
    (shadow collisions signature chosen other).map (·.signature) =
      if signature ∈ collisions.map (·.signature) then collisions.map (·.signature)
      else collisions.map (·.signature) ++ [signature] := by
  have listed : (collisions.any (·.signature == signature)) =
      decide (signature ∈ collisions.map (·.signature)) := by
    rw [Bool.eq_iff_iff, decide_eq_true_iff, List.any_eq_true, List.mem_map]
    simp only [beq_iff_eq]
  rw [shadow, listed]
  by_cases mem : signature ∈ collisions.map (·.signature)
  · rw [if_pos (decide_eq_true mem), if_pos mem, List.map_map]
    refine List.map_congr_left fun collision _ => ?_
    rw [Function.comp_apply]
    split <;> rfl
  · rw [if_neg (by simpa using mem), if_neg mem, List.map_append]
    rfl

/-- What a gathering says about the interfaces that have been met with each signature: the first is
the owner, and when there are several, all are listed in a collision. -/
structure Accounts (gathering : Gathering) (having : Signature → List ClassName) : Prop where
  owner : ∀ signature, gathering.owners.lookup signature = (having signature).head?
  once : (gathering.collisions.map (·.signature)).Nodup
  listed_iff : ∀ signature, signature ∈ gathering.collisions.map (·.signature) ↔
    2 ≤ (having signature).length
  all : ∀ collision ∈ gathering.collisions,
    collision.chosen :: collision.shadowed = having collision.signature

theorem accounts_empty : empty.Accounts fun _ => [] where
  owner _ := rfl
  once := List.nodup_nil
  listed_iff _ := by simp [empty]
  all _ mem := by cases mem

section Step

variable {gathering : Gathering} {having : Signature → List ClassName}

/-- A method of a new signature gives the signature its owner. -/
theorem Accounts.add_of_new (accounts : gathering.Accounts having) {delegate : Delegate}
    {method : Method} (new : having method.signature = []) :
    (gathering.add delegate method).Accounts
      (Function.update having method.signature [delegate.interface]) := by
  have free : gathering.owners.lookup method.signature = none := by rw [accounts.owner, new]; rfl
  have notListed : method.signature ∉ gathering.collisions.map (·.signature) := by
    rw [accounts.listed_iff, new]
    exact Nat.not_succ_le_zero 1
  have added : gathering.add delegate method = { gathering with
      owners := gathering.owners ++ [(method.signature, delegate.interface)]
      methods := gathering.methods ++ [forward delegate.field method] } := by
    simp only [add, free]
  rw [added]
  constructor
  · intro signature
    rw [List.lookup_append]
    by_cases same : signature = method.signature
    · rw [same, free, Function.update_self]
      simp
    · rw [Function.update_of_ne same, ← accounts.owner, List.lookup_cons,
        beq_eq_false_iff_ne.mpr same]
      simp
  · exact accounts.once
  · intro signature
    by_cases same : signature = method.signature
    · rw [same, Function.update_self]
      exact iff_of_false notListed (by simp)
    · rw [Function.update_of_ne same]
      exact accounts.listed_iff signature
  · intro collision mem
    have other : collision.signature ≠ method.signature := fun same =>
      notListed (same ▸ List.mem_map_of_mem mem)
    rw [Function.update_of_ne other]
    exact accounts.all collision mem

/-- A method of a known signature adds its interface to the collision. -/
theorem Accounts.add_of_known (accounts : gathering.Accounts having) {delegate : Delegate}
    {method : Method} {chosen : ClassName} {others : List ClassName}
    (known : having method.signature = chosen :: others) :
    (gathering.add delegate method).Accounts
      (Function.update having method.signature (chosen :: others ++ [delegate.interface])) := by
  have owned : gathering.owners.lookup method.signature = some chosen := by
    rw [accounts.owner, known]
    rfl
  have added : gathering.add delegate method = { gathering with
      collisions :=
        shadow gathering.collisions method.signature chosen delegate.interface } := by
    simp only [add, owned]
  rw [added]
  constructor
  · intro signature
    by_cases same : signature = method.signature
    · rw [same, Function.update_self]
      exact owned
    · rw [Function.update_of_ne same]
      exact accounts.owner signature
  · show (List.map _ (shadow ..)).Nodup
    rw [map_signature_shadow]
    split
    · exact accounts.once
    · rename_i notListed
      simpa using List.Nodup.concat notListed accounts.once
  · intro signature
    show signature ∈ List.map _ (shadow ..) ↔ _
    rw [map_signature_shadow]
    by_cases same : signature = method.signature
    · rw [same, Function.update_self]
      refine iff_of_true ?_ (by simp)
      split
      · assumption
      · exact List.mem_append_right _ List.mem_cons_self
    · rw [Function.update_of_ne same, ← accounts.listed_iff]
      split
      · rfl
      · simp [same]
  · intro collision mem
    change collision ∈ shadow .. at mem
    unfold shadow at mem
    split at mem
    -- the signature is listed already, and its collision is extended
    · obtain ⟨before, old, rfl⟩ := List.mem_map.mp mem
      by_cases same : before.signature = method.signature
      · have extended := accounts.all before old
        rw [same, known] at extended
        obtain ⟨sameChosen, sameShadowed⟩ := List.cons.inj extended
        rw [if_pos same]
        simp [same, sameChosen, sameShadowed]
      · rw [if_neg same, Function.update_of_ne same]
        exact accounts.all before old
    · rename_i notAny
      have notListed : method.signature ∉ gathering.collisions.map (·.signature) := by
        simpa using notAny
      rcases List.mem_append.mp mem with old | new
      · have other : collision.signature ≠ method.signature := fun same =>
          notListed (same ▸ List.mem_map_of_mem old)
        rw [Function.update_of_ne other]
        exact accounts.all collision old
      -- only the owner had been met before, as there was no collision
      · rw [accounts.listed_iff, known] at notListed
        have alone : others = [] := by
          cases others with
          | nil => rfl
          | cons _ _ => exact absurd (by simp) notListed
        rw [List.mem_singleton.mp new, Function.update_self, alone]
        rfl

/-- The account is kept by one more method. -/
theorem Accounts.add (accounts : gathering.Accounts having) (delegate : Delegate)
    (method : Method) :
    (gathering.add delegate method).Accounts (Function.update having method.signature
      (having method.signature ++ [delegate.interface])) := by
  cases met : having method.signature with
  | nil => exact accounts.add_of_new met
  | cons chosen others => exact accounts.add_of_known met

/-- The account is kept by any number of methods. -/
theorem Accounts.addOffers (accounts : gathering.Accounts having)
    (offers : List (Delegate × Method)) :
    (gathering.addOffers offers).Accounts fun signature => having signature ++
      (offers.filter (·.2.signature = signature)).map (·.1.interface) := by
  induction offers generalizing gathering having with
  | nil => simpa [Gathering.addOffers] using accounts
  | cons offer rest ih =>
      have met : (fun signature => having signature ++
          ((offer :: rest).filter (·.2.signature = signature)).map (·.1.interface)) =
          fun signature => Function.update having offer.2.signature
            (having offer.2.signature ++ [offer.1.interface]) signature ++
              (rest.filter (·.2.signature = signature)).map (·.1.interface) := by
        funext signature
        by_cases same : signature = offer.2.signature
        · simp [same]
        · simp [Function.update_of_ne same, Ne.symm same]
      rw [met]
      exact ih (accounts.add offer.1 offer.2)

end Step

/-! ## The methods -/

/-- Of the methods of one delegate, those with new signatures are forwarded. -/
theorem Exact.methods_addOffers_map {gathering : Gathering} (exact : gathering.Exact)
    (delegate : Delegate) {methods : List Method}
    (distinct : (methods.map Method.signature).Nodup) :
    (gathering.addOffers (methods.map (delegate, ·))).methods = gathering.methods ++
      (methods.filter (·.signature ∉ gathering.methods.map Forwarder.signature)).map
        (forward delegate.field) := by
  induction methods generalizing gathering with
  | nil => simp [Gathering.addOffers]
  | cons method rest ih =>
      obtain ⟨different, distinct⟩ := List.nodup_cons.mp distinct
      rw [List.map_cons, show gathering.addOffers ((delegate, method) :: _) =
        (gathering.add delegate method).addOffers _ from rfl, ih (exact.add delegate method) distinct]
      by_cases known : method.signature ∈ gathering.methods.map Forwarder.signature
      · rw [(exact.methods_add_of_mem delegate known).1, List.filter_cons_of_neg (by simpa using known)]
      · rw [(exact.methods_add_of_notMem delegate known).1,
          List.filter_cons_of_pos (by simpa using known), List.map_cons, List.append_assoc,
          List.singleton_append]
        congr 3
        refine List.filter_congr fun other mem => ?_
        have apart : other.signature ≠ method.signature := fun same =>
          different (same ▸ List.mem_map_of_mem mem)
        simp [apart]

/-- **The methods that are gathered are the leading ones**, in their order, if the delegates are
different. -/
theorem methods_addOffers_offers (table : SymbolTable) {delegates : List Delegate}
    (distinct : delegates.Nodup) :
    (empty.addOffers (offers table delegates)).methods =
      (leading table delegates).map fun offer => forward offer.1.field offer.2 := by
  induction delegates using List.reverseRecOn with
  | nil => rfl
  | append_singleton delegates delegate ih =>
      rw [List.nodup_append] at distinct
      have new : delegate ∉ delegates := fun mem =>
        distinct.2.2 _ mem _ (List.mem_singleton_self _) rfl
      have gathered := ih distinct.1
      have signatures : ∀ signature,
          signature ∉ (empty.addOffers (offers table delegates)).methods.map Forwarder.signature ↔
            presenters table delegates signature = [] := by
        intro signature
        rw [gathered, List.map_map,
          show (Forwarder.signature ∘ fun offer : Delegate × Method =>
            forward offer.1.field offer.2) = fun offer => offer.2.signature from rfl,
          mem_map_signature_leading, not_not]
      rw [offers_append, addOffers_append, offers_singleton,
        (exact_empty.addOffers _).methods_addOffers_map delegate
          (nodup_map_signature_presented table delegate), leading_concat new]
      simp only [signatures]
      rw [gathered, List.map_append, List.map_map]
      rfl

end Gathering

variable {plan : Plan} {result : Synthesised}

/-- What different delegates present is forwarded to the first of them that does. -/
theorem forwardsFirst_of_synthesise (ok : synthesise table plan = .ok result)
    (distinct : plan.delegates.Nodup) :
    ForwardsFirst table plan.delegates result.base.methods := by
  have gathered := Gathering.methods_addOffers_offers table distinct
  rw [← methods_of_synthesise ok] at gathered
  have signatures : result.base.methods.map Forwarder.signature =
      (leading table plan.delegates).map (·.2.signature) := by
    rw [gathered, List.map_map]
    rfl
  constructor
  · exact nodup_signatures_of_synthesise ok
  · intro signature
    rw [signatures, mem_map_signature_leading]
  · rw [gathered, List.forall₂_map_right_iff, List.forall₂_same]
    exact fun offer _ => ⟨rfl, rfl, rfl, rfl, rfl, rfl⟩

/-- The signatures that delegates with different interfaces share are listed. -/
theorem listsShared_of_synthesise (ok : synthesise table plan = .ok result)
    (distinct : (plan.delegates.map (·.interface)).Nodup) :
    ListsShared table plan.delegates result.collisions := by
  have collisions : result.collisions =
      (Gathering.empty.addOffers (offers table plan.delegates)).collisions := by
    obtain ⟨decls, superclass, read, -, rfl⟩ := synthesise_eq_ok_iff.mp ok
    rw [← gather_zip read]
    rfl
  have met : ∀ signature, [] ++ ((offers table plan.delegates).filter
      (·.2.signature = signature)).map (·.1.interface) =
        (presenters table plan.delegates signature).map (·.interface) := by
    intro signature
    rw [List.nil_append, ← map_filter_offers, List.map_map]
    rfl
  obtain ⟨-, once, listed_iff, all⟩ :=
    Gathering.accounts_empty.addOffers (offers table plan.delegates)
  simp only [met, ← collisions, List.length_map] at once listed_iff all
  refine ⟨once, listed_iff, all, fun collision mem => ?_⟩
  rw [all collision mem]
  exact distinct.sublist (List.filter_sublist.map _)

end Synthesis

/-! ## Shared signatures -/

/-- **What a generated class does with the signatures of its delegates.**  Each signature is forwarded
to the first delegate that presents it, the methods come in the order in which the delegates present
them, and each signature that several delegates present is listed with all of them.  A pass that
generates the class reports one warning for each entry of the list, in the same order, and nothing
else about the class. -/
theorem shared_signatures {earlier table : SymbolTable} {decl : TypeDecl} {plan : Plan}
    {result : Synthesised} (accepted : validate earlier decl = .accepted plan)
    (ok : synthesise table plan = .ok result) :
    ForwardsFirst table plan.delegates result.base.methods ∧
      ListsShared table plan.delegates result.collisions ∧
      ∀ {σ : Type} {options : Options} {output : Output σ} {progress : Progress}
        {annotated : List ClassName} {store : σ} {fault? : Option Fault} {pass : Pass σ},
        table.Lawful → table.lookup decl.name = some decl →
        validate table decl = .accepted plan →
        Pass.run options output table progress annotated store = (fault?, pass) →
        decl.name ∉ progress.emitted → decl.name ∈ pass.progress.emitted →
        Diagnostic.about pass.diagnostics decl.name = result.collisions.map fun collision =>
          ⟨.warning, .ambiguousMethod, collision.signature.text ++ " is declared by " ++
            collision.chosen.qualified ++ " and " ++
            ", ".intercalate (collision.shadowed.map ClassName.qualified) ++ "; forwarding to " ++
            collision.chosen.qualified, .type decl.name⟩ := by
  have distinct := nodup_interface_of_validate accepted
  refine ⟨forwardsFirst_of_synthesise ok distinct.of_map, listsShared_of_synthesise ok distinct, ?_⟩
  intro σ options output progress annotated store fault? pass lawful found still ran new done
  obtain ⟨other, generated, foundOther, judged, reported⟩ := Pass.about_of_emitted lawful ran new done
  obtain rfl : other = decl := Option.some.inj (foundOther.symm.trans found)
  have here : judge table other = .generate result := judge_eq_generate_iff.mpr ⟨plan, still, ok⟩
  rw [here] at judged
  cases judged
  rw [reported]
  exact List.map_congr_left fun collision _ => Collision.diagnostic_eq other.name collision

/-- All three interfaces have `m`, and the first and the last have `n`. -/
def sharedByThree : List TypeDefinition :=
  [{ name := "foo.I", kind := .interface, methods := [{ name := "m" }, { name := "n" }] },
   { name := "foo.J", kind := .interface, methods := [{ name := "m" }] },
   { name := "foo.K", kind := .interface
     methods := [{ name := "n", throws := ["foo.Failure"] }, { name := "o" }, { name := "m" }] },
   { name := "foo.C", kind := .class_, extends? := some "foo.AutoDelegate_C"
     request? := some
       ⟨[⟨"foo.I", some "i"⟩, ⟨"foo.J", some "j"⟩, ⟨"foo.K", some "k"⟩], none⟩ }]

/-- What `foo.C` asks for. -/
def planOfThree : Plan :=
  ⟨⟨"foo", "C", []⟩, ⟨"foo", "AutoDelegate_C", []⟩, .object,
    [⟨⟨"foo", "I", []⟩, "i"⟩, ⟨⟨"foo", "J", []⟩, "j"⟩, ⟨⟨"foo", "K", []⟩, "k"⟩]⟩

/-- The first interface gets what it has, the last one the rest, and two warnings are given. -/
theorem shared_signatures_sharedByThree :
    let table := (Snapshot.sample sharedByThree).table
    let decl := (table.lookup ⟨"foo", "C", []⟩).getD default
    let ran := Pass.run .standard MemoryStore.output table .empty [⟨"foo", "C", []⟩] .empty
    table.Lawful ∧ table.lookup decl.name = some decl ∧
    validate table decl = .accepted planOfThree ∧ decl.name ∉ Progress.empty.emitted ∧
    decl.name ∈ ran.2.progress.emitted ∧
    ∃ result, synthesise table planOfThree = .ok result ∧
      result.base.methods.map (fun method => (method.name, method.field)) =
        [("m", "i"), ("n", "i"), ("o", "k")] ∧
      result.collisions =
        [⟨⟨"m", []⟩, ⟨"foo", "I", []⟩, [⟨"foo", "J", []⟩, ⟨"foo", "K", []⟩]⟩,
         ⟨⟨"n", []⟩, ⟨"foo", "I", []⟩, [⟨"foo", "K", []⟩]⟩] ∧
      ForwardsFirst table planOfThree.delegates result.base.methods ∧
      ListsShared table planOfThree.delegates result.collisions ∧
      Diagnostic.about ran.2.diagnostics decl.name =
        [⟨.warning, .ambiguousMethod, "m() is declared by foo.I and foo.J, foo.K; forwarding to foo.I",
          .type ⟨"foo", "C", []⟩⟩,
         ⟨.warning, .ambiguousMethod, "n() is declared by foo.I and foo.K; forwarding to foo.I",
          .type ⟨"foo", "C", []⟩⟩] := by
  intro table decl ran
  have reached : (Snapshot.sample sharedByThree).Reached :=
    .read (Snapshot.ofTypes_sample (by decide +kernel))
  have accepted : validate table decl = .accepted planOfThree := by decide +kernel
  have found : table.lookup decl.name = some decl := by decide +kernel
  have done : decl.name ∈ ran.2.progress.emitted := by decide +kernel
  have computed : (synthesise table planOfThree).toOption.map (fun result =>
      (result.base.methods.map fun method => (method.name, method.field), result.collisions)) =
        some ([("m", "i"), ("n", "i"), ("o", "k")],
          [⟨⟨"m", []⟩, ⟨"foo", "I", []⟩, [⟨"foo", "J", []⟩, ⟨"foo", "K", []⟩]⟩,
           ⟨⟨"n", []⟩, ⟨"foo", "I", []⟩, [⟨"foo", "K", []⟩]⟩]) := by decide +kernel
  have new : decl.name ∉ Progress.empty.emitted := Std.TreeSet.not_mem_emptyc
  cases ok : synthesise table planOfThree with
  | error obstacle => simp [ok, Except.toOption] at computed
  | ok result =>
      rw [ok] at computed
      obtain ⟨methods, collisions⟩ := Prod.mk.inj (Option.some.inj computed)
      obtain ⟨first, shared, reported⟩ := shared_signatures accepted ok
      have warned := reported reached.wellFormed.lawful found accepted rfl new done
      have named : decl.name = ⟨"foo", "C", []⟩ := by decide +kernel
      rw [collisions, named] at warned
      refine ⟨reached.wellFormed.lawful, found, accepted, new, done, result, rfl, methods,
        collisions, first, shared, ?_⟩
      rw [named]
      exact warned

end Delegation
