import Delegation.Proofs.Java.FreshName
import Delegation.Synthesis
import Delegation.Validation

/-!
# Forwarding constructors

A generated constructor takes the delegates and then whatever the constructor of the superclass takes.
Nothing that it takes hides anything else, because both the fields and the names of the remaining
parameters are fresh.  The superclass may be a generated class itself, whose constructors are of this
form already; then the delegates of both come first, those of the subclass before the others.

## Main Definitions

* `Constructor.Prepends` — a constructor takes some interfaces and then what another one takes.
* `BaseConstructor.Forwards` — a generated constructor does so and passes on what is not its own.

## Main Statements

* `nodup_field_delegates` — the fields of a class are different.
* `forwards_forwardConstructor` — a forwarding constructor forwards, whatever it extends.
-/

namespace Delegation

open Java Synthesis Validation

/-! ## Fields -/

/-- Naming the fields leaves the interfaces. -/
theorem map_interface_nameFields (supply : NameSupply)
    (accepted : List (ClassName × Option String)) :
    (nameFields supply accepted).map (·.interface) = accepted.map (·.1) := by
  induction accepted generalizing supply with
  | nil => rfl
  | cons first rest ih =>
      obtain ⟨interface, asked⟩ := first
      cases asked with
      | none => exact congrArg (interface :: ·) (ih _)
      | some name => exact congrArg (interface :: ·) (ih _)

/-- When the names that are asked for are set aside, every field gets one of them or a new name, and
no name is given twice. -/
theorem nodup_field_nameFields {supply : NameSupply} {accepted : List (ClassName × Option String)}
    (distinct : (accepted.filterMap (·.2)).Nodup)
    (reserved : ∀ name ∈ accepted.filterMap (·.2), name ∈ supply.taken) :
    ((nameFields supply accepted).map (·.field)).Nodup ∧
      ∀ field ∈ (nameFields supply accepted).map (·.field),
        field ∈ accepted.filterMap (·.2) ∨ field ∉ supply.taken := by
  induction accepted generalizing supply with
  | nil => exact ⟨List.nodup_nil, nofun⟩
  | cons first rest ih =>
      obtain ⟨interface, asked⟩ := first
      cases asked with
      | some name =>
          change (name :: rest.filterMap (·.2)).Nodup at distinct
          change ∀ other ∈ name :: rest.filterMap (·.2), other ∈ supply.taken at reserved
          obtain ⟨different, distinct⟩ := List.nodup_cons.mp distinct
          obtain ⟨here, reserved⟩ := List.forall_mem_cons.mp reserved
          obtain ⟨nodup, origin⟩ := ih distinct reserved
          refine ⟨List.nodup_cons.mpr ⟨fun again => ?_, nodup⟩, ?_⟩
          · exact (origin name again).elim different fun fresh => fresh here
          · refine List.forall_mem_cons.mpr ⟨.inl List.mem_cons_self, fun field mem => ?_⟩
            exact (origin field mem).imp_left (List.mem_cons_of_mem name)
      | none =>
          change (rest.filterMap (·.2)).Nodup at distinct
          change ∀ name ∈ rest.filterMap (·.2), name ∈ supply.taken at reserved
          have fresh := supply.allocate_notMem interface.suggestedField
          have still : ∀ name ∈ rest.filterMap (·.2),
              name ∈ (supply.allocate interface.suggestedField).2.taken := fun name mem =>
            List.mem_cons_of_mem _ (reserved name mem)
          obtain ⟨nodup, origin⟩ := ih distinct still
          rw [NameSupply.taken_allocate] at origin
          refine ⟨List.nodup_cons.mpr ⟨fun again => ?_, nodup⟩, ?_⟩
          · rcases origin _ again with asked | unused
            · exact fresh (reserved _ asked)
            · exact unused List.mem_cons_self
          · refine List.forall_mem_cons.mpr ⟨.inr fresh, fun field mem => ?_⟩
            exact (origin field mem).imp_right fun unused used =>
              unused (List.mem_cons_of_mem _ used)

/-- A field that is not asked for has an identifier for its name. -/
theorem isIdentifier_field_nameFields {supply : NameSupply}
    {accepted : List (ClassName × Option String)} {field : String}
    (mem : field ∈ (nameFields supply accepted).map (·.field)) :
    field ∈ accepted.filterMap (·.2) ∨ isIdentifier field := by
  induction accepted generalizing supply with
  | nil => cases mem
  | cons first rest ih =>
      obtain ⟨interface, asked⟩ := first
      cases asked with
      | some name =>
          rcases List.mem_cons.mp mem with rfl | later
          · exact .inl List.mem_cons_self
          · exact (ih later).imp_left (List.mem_cons_of_mem name)
      | none =>
          rcases List.mem_cons.mp mem with rfl | later
          · exact .inr (supply.isIdentifier_allocate interface.suggestedField)
          · exact ih later

/-- A plan has the interfaces that were accepted, in order. -/
theorem map_interface_delegates (accepted : List (ClassName × Option String)) :
    (delegates accepted).map (·.interface) = accepted.map (·.1) :=
  map_interface_nameFields _ accepted

/-- **The fields of a class are different**, if those that are asked for are. -/
theorem nodup_field_delegates {accepted : List (ClassName × Option String)}
    (distinct : (accepted.filterMap (·.2)).Nodup) :
    ((delegates accepted).map (·.field)).Nodup :=
  (nodup_field_nameFields distinct fun _ mem => NameSupply.mem_taken_reserveAll.mpr (.inr mem)).1

/-- The fields of a class have identifiers for their names, if those that are asked for are. -/
theorem isIdentifier_field_delegates {accepted : List (ClassName × Option String)}
    (identifiers : ∀ name ∈ accepted.filterMap (·.2), isIdentifier name) {field : String}
    (mem : field ∈ (delegates accepted).map (·.field)) : isIdentifier field :=
  (isIdentifier_field_nameFields mem).elim (identifiers field) id

/-- Interfaces that are taken without field names. -/
def unnamed (interfaces : List ClassName) : List (ClassName × Option String) :=
  interfaces.map (·, none)

theorem map_fst_unnamed (interfaces : List ClassName) :
    (unnamed interfaces).map (·.1) = interfaces := by
  rw [unnamed, List.map_map]
  exact List.map_id interfaces

theorem filterMap_snd_unnamed (interfaces : List ClassName) :
    (unnamed interfaces).filterMap (·.2) = [] := by
  rw [unnamed, List.filterMap_map]
  exact List.filterMap_none interfaces

/-! ## Constructors -/

/-- A constructor takes some interfaces first and then what another one takes, and is like the other
one in the rest. -/
structure Constructor.Prepends (made : Constructor) (interfaces : List ClassName)
    (original : Constructor) : Prop where
  types : made.parameters.map (·.type) =
    interfaces.map .plain ++ original.parameters.map (·.type)
  varargs : made.varargs = original.varargs
  throws : made.throws = original.throws

namespace BaseConstructor

/-- The constructor as others see it. -/
def declared (made : BaseConstructor) : Constructor :=
  ⟨made.parameters, made.varargs, made.throws, []⟩

/-- A generated constructor takes the interfaces of its own class, then inherited ones, and then what
the original constructor takes.  No two parameters have one name, and all but those for its own
interfaces are passed on, in order. -/
structure Forwards (made : BaseConstructor) (own inherited : List ClassName)
    (original : Constructor) : Prop where
  takes : made.declared.Prepends (own ++ inherited) original
  distinct : (made.parameters.map (·.name)).Nodup
  passes : made.superArguments = (made.parameters.drop own.length).map (·.name)

end BaseConstructor

/-- Renaming parameters leaves their types. -/
theorem rename_parameters {names : List String} {parameters : List Parameter}
    (length : names.length = parameters.length) :
    (names.zipWith (fun name parameter => (⟨name, parameter.type⟩ : Parameter)) parameters).map
        (·.name) = names ∧
      (names.zipWith (fun name parameter => (⟨name, parameter.type⟩ : Parameter)) parameters).map
        (·.type) = parameters.map (·.type) := by
  induction names generalizing parameters with
  | nil =>
      obtain rfl := List.length_eq_zero_iff.mp length.symm
      exact ⟨rfl, rfl⟩
  | cons name names ih =>
      cases parameters with
      | nil => cases length
      | cons parameter parameters =>
          obtain ⟨renamed, typed⟩ := ih (Nat.succ.inj length)
          exact ⟨congrArg (name :: ·) renamed, congrArg (parameter.type :: ·) typed⟩

/-- A forwarding constructor takes the interfaces of its delegates before what it forwards. -/
theorem types_forwardConstructor (delegates : List Delegate) (original : Constructor) :
    (forwardConstructor delegates original).parameters.map (·.type) =
      delegates.map (fun delegate => .plain delegate.interface) ++
        original.parameters.map (·.type) := by
  obtain ⟨length, -, -⟩ := (NameSupply.empty.reserveAll (delegates.map (·.field))).allocateAll_fresh
    (original.parameters.map (·.name))
  rw [List.length_map] at length
  rw [forwardConstructor, List.map_append, (rename_parameters length).2, List.map_map]
  rfl

/-- **A forwarding constructor forwards.**  It takes the delegates of its class before all that the
constructor of the superclass takes, which may begin with delegates already. -/
theorem forwards_forwardConstructor {plan : List Delegate} (fields : (plan.map (·.field)).Nodup)
    {inherited : List ClassName} {original parent : Constructor}
    (prepends : parent.Prepends inherited original) :
    (forwardConstructor plan parent).Forwards (plan.map (·.interface)) inherited original := by
  obtain ⟨length, distinct, fresh⟩ :=
    (NameSupply.empty.reserveAll (plan.map (·.field))).allocateAll_fresh
      (parent.parameters.map (·.name))
  rw [List.length_map] at length
  have renamed := (rename_parameters length).1
  have taken : ∀ field ∈ plan.map (·.field),
      field ∈ (NameSupply.empty.reserveAll (plan.map (·.field))).taken := fun field mem =>
    NameSupply.mem_taken_reserveAll.mpr (.inr mem)
  have own : (plan.map delegateParameter).map (·.name) = plan.map (·.field) := by
    rw [List.map_map]
    rfl
  constructor
  · refine ⟨?_, prepends.varargs, prepends.throws⟩
    show ((forwardConstructor plan parent).parameters).map (·.type) = _
    rw [types_forwardConstructor, prepends.types, List.map_append, List.append_assoc, List.map_map]
    rfl
  · rw [forwardConstructor, List.map_append, own, renamed]
    refine List.nodup_append.mpr ⟨fields, distinct, ?_⟩
    rintro field mem _ other rfl
    exact fresh field other (taken field mem)
  · show ((NameSupply.empty.reserveAll (plan.map (·.field))).allocateAll
      (parent.parameters.map (·.name))).1 = _
    rw [forwardConstructor, List.drop_left' (by rw [List.length_map, List.length_map]), renamed]

/-- It does so in particular for delegates without field names of their own. -/
theorem forwards_unnamed (interfaces : List ClassName) {inherited : List ClassName}
    {original parent : Constructor} (prepends : parent.Prepends inherited original) :
    (forwardConstructor (delegates (unnamed interfaces)) parent).Forwards interfaces inherited
      original := by
  have fields : ((delegates (unnamed interfaces)).map (·.field)).Nodup :=
    nodup_field_delegates (by rw [filterMap_snd_unnamed]; exact List.nodup_nil)
  have forwards := forwards_forwardConstructor fields prepends
  rwa [map_interface_delegates, map_fst_unnamed] at forwards

end Delegation
