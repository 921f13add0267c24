import Delegation.Proofs.Compilation.Rounds
import Delegation.Proofs.Snapshot.Order
import Delegation.Proofs.Validation.Survey

/-!
# What a generated constructor does

A generated constructor passes some of its arguments on to the constructor of the superclass and keeps
the others in its fields.  Its body names the parameters, so what arrives where is a question of what
the names denote in a call.  As all names are different, every argument arrives where its position says.

## Main Definitions

* `BaseConstructor.argument?`, `BaseConstructor.passed`, `BaseConstructor.fieldsAfter` — a call.
* `BaseConstructor.Constructs` — a constructor keeps the delegates and passes the rest on.
* `Snapshot.Grown` — the snapshots that a compilation comes to.

## Main Statements

* `constructs_forwardConstructor` — a forwarding constructor keeps the delegates and passes the rest
  on.
* `Compilation.grown_run` — a compilation comes to such snapshots only.
* `Snapshot.Grown.arrayed` — constructors that take any number of arguments do so in an array.
* `Snapshot.constructors_correct` — so it is with all constructors of a generated class.
-/

namespace Delegation

open Java Synthesis Validation

/-! ## Calls -/

namespace BaseConstructor

variable {α : Type}

/-- What a name denotes in the body when the constructor is called with some values: the value in the
position of the first parameter of that name. -/
def argument? (made : BaseConstructor) (values : List α) (name : String) : Option α :=
  ((made.parameters.map (·.name)).zip values).lookup name

/-- What the body passes to the constructor of the superclass. -/
def passed (made : BaseConstructor) (values : List α) : List (Option α) :=
  made.superArguments.map (made.argument? values)

/-- What the fields hold after the body has set them, one after the other. -/
def fieldsAfter (made : BaseConstructor) (values : List α) : String → Option α :=
  made.assignedFields.foldl
    (fun fields name => Function.update fields name (made.argument? values name)) fun _ => none

/-- A constructor takes the delegates and then what the original constructor takes.  In a call, each
delegate ends up in its field, and the original constructor gets the rest. -/
structure Constructs (made : BaseConstructor) (delegates : List Delegate) (original : Constructor) :
    Prop where
  /-- The delegates come first, under the names of their fields and with their interfaces. -/
  own : made.parameters.take delegates.length =
    delegates.map fun delegate => ⟨delegate.field, .plain delegate.interface⟩
  /-- Then come parameters of the original types. -/
  types : (made.parameters.drop delegates.length).map (·.type) = original.parameters.map (·.type)
  distinct : (made.parameters.map (·.name)).Nodup
  identifiers : ∀ parameter ∈ made.parameters, isIdentifier parameter.name
  varargs : made.varargs = original.varargs
  throws : made.throws = original.throws
  /-- The original constructor gets the values in the positions of its parameters. -/
  passes : ∀ {α : Type} (values : List α), values.length = made.parameters.length →
    made.passed values = (values.drop delegates.length).map some
  /-- Each field gets the value in the position of its delegate. -/
  keeps : ∀ {α : Type} (values : List α), values.length = made.parameters.length →
    delegates.map (fun delegate => made.fieldsAfter values delegate.field) =
      (values.take delegates.length).map some
  /-- Nothing else is set. -/
  only : ∀ {α : Type} (values : List α), ∀ name ∉ delegates.map (·.field),
    made.fieldsAfter values name = none

/-- A field that is set holds what its name denotes, and the others hold nothing. -/
theorem fieldsAfter_eq (made : BaseConstructor) (values : List α) (name : String) :
    made.fieldsAfter values name =
      if name ∈ made.assignedFields then made.argument? values name else none := by
  have set : ∀ (names : List String) (fields : String → Option α),
      names.foldl (fun fields name => Function.update fields name (made.argument? values name))
        fields name = if name ∈ names then made.argument? values name else fields name := by
    intro names
    induction names with
    | nil => exact fun fields => rfl
    | cons first rest ih =>
        intro fields
        rw [List.foldl_cons, ih]
        by_cases later : name ∈ rest
        · rw [if_pos later, if_pos (List.mem_cons_of_mem _ later)]
        · by_cases same : name = first
          · rw [if_neg later, if_pos (same ▸ List.mem_cons_self), same, Function.update_self]
          · rw [if_neg later, if_neg (by simp [same, later]), Function.update_of_ne same]
  exact set _ _

end BaseConstructor

/-- With different names, names denote the values in their positions. -/
theorem map_lookup_zip {α : Type} {names : List String} (distinct : names.Nodup) {values : List α}
    (length : values.length = names.length) :
    names.map ((names.zip values).lookup ·) = values.map some := by
  induction names generalizing values with
  | nil => rw [List.length_eq_zero_iff.mp length]; rfl
  | cons name rest ih =>
      cases values with
      | nil => cases length
      | cons value values =>
          obtain ⟨different, distinct⟩ := List.nodup_cons.mp distinct
          rw [List.zip_cons_cons, List.map_cons, List.map_cons, List.lookup_cons_self,
            ← ih distinct (Nat.succ.inj length)]
          congr 1
          refine List.map_congr_left fun other mem => ?_
          have apart : (other == name) = false := by
            rw [beq_eq_false_iff_ne]
            rintro rfl
            exact different mem
          rw [List.lookup_cons, apart]

/-- With different names, the arguments arrive where their positions say. -/
theorem BaseConstructor.map_argument? {α : Type} {made : BaseConstructor}
    (distinct : (made.parameters.map (·.name)).Nodup) {values : List α}
    (length : values.length = made.parameters.length) :
    (made.parameters.map (·.name)).map (made.argument? values) = values.map some :=
  map_lookup_zip distinct (by rw [length, List.length_map])

/-! ## Parameters that end in an array -/

/-- Whether the last parameter is an array is a matter of the types. -/
theorem endsInArray_iff {parameters : List Parameter} : Conversion.endsInArray parameters ↔
    ∃ component, (parameters.map (·.type)).getLast? = some (.array component) := by
  rw [Conversion.endsInArray, List.getLast?_map]
  cases parameters.getLast? with
  | none => simp
  | some last =>
      obtain ⟨name, type⟩ := last
      cases type <;> simp

/-- What is put before the parameters makes no difference. -/
theorem endsInArray_of_types {made original : List Parameter} {before : List TypeName}
    (types : made.map (·.type) = before ++ original.map (·.type))
    (ends : Conversion.endsInArray original) : Conversion.endsInArray made := by
  obtain ⟨component, last⟩ := endsInArray_iff.mp ends
  refine endsInArray_iff.mpr ⟨component, ?_⟩
  rw [types, List.getLast?_append, last]
  rfl

/-! ## Forwarding constructors -/

/-- **A forwarding constructor keeps the delegates and passes the rest on**, if the fields are
different identifiers. -/
theorem constructs_forwardConstructor {delegates : List Delegate} {original : Constructor}
    (distinct : (delegates.map (·.field)).Nodup)
    (identifiers : ∀ field ∈ delegates.map (·.field), isIdentifier field) :
    (forwardConstructor delegates original).Constructs delegates original := by
  have itself : original.Prepends [] original := ⟨rfl, rfl, rfl⟩
  obtain ⟨⟨types, varargs, throws⟩, different, rest⟩ := forwards_forwardConstructor distinct itself
  rw [List.append_nil] at types
  rw [List.length_map] at rest
  generalize made_eq : forwardConstructor delegates original = made at *
  have own : made.parameters.take delegates.length =
      delegates.map fun delegate => ⟨delegate.field, .plain delegate.interface⟩ := by
    rw [← made_eq]
    exact List.take_left' (List.length_map _)
  have ownNames : (made.parameters.map (·.name)).take delegates.length =
      delegates.map (·.field) := by
    rw [← List.map_take, own, List.map_map]
    rfl
  have restNames : (made.parameters.map (·.name)).drop delegates.length = made.superArguments := by
    rw [rest, List.map_drop]
  have assigned : made.assignedFields = delegates.map (·.field) := made_eq ▸ rfl
  constructor
  case own => exact own
  case types =>
    rw [List.map_drop, show made.parameters.map (·.type) = _ from types]
    exact List.drop_left' (by rw [List.length_map, List.length_map])
  case distinct => exact different
  case identifiers =>
    intro parameter mem
    have named : parameter.name ∈ delegates.map (·.field) ++ made.superArguments := by
      rw [← ownNames, ← restNames, List.take_append_drop]
      exact List.mem_map_of_mem mem
    rcases List.mem_append.mp named with field | passed
    · exact identifiers _ field
    · rw [← made_eq] at passed
      exact NameSupply.isIdentifier_of_mem_allocateAll passed
  case varargs => exact varargs
  case throws => exact throws
  case passes =>
    intro α values length
    rw [BaseConstructor.passed, ← restNames, List.map_drop, BaseConstructor.map_argument? different length,
      List.map_drop]
  case keeps =>
    intro α values length
    have set : delegates.map (fun delegate => made.fieldsAfter values delegate.field) =
        (delegates.map (·.field)).map (made.argument? values) := by
      rw [List.map_map]
      refine List.map_congr_left fun delegate mem => ?_
      rw [made.fieldsAfter_eq, assigned, if_pos (List.mem_map_of_mem mem)]
      rfl
    rw [set, ← ownNames, List.map_take, BaseConstructor.map_argument? different length, List.map_take]
  case only =>
    intro α values name other
    rw [made.fieldsAfter_eq, assigned, if_neg other]

/-- A forwarding constructor ends in an array if the original does. -/
theorem endsInArray_forwardConstructor (delegates : List Delegate) {original : Constructor}
    (ends : Conversion.endsInArray original.parameters) :
    Conversion.endsInArray (forwardConstructor delegates original).parameters :=
  endsInArray_of_types (types_forwardConstructor delegates original) ends

/-! ## Constructors of a snapshot -/

/-- A constructor that takes any number of arguments takes them in an array. -/
def Constructor.Arrayed (constructor : Constructor) : Prop :=
  constructor.varargs → Conversion.endsInArray constructor.parameters

/-- A constructor that is read is checked for it. -/
theorem Conversion.arrayed_of_constructor {owner : ClassName} {definition : ConstructorDefinition}
    {result : Constructor} (read : constructor owner definition = .ok result) : result.Arrayed := by
  simp only [constructor, parameters, bind_eq_ok_iff] at read
  obtain ⟨read_parameters, ⟨all, -, checked⟩, throws, -, same⟩ := read
  split at checked
  · obtain ⟨_, thrown, -⟩ := bind_eq_ok_iff.mp checked
    cases thrown
  · rename_i unthrown
    cases checked
    cases same
    intro takesAny
    simpa [show definition.varargs = true from takesAny] using unthrown

/-- So are all constructors of a type that is read; the implicit one takes nothing. -/
theorem TypeDefinition.arrayed_of_toEntry {definition : TypeDefinition} {entry : Entry}
    (read : definition.toEntry = .ok entry) : ∀ constructor ∈ entry.decl.constructors,
      constructor.Arrayed := by
  simp only [toEntry, bind_eq_ok_iff] at read
  obtain ⟨name, -, methods, -, constructors, readConstructors, interfaces, -, read⟩ := read
  split at read
  · obtain ⟨_, thrown, -⟩ := bind_eq_ok_iff.mp read
    cases thrown
  · cases read
    intro constructor mem
    change constructor ∈ Conversion.withImplicit definition.kind constructors at mem
    unfold Conversion.withImplicit at mem
    split at mem
    · rw [List.mem_singleton.mp mem]
      intro takesAny
      cases takesAny
    · obtain ⟨source, -, readConstructor⟩ := exists_of_mem_mapM readConstructors mem
      exact Conversion.arrayed_of_constructor readConstructor

namespace Snapshot

/-- The snapshots that a compilation comes to: read from definitions, moved to any round, and extended
by base classes that were synthesised from such snapshots. -/
inductive Grown : Snapshot → Prop
  | read {types : List TypeDefinition} {options : Options} {snapshot : Snapshot}
      (ok : ofTypes types options = .ok snapshot) : Grown snapshot
  | moved {snapshot : Snapshot} (grown : Grown snapshot) (round : Nat) :
      Grown (snapshot.setRound round)
  | joined {snapshot source snapshot' : Snapshot} (grown : Grown snapshot) (sound : Grown source)
      {plan : Plan} {result : Synthesised} (made : synthesise source.table plan = .ok result)
      (ok : snapshot.register result.base = .ok snapshot') : Grown snapshot'

namespace Grown

variable {snapshot : Snapshot}

theorem reached (grown : snapshot.Grown) : snapshot.Reached := by
  induction grown with
  | read ok => exact .read ok
  | moved _ round ih => exact .moved ih round
  | joined _ _ _ ok ih => exact .joined ih ok

/-- Every constructor of such a snapshot that takes any number of arguments takes them in an array. -/
theorem arrayed (grown : snapshot.Grown) : ∀ entry ∈ snapshot.written,
    ∀ constructor ∈ entry.decl.constructors, constructor.Arrayed := by
  induction grown with
  | @read types options snapshot ok =>
      obtain ⟨declared, all, same⟩ := bind_eq_ok_iff.mp ok
      cases same
      obtain ⟨wf, -, entries, readAll, listed⟩ := (wellFormed_empty options).declareAll all
      intro entry mem
      rw [written_refresh, wf.written_withObject] at mem
      rcases List.mem_append.mp mem with own | root
      · obtain ⟨original, among, rfl⟩ := List.mem_map.mp own
        rw [listed, empty, List.nil_append] at among
        obtain ⟨definition, -, read⟩ := exists_of_mem_mapM readAll among
        exact fun constructor => TypeDefinition.arrayed_of_toEntry read constructor
      · split at root
        · cases root
        · -- the only constructor of the root class takes nothing
          rw [List.mem_singleton.mp root]
          intro constructor mem
          rw [List.mem_singleton.mp mem]
          intro takesAny
          cases takesAny
  | moved _ round ih =>
      rw [written_setRound]
      exact ih
  | @joined snapshot source snapshot' grown sound plan result made ok ih ihSource =>
      intro entry mem
      rw [written_register ok] at mem
      rcases List.mem_append.mp mem with before | new
      · exact ih entry before
      · rw [List.mem_singleton.mp new]
        obtain ⟨decls, parent, -, extended, rfl⟩ := synthesise_eq_ok_iff.mp made
        obtain ⟨found, -⟩ := superclassDecl_eq_ok_iff.mp extended
        obtain ⟨original, listed, -, -, rfl⟩ :=
          sound.reached.wellFormed.lookup_eq_some_iff.mp found
        intro constructor mem takesAny
        obtain ⟨base, among, rfl⟩ := List.mem_map.mp mem
        obtain ⟨forwarded, listedThere, rfl⟩ := List.mem_map.mp among
        have before := ihSource _ (List.mem_map_of_mem listed) forwarded listedThere takesAny
        exact endsInArray_forwardConstructor plan.delegates before

/-- So do the constructors of a type that is visible. -/
theorem arrayed_of_lookup (grown : snapshot.Grown) {name : ClassName} {decl : TypeDecl}
    (found : snapshot.lookup name = some decl) {constructor : Constructor}
    (mem : constructor ∈ decl.constructors) : constructor.Arrayed := by
  obtain ⟨entry, listed, -, -, rfl⟩ := grown.reached.wellFormed.lookup_eq_some_iff.mp found
  exact grown.arrayed _ (List.mem_map_of_mem listed) constructor mem

end Grown

end Snapshot

/-- A compilation of such a snapshot leaves such a snapshot, however it ends. -/
theorem Compilation.grown_run {σ : Type} {compilation : Compilation}
    (grown : compilation.snapshot.Grown) (output : Output σ) (store : σ) :
    (compilation.run output store).compilation.snapshot.Grown :=
  Run.kept_rounds Snapshot.Grown (fun round held => .moved held round)
    (fun sound made held ok => .joined held sound made ok) grown

namespace Snapshot

/-- **The constructors of a generated class.**  There is one for each constructor of the class that is
extended, in the same order.  It takes the delegates before what the original constructor takes, and
however it is called, each field gets the value in the position of its delegate and the original
constructor gets the others, each in its place.  In a compilation, those that take any number of
arguments take them in an array. -/
theorem constructors_correct {snapshot : Snapshot} {table : SymbolTable} {decl : TypeDecl}
    {plan : Plan} {result : Synthesised} (accepted : validate table decl = .accepted plan)
    (ok : synthesise snapshot.table plan = .ok result) :
    ∃ parent, snapshot.lookup plan.superclass = some parent ∧
      result.base.superclass = plan.superclass ∧
      result.base.fields.map (·.name) = plan.delegates.map (·.field) ∧
      List.Forall₂ (fun original made => made.Constructs plan.delegates original)
        parent.constructors result.base.constructors ∧
      (snapshot.Grown → ∀ made ∈ result.base.constructors,
        made.varargs → Conversion.endsInArray made.parameters) := by
  obtain ⟨decls, parent, -, extended, rfl⟩ := synthesise_eq_ok_iff.mp ok
  obtain ⟨found, -⟩ := superclassDecl_eq_ok_iff.mp extended
  refine ⟨parent, found, rfl, List.map_map, List.forall₂_map_right_iff.mpr ?_, ?_⟩
  · refine List.forall₂_same.mpr fun original mem => ?_
    exact constructs_forwardConstructor (nodup_field_of_validate accepted)
      fun field asked => isIdentifier_field_of_validate accepted asked
  · intro grown made mem takesAny
    obtain ⟨original, listed, rfl⟩ := List.mem_map.mp mem
    exact endsInArray_forwardConstructor plan.delegates
      (grown.arrayed_of_lookup found listed takesAny)

/-- The parameters of the second constructor have the name of a field, of a parameter renamed before,
a keyword, no name, and a name given before. -/
def clashing : List TypeDefinition :=
  [{ name := "foo.I", kind := .interface },
   { name := "foo.J", kind := .interface },
   { name := "foo.S", kind := .class_
     constructors :=
      [{}, { parameters := [⟨"j", "int"⟩, ⟨"j_", "foo.I"⟩, ⟨"class", "long"⟩, ⟨"", "char"⟩,
               ⟨"j", "java.lang.String[]"⟩]
             varargs := true, throws := ["java.io.IOException"] }] },
   { name := "foo.C", kind := .class_, extends? := some "foo.AutoDelegate_C"
     request? := some ⟨[⟨"foo.I", some "i"⟩, ⟨"foo.J", some "j"⟩], some "foo.S"⟩ }]

/-- What `foo.C` asks for. -/
def planOfClashing : Plan :=
  ⟨⟨"foo", "C", []⟩, ⟨"foo", "AutoDelegate_C", []⟩, ⟨"foo", "S", []⟩,
    [⟨⟨"foo", "I", []⟩, "i"⟩, ⟨⟨"foo", "J", []⟩, "j"⟩]⟩

/-- All parameters are told apart, and all arguments arrive. -/
theorem constructors_correct_clashing :
    let snapshot := Snapshot.sample clashing
    let decl := (snapshot.lookup ⟨"foo", "C", []⟩).getD default
    snapshot.Grown ∧ validate snapshot.table decl = .accepted planOfClashing ∧
    ∃ result, synthesise snapshot.table planOfClashing = .ok result ∧
      result.base.constructors.map (·.parameters.map (·.name)) =
        [["i", "j"], ["i", "j", "j_", "j__", "class_", "__", "j___"]] ∧
      ∃ parent, snapshot.lookup ⟨"foo", "S", []⟩ = some parent ∧
        result.base.superclass = ⟨"foo", "S", []⟩ ∧
        result.base.fields.map (·.name) = ["i", "j"] ∧
        List.Forall₂ (fun original made => made.Constructs planOfClashing.delegates original)
          parent.constructors result.base.constructors ∧
        ∀ made ∈ result.base.constructors,
          made.varargs → Conversion.endsInArray made.parameters := by
  intro snapshot decl
  have grown : snapshot.Grown := .read (ofTypes_sample (by decide +kernel))
  have accepted : validate snapshot.table decl = .accepted planOfClashing := by decide +kernel
  have names : (synthesise snapshot.table planOfClashing).toOption.map
      (·.base.constructors.map (·.parameters.map (·.name))) =
        some [["i", "j"], ["i", "j", "j_", "j__", "class_", "__", "j___"]] := by decide +kernel
  cases ok : synthesise snapshot.table planOfClashing with
  | error obstacle => simp [ok, Except.toOption] at names
  | ok result =>
      rw [ok] at names
      obtain ⟨parent, found, superclass, fields, constructors, arrays⟩ :=
        constructors_correct accepted ok
      exact ⟨grown, accepted, result, rfl, Option.some.inj names, parent, found, superclass, fields,
        constructors, arrays grown⟩

end Snapshot

end Delegation
