import Delegation.Proofs.Java.CanonicalText
import Delegation.Proofs.Symbol.Overriding
import Delegation.Proofs.Synthesis.Construction
import Delegation.Proofs.Synthesis.Gathering

/-!
# Signatures stand for types

A signature holds the canonical texts of the parameter types, and overriding is decided by comparing
signatures.  Nothing is lost by that: the parameter types of a snapshot's methods were read from texts,
those of its generated classes through the methods that they forward to, so the texts are the same only
if the types are.

## Main Definitions

* `Snapshot.Typed` — snapshots to which only base classes with types from texts were added.

## Main Statements

* `Snapshot.Typed.readable` — the parameter types in such a snapshot were read from texts.
* `Snapshot.Grown.typed` — a compilation comes to such snapshots only.
* `Snapshot.Typed.signature_eq_iff` — when two methods have the same signature.
* `texts_determine_types` — types and their texts, methods and their signatures.
-/

namespace Delegation

open Java Synthesis

/-- The signature of a method has the texts of the types that it takes. -/
theorem Method.signature_eq (method : Method) : method.signature =
    ⟨method.name, (method.parameters.map (·.type)).map TypeName.text⟩ := by
  rw [List.map_map]
  rfl

/-- The types of the parameters can be read. -/
def Parameter.AllReadable (parameters : List Parameter) : Prop :=
  ∀ parameter ∈ parameters, parameter.type.Readable

/-! ## Reading members -/

/-- A method that is read takes what was read. -/
theorem Conversion.allReadable_of_method {owner : ClassName} {kind : TypeKind}
    {definition : MethodDefinition} {result : Method}
    (read : method owner kind definition = .ok result) :
    Parameter.AllReadable result.parameters := by
  simp only [method, parameters, bind_eq_ok_iff] at read
  obtain ⟨returns, -, read_parameters, ⟨all, readAll, checked⟩, throws, -, same⟩ := read
  split at checked
  · obtain ⟨_, thrown, -⟩ := bind_eq_ok_iff.mp checked
    cases thrown
  · cases checked
    cases same
    intro result mem
    obtain ⟨source, -, readOne⟩ := exists_of_mem_mapM readAll mem
    simp only [parameter, bind_eq_ok_iff] at readOne
    obtain ⟨type, readType, same⟩ := readOne
    cases same
    rw [typeName] at readType
    split at readType
    · rename_i found
      cases readType
      exact TypeName.readable_of_ofText? found
    · cases readType

/-- The methods of a type that is read take what was read. -/
theorem TypeDefinition.allReadable_of_toEntry {definition : TypeDefinition} {entry : Entry}
    (read : definition.toEntry = .ok entry) : ∀ method ∈ entry.decl.methods,
      Parameter.AllReadable method.parameters := by
  simp only [toEntry, bind_eq_ok_iff] at read
  obtain ⟨name, -, methods, readMethods, constructors, -, interfaces, -, read⟩ := read
  split at read
  · obtain ⟨_, thrown, -⟩ := bind_eq_ok_iff.mp read
    cases thrown
  · cases read
    intro method mem
    obtain ⟨source, -, readMethod⟩ := exists_of_mem_mapM readMethods mem
    exact Conversion.allReadable_of_method readMethod

/-- The methods of the root class can be read. -/
theorem Entry.allReadable_object : ∀ method ∈ object.decl.methods,
    Parameter.AllReadable method.parameters := by
  have root : (TypeName.plain .object).Readable :=
    TypeName.readable_iff.mpr ⟨"java.lang.Object", by decide +kernel⟩
  simp only [object, objectMethod, List.forall_mem_cons, Parameter.AllReadable]
  exact ⟨⟨root, List.forall_mem_nil _⟩, List.forall_mem_nil _, List.forall_mem_nil _,
    List.forall_mem_nil _⟩

namespace Snapshot

/-! ## Types in a snapshot -/

/-- The snapshots that were read from definitions, moved to any round, and extended by base classes
whose methods take what was read from texts. -/
inductive Typed : Snapshot → Prop
  | read {types : List TypeDefinition} {options : Options} {snapshot : Snapshot}
      (ok : ofTypes types options = .ok snapshot) : Typed snapshot
  | moved {snapshot : Snapshot} (typed : Typed snapshot) (round : Nat) :
      Typed (snapshot.setRound round)
  | joined {snapshot snapshot' : Snapshot} (typed : Typed snapshot) {base : BaseClass}
      (readable : ∀ forwarder ∈ base.methods, Parameter.AllReadable forwarder.parameters)
      (ok : snapshot.register base = .ok snapshot') : Typed snapshot'

namespace Typed

variable {snapshot : Snapshot}

/-- **The parameter types of a snapshot were read from texts.** -/
theorem readable (typed : snapshot.Typed) : ∀ entry ∈ snapshot.written,
    ∀ method ∈ entry.decl.methods, Parameter.AllReadable method.parameters := by
  induction typed with
  | @read types options snapshot ok =>
      obtain ⟨declared, all, same⟩ := bind_eq_ok_iff.mp ok
      cases same
      obtain ⟨wf, -, entries, readAll, listed⟩ := (wellFormed_empty options).declareAll all
      intro entry mem
      rw [written_refresh, wf.written_withObject] at mem
      rcases List.mem_append.mp mem with own | root
      · obtain ⟨original, among, rfl⟩ := List.mem_map.mp own
        rw [listed, empty, List.nil_append] at among
        obtain ⟨definition, -, read⟩ := exists_of_mem_mapM readAll among
        exact fun method => TypeDefinition.allReadable_of_toEntry read method
      · split at root
        · cases root
        · rw [List.mem_singleton.mp root]
          exact fun method => Entry.allReadable_object method
  | moved _ round ih =>
      rw [written_setRound]
      exact ih
  | joined _ readable ok ih =>
      intro entry mem
      rw [written_register ok] at mem
      rcases List.mem_append.mp mem with before | new
      · exact ih entry before
      · rw [List.mem_singleton.mp new]
        intro method mem
        obtain ⟨forwarder, among, rfl⟩ := List.mem_map.mp mem
        exact readable forwarder among

/-- **Two methods have the same signature just if they have the same name and take the same types.** -/
theorem signature_eq_iff (typed : snapshot.Typed) {entry other : Entry}
    (mem : entry ∈ snapshot.entries.toList) (mem' : other ∈ snapshot.entries.toList)
    {method method' : Method} (declared : method ∈ entry.decl.methods)
    (declared' : method' ∈ other.decl.methods) :
    method.signature = method'.signature ↔ method.name = method'.name ∧
      method.parameters.map (·.type) = method'.parameters.map (·.type) := by
  have readable : ∀ type ∈ method.parameters.map (·.type), type.Readable :=
    List.forall_mem_map.mpr (typed.readable _ (List.mem_map_of_mem mem) method declared)
  have readable' : ∀ type ∈ method'.parameters.map (·.type), type.Readable :=
    List.forall_mem_map.mpr (typed.readable _ (List.mem_map_of_mem mem') method' declared')
  rw [Method.signature_eq, Method.signature_eq, Signature.mk.injEq]
  refine and_congr_right fun _ => ⟨fun texts => ?_, fun types => by rw [types]⟩
  exact TypeName.eq_of_map_text_eq readable readable' texts

end Typed

/-- A method that is forwarded takes what the method takes that it forwards to, and that one is declared
in the snapshot. -/
theorem exists_of_mem_methods {snapshot : Snapshot} (reached : snapshot.Reached) {plan : Plan}
    {result : Synthesised} (made : synthesise snapshot.table plan = .ok result)
    {forwarder : Forwarder} (mem : forwarder ∈ result.base.methods) :
    ∃ entry ∈ snapshot.written, ∃ method ∈ entry.decl.methods,
      forwarder.parameters = method.parameters := by
  obtain ⟨delegate, method, ⟨decl, found, first, -⟩, rfl, -⟩ :=
    (mem_methods_of_synthesise_iff made).mp mem
  have lawful := reached.wellFormed.lawful
  have visible : snapshot.table.lookup decl.name = some decl := by
    rw [lawful _ _ found]
    exact found
  obtain ⟨type, listed, declared⟩ := List.mem_flatMap.mp (List.mem_of_find?_eq_some first)
  obtain ⟨entry, among, -, -, rfl⟩ := reached.wellFormed.lookup_eq_some_iff.mp
    (lawful.lookup_of_mem_lineage visible listed)
  exact ⟨_, List.mem_map_of_mem among, method, declared, rfl⟩

/-- The base classes that are synthesised take what the methods take that they forward to. -/
theorem Grown.typed {snapshot : Snapshot} (grown : snapshot.Grown) : snapshot.Typed := by
  induction grown with
  | read ok => exact .read ok
  | moved _ round ih => exact .moved ih round
  | joined _ sound made ok ih ihSource =>
      refine .joined ih (fun forwarder mem => ?_) ok
      obtain ⟨entry, listed, method, declared, same⟩ :=
        exists_of_mem_methods sound.reached made mem
      rw [same]
      exact ihSource.readable entry listed method declared

end Snapshot

/-- **Texts determine types.**  The canonical text of a type that was read reads as the type, so to print
what was read and to read it again changes no text any more, and types that were read have the same text
just if they are the same.  The snapshots of a compilation contain only such types; and two methods of a
snapshot have the same signature just if they have the same name and take the same types. -/
theorem texts_determine_types :
    (∀ text type, TypeName.ofText? text = some type → TypeName.ofText? type.text = some type) ∧
    (∀ text printed, TypeName.canonical? text = some printed →
      TypeName.canonical? printed = some printed) ∧
    (∀ text type text' type', TypeName.ofText? text = some type →
      TypeName.ofText? text' = some type' → (type.text = type'.text ↔ type = type')) ∧
    (∀ snapshot : Snapshot, snapshot.Grown → snapshot.Typed) ∧
    ∀ snapshot : Snapshot, snapshot.Typed →
      ∀ entry ∈ snapshot.entries.toList, ∀ other ∈ snapshot.entries.toList,
      ∀ method ∈ entry.decl.methods, ∀ method' ∈ other.decl.methods,
        (method.signature = method'.signature ↔ method.name = method'.name ∧
          method.parameters.map (·.type) = method'.parameters.map (·.type)) := by
  refine ⟨?_, ?_, ?_, fun _ grown => grown.typed, ?_⟩
  · intro text type read
    exact (TypeName.readable_of_ofText? read).ofText?_text
  · intro text printed same
    obtain ⟨type, read, rfl⟩ := Option.map_eq_some_iff.mp same
    rw [TypeName.canonical?, (TypeName.readable_of_ofText? read).ofText?_text]
    rfl
  · intro text type text' type' read read'
    refine ⟨fun same => ?_, fun same => by rw [same]⟩
    exact (TypeName.readable_of_ofText? read).eq_of_text_eq (TypeName.readable_of_ofText? read') same
  · intro snapshot typed entry mem other mem' method declared method' declared'
    exact typed.signature_eq_iff mem mem' declared declared'

section Overloads

/-- An array of maps from some arrays to arrays of numbers. -/
def arrayOfMaps (bound : Bound) : TypeName :=
  .array (.declared ⟨"java.util", "Map", []⟩
    [.bounded bound (.array (.plain ⟨"foo", "Bar", []⟩)), .array (.primitive .int)])

/-- A method that takes one of them. -/
def takesMaps (parameter : String) (bound : Bound) : Method :=
  ⟨"m", .void, [⟨parameter, arrayOfMaps bound⟩], false, [], [.public_], ⟨"foo", "I", []⟩⟩

/-- Two of these methods, in different spelling, and one with another bound. -/
def overloads : List TypeDefinition :=
  [{ name := "foo.I", kind := .interface
     methods :=
      [{ name := "m", parameters := [⟨"p", "java.util.Map<? extends foo.Bar[], int[]>[]"⟩] },
       { name := "m", parameters := [⟨"q", " java.util.Map < ?extends foo.Bar[ ],int []>[ ] "⟩] },
       { name := "m", parameters := [⟨"p", "java.util.Map<? super foo.Bar[], int[]>[]"⟩] }] }]

/-- The spelling makes no difference, and the bound does. -/
theorem texts_determine_types_overloads :
    TypeName.ofText? " java.util.Map < ?extends foo.Bar[ ],int []>[ ] " = some (arrayOfMaps .upper) ∧
    TypeName.ofText? (arrayOfMaps .upper).text = some (arrayOfMaps .upper) ∧
    (Snapshot.sample overloads).Grown ∧ (Snapshot.sample overloads).Typed ∧
    ∃ entry ∈ (Snapshot.sample overloads).entries.toList,
      entry.decl.methods = [takesMaps "p" .upper, takesMaps "q" .upper, takesMaps "p" .lower] ∧
      (takesMaps "p" .upper).signature = (takesMaps "q" .upper).signature ∧
      (takesMaps "p" .upper).signature ≠ (takesMaps "p" .lower).signature := by
  obtain ⟨reads, -, -, grows, signatures⟩ := texts_determine_types
  have read : TypeName.ofText? " java.util.Map < ?extends foo.Bar[ ],int []>[ ] " =
      some (arrayOfMaps .upper) := by decide +kernel
  have grown : (Snapshot.sample overloads).Grown :=
    .read (Snapshot.ofTypes_sample (by decide +kernel))
  have methods : (Snapshot.sample overloads).entries.toList.head?.map (·.decl.methods) =
      some [takesMaps "p" .upper, takesMaps "q" .upper, takesMaps "p" .lower] := by decide +kernel
  obtain ⟨entry, found, declared⟩ := Option.map_eq_some_iff.mp methods
  have mem := List.mem_of_head? found
  have compare := signatures _ (grows _ grown) entry mem entry mem
  rw [declared] at compare
  refine ⟨read, reads _ _ read, grown, grows _ grown, entry, mem, declared, ?_, ?_⟩
  · exact (compare _ (by simp) _ (by simp)).mpr ⟨rfl, rfl⟩
  · exact fun same => absurd ((compare _ (by simp) _ (by simp)).mp same).2 (by decide)

end Overloads

end Delegation
