import Delegation.BaseClass
import Delegation.Fault
import Delegation.Java.TypeName.Reader
import Delegation.Snapshot.Definition

/-!
# From definitions to declarations

Reading the names and types of a definition.  What a declaration leaves unsaid is filled in: the
members of an interface are public, and a type that has constructors has one.

## Main Definitions

* `Entry` — a declaration with what a snapshot keeps about it.
* `TypeDefinition.toEntry` — read a definition.
* `Entry.object`, `Entry.ofBase` — the entries of the root class and of a generated class.
-/

namespace Delegation

open Java

/-- A declared type of a snapshot. -/
structure Entry where
  /-- The superclass clause as written. -/
  extends? : Option String
  /-- The first round in which the type is visible. -/
  round : Nat
  /-- The declaration; its superclass is that of the snapshot's current round. -/
  decl : TypeDecl
deriving DecidableEq, Repr, Inhabited

namespace Entry

/-- The name under which an entry is found. -/
def name (entry : Entry) : ClassName := entry.decl.name

/-- Whether a type is first visible in `round`; there is no round before the first. -/
def startsIn (entry : Entry) (round : Nat) : Bool :=
  entry.round == round || (round ≤ 1 && entry.round ≤ 1)

end Entry

namespace Conversion

/-- Read a class name. -/
def className (text : String) : Except Fault ClassName :=
  match ClassName.ofDotted? text with
  | some name => .ok name
  | none => .error (.badTypeName text)

/-- Read a type. -/
def typeName (text : String) : Except Fault TypeName :=
  match TypeName.ofText? text with
  | some type => .ok type
  | none => .error (.badTypeName text)

/-- Whether the last parameter is an array, as a member that takes any number of arguments needs. -/
def endsInArray (parameters : List Parameter) : Bool :=
  match parameters.getLast? with
  | some ⟨_, .array _⟩ => true
  | _ => false

/-- Read a parameter. -/
def parameter (definition : ParameterDefinition) : Except Fault Parameter := do
  return ⟨definition.name, ← typeName definition.type⟩

/-- Read the parameters of a member. -/
def parameters (definitions : List ParameterDefinition) (varargs : Bool) (member : MemberName) :
    Except Fault (List Parameter) := do
  let parameters ← definitions.mapM parameter
  if varargs && !endsInArray parameters then
    throw (.badSnapshot (.varargsWithoutArray member))
  return parameters

/-- The modifiers of a method; a member of an interface is public unless it says otherwise. -/
def methodModifiers (kind : TypeKind) (modifiers : List Modifier) : List Modifier :=
  if kind = .interface && !modifiers.contains .private_ && !modifiers.contains .public_ then
    modifiers ++ [.public_]
  else modifiers

/-- Read a method of the type `owner`. -/
def method (owner : ClassName) (kind : TypeKind) (definition : MethodDefinition) :
    Except Fault Method := do
  let returns ← typeName definition.returns
  let parameters ← parameters definition.parameters definition.varargs
    (.method owner definition.name)
  let throws ← definition.throws.mapM typeName
  return {
    name := definition.name
    returns, parameters
    varargs := definition.varargs
    throws
    modifiers := methodModifiers kind definition.modifiers
    owner }

/-- Read a constructor of the type `owner`. -/
def constructor (owner : ClassName) (definition : ConstructorDefinition) :
    Except Fault Constructor := do
  let parameters ← parameters definition.parameters definition.varargs (.constructor owner)
  let throws ← definition.throws.mapM typeName
  return {
    parameters
    varargs := definition.varargs
    throws
    modifiers := definition.modifiers }

/-- Give a type without constructors the implicit one, if its kind has constructors. -/
def withImplicit (kind : TypeKind) (constructors : List Constructor) : List Constructor :=
  if constructors.isEmpty && kind.hasConstructors then [.implicit] else constructors

end Conversion

open Conversion in
/-- Read a type definition. -/
def TypeDefinition.toEntry (definition : TypeDefinition) : Except Fault Entry := do
  let name ← className definition.name
  let methods ← definition.methods.mapM (method name definition.kind)
  let constructors ← definition.constructors.mapM (constructor name)
  let interfaces ← definition.interfaces.mapM className
  if definition.kind ≠ .class_ && definition.extends?.isSome && name ≠ .object then
    throw (.badSnapshot (.extendsClass name definition.kind))
  return {
    extends? := definition.extends?
    round := max definition.round 1
    decl := {
      name
      kind := definition.kind
      modifiers := definition.modifiers
      superclass := .absent
      interfaces, methods
      constructors := withImplicit definition.kind constructors
      request? := definition.request? } }

namespace Entry

/-- A public method of the root class. -/
def objectMethod (name : String) (returns : TypeName) (parameters : List Parameter) : Method :=
  ⟨name, returns, parameters, false, [], [.public_], .object⟩

/-- The root class. -/
def object : Entry where
  extends? := none
  round := 1
  decl := {
    name := .object
    kind := .class_
    modifiers := [.public_]
    superclass := .absent
    interfaces := []
    methods := [
      objectMethod "equals" (.primitive .boolean) [⟨"obj", .plain .object⟩],
      objectMethod "hashCode" (.primitive .int) [],
      objectMethod "toString" (.plain ⟨"java.lang", "String", []⟩) []]
    constructors := [⟨[], false, [], [.public_]⟩]
    request? := none }

/-- The entry of a generated class, as the compiler reads it from its source. -/
def ofBase (base : BaseClass) (round : Nat) : Entry where
  extends? := some base.superclass.qualified
  round := round
  decl := {
    name := base.name
    kind := .class_
    modifiers := [.abstract]
    superclass := .resolved base.superclass
    interfaces := base.interfaces
    methods := base.methods.map fun m =>
      ⟨m.name, m.returns, m.parameters, m.varargs, m.throws, [.public_], base.name⟩
    constructors := base.constructors.map fun c => ⟨c.parameters, c.varargs, c.throws, []⟩
    request? := none }

end Entry

end Delegation
