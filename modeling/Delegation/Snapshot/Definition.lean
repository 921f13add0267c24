import Delegation.Options
import Delegation.Request
import Delegation.Symbol.Declaration

/-!
# Type definitions

The types of a snapshot as they are written down: every name and type is still text, and what is
left out has its default.

## Main Definitions

* `TypeDefinition` — a type with its `MethodDefinition`s and `ConstructorDefinition`s.
* `SnapshotDefinition` — the types and the options of a snapshot.
-/

namespace Delegation

/-- A parameter as written. -/
structure ParameterDefinition where
  name : String
  type : String
deriving DecidableEq, Repr, Inhabited

/-- A method as written. -/
structure MethodDefinition where
  name : String
  returns : String := "void"
  parameters : List ParameterDefinition := []
  varargs : Bool := false
  throws : List String := []
  modifiers : List Modifier := []
deriving DecidableEq, Repr, Inhabited

/-- A constructor as written. -/
structure ConstructorDefinition where
  parameters : List ParameterDefinition := []
  varargs : Bool := false
  throws : List String := []
  modifiers : List Modifier := []
deriving DecidableEq, Repr, Inhabited

/-- A type as written. -/
structure TypeDefinition where
  /-- The dotted name; nested types follow their enclosing type. -/
  name : String
  kind : TypeKind
  modifiers : List Modifier := []
  /-- The superclass clause, if there is one. -/
  extends? : Option String := none
  interfaces : List String := []
  methods : List MethodDefinition := []
  constructors : List ConstructorDefinition := []
  /-- The first round in which the type is visible. -/
  round : Nat := 1
  /-- The content of the delegation annotation, if the type carries one. -/
  request? : Option Request := none
deriving DecidableEq, Repr, Inhabited

/-- A snapshot as written. -/
structure SnapshotDefinition where
  options : Options := {}
  types : List TypeDefinition := []
deriving DecidableEq, Repr, Inhabited

end Delegation
