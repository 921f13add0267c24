import Delegation.Symbol.Declaration

/-!
# Generated base classes

The content of a class to be generated: an abstract class with one field per delegate, constructors
that pass the delegates in, and methods that forward to them.  It is data; its text is made
elsewhere.

## Main Definitions

* `BaseClass` — the class, with its `Field`s, `BaseConstructor`s and `Forwarder`s.
* `BaseClass.classes` — every class it mentions.
-/

namespace Delegation

open Java

/-- The field that holds a delegate. -/
structure Field where
  name : String
  interface : ClassName
deriving DecidableEq, Repr, Inhabited

/-- A generated constructor: it takes the delegates and the arguments of the superclass. -/
structure BaseConstructor where
  parameters : List Parameter
  varargs : Bool
  throws : List TypeName
  /-- The parameters passed to the constructor of the superclass. -/
  superArguments : List String
  /-- The fields set from the parameters of the same names. -/
  assignedFields : List String
deriving DecidableEq, Repr, Inhabited

/-- A generated method: it calls the method of the same name on a delegate. -/
structure Forwarder where
  name : String
  returns : TypeName
  parameters : List Parameter
  varargs : Bool
  throws : List TypeName
  /-- The field whose method is called. -/
  field : String
deriving DecidableEq, Repr, Inhabited

/-- Whether the result of the call is passed on. -/
def Forwarder.returnsValue (method : Forwarder) : Bool := !method.returns.isVoid

/-- A class to be generated. -/
structure BaseClass where
  name : ClassName
  superclass : ClassName
  interfaces : List ClassName
  fields : List Field
  constructors : List BaseConstructor
  methods : List Forwarder
deriving DecidableEq, Repr, Inhabited

/-- The types of a member's parameters and of its `throws` clause. -/
def signatureTypes (parameters : List Parameter) (throws : List TypeName) : List TypeName :=
  parameters.map (·.type) ++ throws

namespace BaseClass

/-- The types that the members mention, in reading order. -/
def memberTypes (base : BaseClass) : List TypeName :=
  base.constructors.flatMap (fun c => signatureTypes c.parameters c.throws) ++
    base.methods.flatMap (fun m => m.returns :: signatureTypes m.parameters m.throws)

/-- Every class that the class mentions, in reading order and as often as it occurs; its own name
is not among them. -/
def classes (base : BaseClass) : List ClassName :=
  base.superclass :: (base.interfaces ++ base.fields.map (·.interface) ++
    base.memberTypes.flatMap TypeName.classes)

/-- The methods with a name, in order. -/
def methodsNamed (base : BaseClass) (name : String) : List Forwarder :=
  base.methods.filter (·.name == name)

/-- The first field with a name. -/
def field? (base : BaseClass) (name : String) : Option Field :=
  base.fields.find? (·.name == name)

end BaseClass

end Delegation
