import Delegation.Request
import Delegation.Java.TypeName

/-!
# Declarations

A declared type as the compiler sees it: its kind and modifiers, its place in the hierarchy, its
members, and what its delegation annotation asks for if it has one.

## Main Definitions

* `TypeKind`, `Modifier` — what a declaration is and how it is marked.
* `Method`, `Constructor`, `Parameter` — members.
* `Signature` — a method's identity for overriding.
* `Superclass` — the superclass clause, resolved or not.
* `TypeDecl` — a declared type.
-/

namespace Delegation

open Java

/-- The kinds of type declarations. -/
inductive TypeKind
  | class_
  | interface
  | enum
  | annotationType
  | record
deriving DecidableEq, Repr, Inhabited

namespace TypeKind

/-- What a declaration of the kind is called in a message. -/
def label : TypeKind → String
  | class_ => "class"
  | interface => "interface"
  | enum => "enum"
  | annotationType => "annotation type"
  | record => "record"

/-- The word that stands for the kind in a snapshot. -/
def word : TypeKind → String
  | annotationType => "annotation"
  | kind => kind.label

/-- Every kind. -/
def all : List TypeKind := [class_, interface, enum, annotationType, record]

/-- The kind a word stands for. -/
def ofWord? (word : String) : Option TypeKind := all.find? (·.word == word)

/-- Whether instances of the kind are made by constructors. -/
def hasConstructors : TypeKind → Bool
  | class_ | enum | record => true
  | interface | annotationType => false

/-- Whether the members of the kind that are types are static without saying so. -/
def makesMembersStatic : TypeKind → Bool
  | interface | annotationType => true
  | class_ | enum | record => false

end TypeKind

/-- The modifiers that matter here. -/
inductive Modifier
  | public_
  | protected_
  | private_
  | static
  | final
  | abstract
  | default
deriving DecidableEq, Repr, Inhabited

namespace Modifier

/-- The keyword of a modifier. -/
def word : Modifier → String
  | public_ => "public"
  | protected_ => "protected"
  | private_ => "private"
  | static => "static"
  | final => "final"
  | abstract => "abstract"
  | default => "default"

/-- Every modifier. -/
def all : List Modifier := [public_, protected_, private_, static, final, abstract, default]

/-- The modifier a word is the keyword of. -/
def ofWord? (word : String) : Option Modifier := all.find? (·.word == word)

end Modifier

/-- A parameter of a method or constructor. -/
structure Parameter where
  name : String
  type : TypeName
deriving DecidableEq, Repr, Inhabited

/-- What identifies a method when it is overridden: its name and the text of its parameter types. -/
structure Signature where
  name : String
  parameterTypes : List String
deriving DecidableEq, Repr, Inhabited

/-- The signature as it is shown. -/
def Signature.text (signature : Signature) : String :=
  signature.name ++ "(" ++ ", ".intercalate signature.parameterTypes ++ ")"

/-- A method of a declared type. -/
structure Method where
  name : String
  returns : TypeName
  parameters : List Parameter
  /-- Whether the last parameter takes any number of arguments. -/
  varargs : Bool
  throws : List TypeName
  modifiers : List Modifier
  /-- The type whose declaration contains the method. -/
  owner : ClassName
deriving DecidableEq, Repr, Inhabited

namespace Method

/-- The identity of the method for overriding. -/
def signature (method : Method) : Signature :=
  ⟨method.name, method.parameters.map (·.type.text)⟩

/-- Whether the method belongs to the type and not to its instances. -/
def isStatic (method : Method) : Bool := method.modifiers.contains .static

/-- Whether the method is hidden from other types. -/
def isPrivate (method : Method) : Bool := method.modifiers.contains .private_

end Method

/-- A constructor of a declared type. -/
structure Constructor where
  parameters : List Parameter
  /-- Whether the last parameter takes any number of arguments. -/
  varargs : Bool
  throws : List TypeName
  modifiers : List Modifier
deriving DecidableEq, Repr, Inhabited

/-- The constructor of a class that declares none. -/
def Constructor.implicit : Constructor := ⟨[], false, [], []⟩

/-- The superclass clause of a declaration, as far as it is understood in a round. -/
inductive Superclass
  /-- There is no superclass: the type is no class, or the root. -/
  | absent
  /-- A type that is visible. -/
  | resolved (name : ClassName)
  /-- A name that denotes no visible type, as written. -/
  | unresolved (text : String)
deriving DecidableEq, Repr, Inhabited

/-- A declared type. -/
structure TypeDecl where
  name : ClassName
  kind : TypeKind
  modifiers : List Modifier
  superclass : Superclass
  /-- The interfaces a class implements or an interface extends, as far as the clause goes. -/
  interfaces : List ClassName
  methods : List Method
  constructors : List Constructor
  /-- What the delegation annotation asks for, if the type carries one. -/
  request? : Option Request
deriving DecidableEq, Repr, Inhabited

namespace TypeDecl

/-- Whether the declaration is marked by a modifier. -/
def has (decl : TypeDecl) (modifier : Modifier) : Bool := decl.modifiers.contains modifier

/-- What the declaration asks for, nothing if it is not annotated. -/
def request (decl : TypeDecl) : Request := decl.request?.getD .empty

end TypeDecl

end Delegation
