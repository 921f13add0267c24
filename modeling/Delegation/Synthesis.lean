import Delegation.BaseClass
import Delegation.Fault
import Delegation.Java.FreshName
import Delegation.Plan
import Delegation.Symbol.Hierarchy

/-!
# Synthesis

The content of the base class for a plan: one field per delegate, one constructor per constructor
of the superclass, and one forwarding method per signature that the delegates' interfaces have.

## Main Definitions

* `Collision` — a signature that several delegates have.
* `Obstacle` — why there is no class: a parent is not visible yet, or the plan is contradicted.
* `synthesise` — the class for a plan, and its collisions.
-/

namespace Delegation

open Java

/-- A signature that several delegates have.  Only the first of them is forwarded to. -/
structure Collision where
  signature : Signature
  /-- The interface that is forwarded to. -/
  chosen : ClassName
  /-- The other interfaces, in declaration order. -/
  shadowed : List ClassName
deriving DecidableEq, Repr, Inhabited

/-- The class for a plan. -/
structure Synthesised where
  base : BaseClass
  collisions : List Collision
deriving DecidableEq, Repr, Inhabited

/-- Why there is no class for a plan. -/
inductive Obstacle
  /-- An interface that a delegate inherits from is not visible yet. -/
  | awaits (parent : ClassName)
  /-- The symbols contradict the plan. -/
  | contradicts (contradiction : Contradiction)
deriving DecidableEq, Repr, Inhabited

namespace Synthesis

/-- The declaration of a delegate's interface, all of whose parents must be visible. -/
def delegateDecl (table : SymbolTable) (delegate : Delegate) : Except Obstacle TypeDecl :=
  match table.lookup delegate.interface with
  | none => .error (.contradicts (.delegateNotVisible delegate.interface))
  | some decl =>
    if decl.kind = .interface then
      match table.missingParent? decl with
      | some parent => .error (.awaits parent)
      | none => .ok decl
    else .error (.contradicts (.delegateNotInterface delegate.interface))

/-- The declaration of the superclass. -/
def superclassDecl (table : SymbolTable) (name : ClassName) : Except Obstacle TypeDecl :=
  match table.lookup name with
  | none => .error (.contradicts (.superclassNotVisible name))
  | some decl =>
    if decl.kind = .class_ then .ok decl
    else .error (.contradicts (.superclassNotClass name))

/-! ### Constructors -/

/-- The parameter that brings in a delegate. -/
def delegateParameter (delegate : Delegate) : Parameter :=
  ⟨delegate.field, .plain delegate.interface⟩

/-- Take the delegates, then what the constructor of the superclass takes.  The parameters of the
latter are renamed where they would hide a delegate. -/
def forwardConstructor (delegates : List Delegate) (constructor : Constructor) :
    BaseConstructor :=
  let fields := delegates.map (·.field)
  let supply := NameSupply.empty.reserveAll fields
  let names := (supply.allocateAll (constructor.parameters.map (·.name))).1
  { parameters := delegates.map delegateParameter ++
      names.zipWith (fun name parameter => ⟨name, parameter.type⟩) constructor.parameters
    varargs := constructor.varargs
    throws := constructor.throws
    superArguments := names
    assignedFields := fields }

/-! ### Methods -/

/-- Whether a method can and must be forwarded: it belongs to instances, others may call it, and
the root class does not provide it. -/
def isForwardable (root : ClassName) (method : Method) : Bool :=
  !method.isStatic && !method.isPrivate && method.owner != root

/-- The methods to forward to a delegate. -/
def forwardable (table : SymbolTable) (decl : TypeDecl) : List Method :=
  (table.members decl).filter (isForwardable table.root)

/-- The method that forwards to a field. -/
def forward (field : String) (method : Method) : Forwarder :=
  { name := method.name
    returns := method.returns
    parameters := method.parameters
    varargs := method.varargs
    throws := method.throws
    field }

/-- The methods gathered from some of the delegates. -/
structure Gathering where
  /-- The delegate of each signature met so far. -/
  owners : List (Signature × ClassName)
  /-- The forwarding methods, one per signature. -/
  methods : List Forwarder
  /-- The signatures met more than once. -/
  collisions : List Collision
deriving DecidableEq, Repr, Inhabited

namespace Gathering

/-- No method has been met. -/
def empty : Gathering := ⟨[], [], []⟩

/-- Add an interface to the collision of a signature, which may be new. -/
def shadow (collisions : List Collision) (signature : Signature) (chosen other : ClassName) :
    List Collision :=
  if collisions.any (·.signature == signature) then
    collisions.map fun collision =>
      if collision.signature = signature then
        { collision with shadowed := collision.shadowed ++ [other] }
      else collision
  else collisions ++ [⟨signature, chosen, [other]⟩]

/-- Add a method of a delegate. -/
def add (gathering : Gathering) (delegate : Delegate) (method : Method) : Gathering :=
  let signature := method.signature
  match gathering.owners.lookup signature with
  | some chosen =>
    { gathering with
      collisions := shadow gathering.collisions signature chosen delegate.interface }
  | none =>
    { gathering with
      owners := gathering.owners ++ [(signature, delegate.interface)]
      methods := gathering.methods ++ [forward delegate.field method] }

/-- Add all methods of a delegate. -/
def addAll (gathering : Gathering) (delegate : Delegate) (methods : List Method) : Gathering :=
  methods.foldl (·.add delegate ·) gathering

end Gathering

/-- Gather the methods of the delegates in declaration order. -/
def gather (table : SymbolTable) (delegates : List (Delegate × TypeDecl)) : Gathering :=
  delegates.foldl (fun gathering (delegate, decl) =>
    gathering.addAll delegate (forwardable table decl)) .empty

end Synthesis

open Synthesis in
/-- The base class for a plan, given the types that are visible. -/
def synthesise (table : SymbolTable) (plan : Plan) : Except Obstacle Synthesised := do
  let decls ← plan.delegates.mapM (delegateDecl table)
  let superclass ← superclassDecl table plan.superclass
  let gathering := gather table (plan.delegates.zip decls)
  return {
    base := {
      name := plan.target
      superclass := plan.superclass
      interfaces := plan.delegates.map (·.interface)
      fields := plan.delegates.map fun delegate => ⟨delegate.field, delegate.interface⟩
      constructors := superclass.constructors.map (forwardConstructor plan.delegates)
      methods := gathering.methods }
    collisions := gathering.collisions }

end Delegation
