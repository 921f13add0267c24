import Delegation.Symbol.Declaration

/-!
# Faults

What aborts a compilation: input that cannot be understood, output that cannot be written, and
contradictions found on the way.  Problems of the user's classes are diagnostics and no faults.

## Main Definitions

* `SnapshotDefect` — why a well-formed snapshot describes an impossible program.
* `Contradiction` — how the symbols contradict a plan that was accepted.
* `Fault` — the causes.
* `Fault.message`, `Fault.trace` — their texts, the second with the cause below.
-/

namespace Delegation

open Java

/-- A member of a type, as named in a message. -/
inductive MemberName
  | method (owner : ClassName) (name : String)
  | constructor (owner : ClassName)
deriving DecidableEq, Repr, Inhabited

/-- The text of a member's name. -/
def MemberName.text : MemberName → String
  | method owner name => owner.qualified ++ "." ++ name
  | constructor owner => "constructor of " ++ owner.qualified

/-- Why the types of a snapshot are impossible together. -/
inductive SnapshotDefect
  /-- Two declarations have one name. -/
  | declaredTwice (name : ClassName)
  /-- A member takes any number of arguments, but its last parameter is no array. -/
  | varargsWithoutArray (member : MemberName)
  /-- A type that is no class has a superclass clause. -/
  | extendsClass (name : ClassName) (kind : TypeKind)
  /-- A reason in free words. -/
  | stated (reason : String)
deriving DecidableEq, Repr, Inhabited

/-- The text of a defect. -/
def SnapshotDefect.reason : SnapshotDefect → String
  | declaredTwice name => "type " ++ name.qualified ++ " is declared twice"
  | varargsWithoutArray member =>
    member.text ++ " is varargs but its last parameter is not an array"
  | extendsClass name kind =>
    name.qualified ++ " is an " ++ kind.label ++ " and cannot extend a class"
  | stated reason => reason

/-- How the symbols contradict a plan. -/
inductive Contradiction
  | delegateNotVisible (interface : ClassName)
  | delegateNotInterface (interface : ClassName)
  | superclassNotVisible (name : ClassName)
  | superclassNotClass (name : ClassName)
  /-- A reason in free words. -/
  | stated (reason : String)
deriving DecidableEq, Repr, Inhabited

/-- The text of a contradiction. -/
def Contradiction.reason : Contradiction → String
  | delegateNotVisible interface => "delegate " ++ interface.qualified ++ " is not visible"
  | delegateNotInterface interface => "delegate " ++ interface.qualified ++ " is not an interface"
  | superclassNotVisible name => "super class " ++ name.qualified ++ " is not visible"
  | superclassNotClass name => "super class " ++ name.qualified ++ " is not a class"
  | stated reason => reason

/-- Why a compilation is aborted. -/
inductive Fault
  /-- A file or directory could not be written. -/
  | unwritable (path cause : String)
  /-- The text of a snapshot is malformed or does not follow the schema. -/
  | unreadable
  /-- The types of a snapshot are impossible together. -/
  | badSnapshot (defect : SnapshotDefect)
  /-- A type's text cannot be read. -/
  | badTypeName (text : String)
  /-- A class was written twice. -/
  | duplicateOutput (name : String)
  /-- The symbols contradict the plan for a type. -/
  | internal (type : String) (contradiction : Contradiction)
  /-- The rounds did not come to an end within the limit. -/
  | roundLimit (rounds : Nat)
deriving DecidableEq, Repr, Inhabited

/-- The fault that a contradiction to the plan for a type amounts to. -/
def Contradiction.fault (type : ClassName) (contradiction : Contradiction) : Fault :=
  .internal type.qualified contradiction

namespace Fault

/-- The text of a fault. -/
def message : Fault → String
  | unwritable path cause => "failed to write " ++ path ++ ": " ++ cause
  | unreadable => "failed to parse snapshot"
  | badSnapshot defect => "invalid snapshot: " ++ defect.reason
  | badTypeName text => "invalid type name `" ++ text ++ "`"
  | duplicateOutput name => "attempt to recreate a file for type " ++ name
  | internal type contradiction =>
    "internal error while generating " ++ type ++ ": " ++ contradiction.reason
  | roundLimit rounds => "compilation did not settle after " ++ toString rounds ++ " rounds"

/-- The cause below a fault, if it has one. -/
def cause? : Fault → Option String
  | unwritable _ cause => some cause
  | _ => none

/-- The text of a fault followed by its cause. -/
def trace (fault : Fault) : String :=
  match fault.cause? with
  | some cause => fault.message ++ "\n  caused by: " ++ cause
  | none => fault.message

end Fault

end Delegation
