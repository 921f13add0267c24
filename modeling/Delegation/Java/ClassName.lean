import Delegation.Text.Blank
import Delegation.Text.Uppercase

/-!
# Class names

A class is named by its package and the chain of simple names that leads from the outermost class
to it.  Written with dots, the two parts run into each other; they are told apart by the custom
that package segments start in lower case and classes in upper case.

## Main Definitions

* `ClassName` — package, outermost class, and the classes nested below it.
* `ClassName.ofParts?`, `ClassName.ofDotted?` — read a name from its parts or from dotted text.
* `ClassName.qualified`, `ClassName.relative` — the dotted name, with or without the package.
* `ClassName.generated` — the delegating base class of an annotated class.

Class names are ordered by package and then by the chain of simple names, in code-point order.
-/

namespace Delegation.Java

open Delegation.Text

/-- The name of a class: the chain of simple names is `outermost :: nested`. -/
structure ClassName where
  /-- Dotted package name, empty for the unnamed package. -/
  package : String
  /-- Simple name of the outermost class. -/
  outermost : String
  /-- Simple names from the class directly inside `outermost` down to the named class. -/
  nested : List String
deriving DecidableEq, Repr, Inhabited

/-- Segments joined by dots. -/
def dotted (segments : List String) : String := ".".intercalate segments

namespace ClassName

/-- Simple names from the outermost class to this one. -/
def simpleNames (name : ClassName) : List String := name.outermost :: name.nested

/-- A class name from a package and a chain of simple names; the chain and each of its names must
not be empty. -/
def ofParts? (package : String) : List String → Option ClassName
  | [] => none
  | outermost :: nested =>
    if (outermost :: nested).any String.isEmpty then none else some ⟨package, outermost, nested⟩

/-- Whether a segment is spelled like a class: its first character is in upper case. -/
def isClassSegment (segment : String) : Bool := segment.toList.head?.any isUppercase

/-- Split segments into package and class chain: the chain starts at the first segment spelled
like a class, or else is the last segment alone. -/
def splitChain (segments : List String) : List String × List String :=
  match segments.dropWhile (!isClassSegment ·) with
  | [] => (segments.dropLast, segments.getLast?.toList)
  | chain => (segments.takeWhile (!isClassSegment ·), chain)

/-- Read a dotted name.  White space around it is ignored; no segment may be empty. -/
def ofDotted? (text : String) : Option ClassName :=
  let segments := ((trim text.toList).splitOn '.').map String.ofList
  if segments.any String.isEmpty then none
  else
    let (package, chain) := splitChain segments
    ofParts? (dotted package) chain

/-- The simple name of the class itself. -/
def simpleName (name : ClassName) : String := name.nested.getLastD name.outermost

/-- Whether the class is nested in another one. -/
def isNested (name : ClassName) : Bool := !name.nested.isEmpty

/-- The class this one is directly nested in. -/
def enclosing? (name : ClassName) : Option ClassName :=
  if name.isNested then some { name with nested := name.nested.dropLast } else none

/-- The outermost class of the chain. -/
def topLevel (name : ClassName) : ClassName := { name with nested := [] }

/-- A top-level class of the same package. -/
def peer (name : ClassName) (simpleName : String) : ClassName := ⟨name.package, simpleName, []⟩

/-- The dotted chain of simple names. -/
def relative (name : ClassName) : String := dotted name.simpleNames

/-- The dotted name with its package, if it has one. -/
def qualified (name : ClassName) : String :=
  if name.package.isEmpty then name.relative else name.package ++ "." ++ name.relative

/-- What the simple name of every generated class starts with. -/
def generatedPrefix : String := "AutoDelegate_"

/-- The base class generated for an annotated class: a top-level class of its package, named after
the whole chain of simple names. -/
def generated (annotated : ClassName) : ClassName :=
  annotated.peer (generatedPrefix ++ "_".intercalate annotated.simpleNames)

/-- The field name suggested for a delegate of interface type. -/
def suggestedField (interface : ClassName) : String :=
  "__" ++ interface.simpleName ++ "_unlikelyToConflictWithExistingMember"

/-- The root of the class hierarchy. -/
def object : ClassName := ⟨"java.lang", "Object", []⟩

instance : Ord ClassName :=
  ⟨compareLex (compareOn ClassName.package) (compareOn ClassName.simpleNames)⟩

instance : ToString ClassName := ⟨qualified⟩

theorem simpleNames_ne_nil (name : ClassName) : name.simpleNames ≠ [] := by simp [simpleNames]

theorem ext_simpleNames {a b : ClassName} (package : a.package = b.package)
    (chain : a.simpleNames = b.simpleNames) : a = b := by
  cases a; cases b; simp_all [simpleNames]

@[simp] theorem package_topLevel (name : ClassName) : name.topLevel.package = name.package := rfl

@[simp] theorem package_peer (name : ClassName) (s : String) : (name.peer s).package = name.package :=
  rfl

@[simp] theorem package_generated (name : ClassName) : name.generated.package = name.package := rfl

end ClassName

end Delegation.Java
