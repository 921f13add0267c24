import Delegation.Java.ClassName

/-!
# Types of a signature

The types that parameters, results and `throws` clauses are written with, and their text.

## Main Definitions

* `TypeName` — `void`, primitive types, declared types with type arguments, arrays, wildcards.
* `TypeName.write` — the text of a type, given how classes are written.
* `TypeName.text` — the text with every class fully qualified.
* `TypeName.classes` — the classes a type mentions, in reading order.
-/

namespace Delegation.Java

/-- The primitive types. -/
inductive Primitive
  | boolean
  | byte
  | short
  | int
  | long
  | char
  | float
  | double
deriving DecidableEq, Repr, Inhabited

namespace Primitive

/-- The keyword of a primitive type. -/
def keyword : Primitive → String
  | boolean => "boolean"
  | byte => "byte"
  | short => "short"
  | int => "int"
  | long => "long"
  | char => "char"
  | float => "float"
  | double => "double"

/-- Every primitive type. -/
def all : List Primitive := [boolean, byte, short, int, long, char, float, double]

/-- The primitive type that a word is the keyword of. -/
def ofKeyword? (word : String) : Option Primitive := all.find? (·.keyword == word)

theorem ofKeyword?_keyword (p : Primitive) : ofKeyword? p.keyword = some p := by
  cases p <;> decide

theorem keyword_of_ofKeyword? {word : String} {p : Primitive} (h : ofKeyword? word = some p) :
    p.keyword = word := by
  simpa using List.find?_some h

end Primitive

/-- Which side a wildcard is bounded on. -/
inductive Bound
  /-- Written `extends`. -/
  | upper
  /-- Written `super`. -/
  | lower
deriving DecidableEq, Repr, Inhabited

namespace Bound

/-- The keyword of a bound. -/
def keyword : Bound → String
  | upper => "extends"
  | lower => "super"

/-- The bound that a word is the keyword of. -/
def ofKeyword? (word : String) : Option Bound :=
  if word = "extends" then some upper else if word = "super" then some lower else none

theorem ofKeyword?_keyword (b : Bound) : ofKeyword? b.keyword = some b := by cases b <;> decide

theorem keyword_of_ofKeyword? {word : String} {b : Bound} (h : ofKeyword? word = some b) :
    b.keyword = word := by
  unfold ofKeyword? at h
  split at h
  · cases h; simp_all [keyword]
  · split at h
    · cases h; simp_all [keyword]
    · cases h

end Bound

/-- A type as it is written in a member's signature. -/
inductive TypeName
  /-- The result type of a method that returns nothing. -/
  | void
  /-- A primitive type. -/
  | primitive (type : Primitive)
  /-- A class with its type arguments, none for a plain class. -/
  | declared (class_ : ClassName) (arguments : List TypeName)
  /-- An array of a component type. -/
  | array (component : TypeName)
  /-- The unbounded wildcard. -/
  | wildcard
  /-- A wildcard bounded by a type. -/
  | bounded (bound : Bound) (type : TypeName)
deriving Repr, Inhabited

namespace TypeName

mutual

/-- Equality of types is decided along their structure. -/
def decideEq : (a b : TypeName) → Decidable (a = b)
  | void, void => isTrue rfl
  | wildcard, wildcard => isTrue rfl
  | primitive a, primitive b => decidable_of_iff (a = b) (by simp)
  | declared a as, declared b bs =>
    have := decideEqAll as bs
    decidable_of_iff (a = b ∧ as = bs) (by simp)
  | array a, array b =>
    have := decideEq a b
    decidable_of_iff (a = b) (by simp)
  | bounded k a, bounded l b =>
    have := decideEq a b
    decidable_of_iff (k = l ∧ a = b) (by simp)
  | void, primitive _ | void, declared .. | void, array _ | void, wildcard | void, bounded ..
  | primitive _, void | primitive _, declared .. | primitive _, array _ | primitive _, wildcard
  | primitive _, bounded .. | declared .., void | declared .., primitive _ | declared .., array _
  | declared .., wildcard | declared .., bounded .. | array _, void | array _, primitive _
  | array _, declared .. | array _, wildcard | array _, bounded .. | wildcard, void
  | wildcard, primitive _ | wildcard, declared .. | wildcard, array _ | wildcard, bounded ..
  | bounded .., void | bounded .., primitive _ | bounded .., declared .. | bounded .., array _
  | bounded .., wildcard => isFalse nofun

/-- Equality of lists of types is decided element by element. -/
def decideEqAll : (as bs : List TypeName) → Decidable (as = bs)
  | [], [] => isTrue rfl
  | [], _ :: _ | _ :: _, [] => isFalse nofun
  | a :: as, b :: bs =>
    have := decideEq a b
    have := decideEqAll as bs
    decidable_of_iff (a = b ∧ as = bs) (by simp)

end

instance : DecidableEq TypeName := decideEq

/-- A class without type arguments. -/
def plain (class_ : ClassName) : TypeName := declared class_ []

/-- Whether the type is `void`. -/
def isVoid : TypeName → Bool
  | void => true
  | _ => false

/-- The class of a plain declared type. -/
def plainClass? : TypeName → Option ClassName
  | declared class_ [] => some class_
  | _ => none

mutual

/-- The text of a type in which each class is written as `nameOf` says. -/
def write (nameOf : ClassName → String) : TypeName → String
  | void => "void"
  | primitive type => type.keyword
  | declared class_ [] => nameOf class_
  | declared class_ (first :: rest) =>
    nameOf class_ ++ "<" ++ ", ".intercalate (write nameOf first :: writeAll nameOf rest) ++ ">"
  | array component => write nameOf component ++ "[]"
  | wildcard => "?"
  | bounded bound type => "? " ++ bound.keyword ++ " " ++ write nameOf type

/-- The texts of several types. -/
def writeAll (nameOf : ClassName → String) : List TypeName → List String
  | [] => []
  | type :: types => write nameOf type :: writeAll nameOf types

end

/-- The canonical text of a type: every class is fully qualified. -/
def text (type : TypeName) : String := type.write ClassName.qualified

instance : ToString TypeName := ⟨text⟩

mutual

/-- The classes a type mentions, in reading order and as often as they occur. -/
def classes : TypeName → List ClassName
  | void | primitive _ | wildcard => []
  | declared class_ arguments => class_ :: classesAll arguments
  | array component => classes component
  | bounded _ type => classes type

/-- The classes several types mention. -/
def classesAll : List TypeName → List ClassName
  | [] => []
  | type :: types => classes type ++ classesAll types

end

theorem writeAll_eq_map (nameOf : ClassName → String) (types : List TypeName) :
    writeAll nameOf types = types.map (write nameOf) := by
  induction types <;> simp_all [writeAll]

theorem classesAll_eq_flatMap (types : List TypeName) :
    classesAll types = types.flatMap classes := by
  induction types <;> simp_all [classesAll]

theorem plainClass?_eq_some_iff {type : TypeName} {class_ : ClassName} :
    type.plainClass? = some class_ ↔ type = plain class_ := by
  unfold plainClass? plain
  split <;> simp_all

end TypeName

end Delegation.Java
