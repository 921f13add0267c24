import Delegation.Java.ClassName
import Std.Data.TreeMap
import Std.Data.TreeSet

/-!
# The order of class names

Class names are compared by package first and by the chain of simple names second.  The order is
linear and two names compare as equal only when they are the same, so class names can be the keys
of sorted sets and maps.

## Main Definitions

* `ClassNames` — a sorted set of class names.
* `ClassMap` — a map from class names, sorted by key.
-/

namespace Delegation.Java

namespace ClassName

instance : Std.TransOrd ClassName :=
  inferInstanceAs <| Std.TransCmp <|
    compareLex (compareOn ClassName.package) (compareOn ClassName.simpleNames)

theorem compare_eq (a b : ClassName) :
    compare a b =
      (compare a.package b.package).then (compare a.simpleNames b.simpleNames) := rfl

instance : Std.LawfulEqOrd ClassName where
  eq_of_compare {a b} h := by
    rw [compare_eq, Ordering.then_eq_eq] at h
    exact ext_simpleNames (Std.LawfulEqOrd.eq_of_compare h.1) (Std.LawfulEqOrd.eq_of_compare h.2)

end ClassName

/-- A set of class names, listed in their order. -/
abbrev ClassNames := Std.TreeSet ClassName

/-- A map from class names, listed in the order of its keys. -/
abbrev ClassMap (α : Type) := Std.TreeMap ClassName α

end Delegation.Java
