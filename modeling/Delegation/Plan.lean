import Delegation.Java.ClassName

/-!
# Plans

What validation has settled about an annotated class: the class to generate for it, the class that
one extends, and a field for every interface to delegate to.

## Main Definitions

* `Delegate` — an interface and the field that holds the object behind it.
* `Plan` — everything needed to generate the base class, names resolved.
-/

namespace Delegation

open Java

/-- An interface to delegate to, and the field that holds the delegate. -/
structure Delegate where
  interface : ClassName
  field : String
deriving DecidableEq, Repr, Inhabited

/-- A validated request. -/
structure Plan where
  /-- The annotated class. -/
  annotated : ClassName
  /-- The class to generate. -/
  target : ClassName
  /-- The class that the generated class extends. -/
  superclass : ClassName
  /-- The delegates, in declaration order. -/
  delegates : List Delegate
deriving DecidableEq, Repr, Inhabited

end Delegation
