/-!
# Requests

What the delegation annotation of a class asks for, with every value kept as it is written.  Nothing
is resolved here; the names may be misspelled or belong to types that do not exist yet.

## Main Definitions

* `DelegateEntry` — one interface to delegate to.
* `Request` — all delegates, and the class to extend.
-/

namespace Delegation

/-- One entry of the list of delegates. -/
structure DelegateEntry where
  /-- The interface, as written. -/
  interface : String
  /-- The name of the field that holds the delegate, if one is asked for. -/
  fieldName? : Option String
deriving DecidableEq, Repr, Inhabited

/-- The content of one delegation annotation. -/
structure Request where
  /-- The delegates, in declaration order. -/
  delegates : List DelegateEntry
  /-- The class to extend, as written; the root class if there is none. -/
  extend? : Option String
deriving DecidableEq, Repr, Inhabited

namespace Request

/-- A request for nothing. -/
def empty : Request := ⟨[], none⟩

/-- Every value that names a type: the delegates, then the class to extend. -/
def values (request : Request) : List String :=
  request.delegates.map (·.interface) ++ request.extend?.toList

end Request

end Delegation
