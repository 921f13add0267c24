/-!
# TOML values

A TOML document is a tree of values.  Floats and dates are kept as they are written: nothing here
computes with them, it only matters that they are neither integers nor strings.

## Main Definitions

* `Value` — the values.
-/

namespace Delegation.Toml

/-- A value of a TOML document. -/
inductive Value
  | string (text : String)
  | integer (value : Int)
  | float (literal : String)
  | boolean (value : Bool)
  | dateTime (literal : String)
  | array (items : List Value)
  /-- A table; its keys are distinct. -/
  | table (entries : List (String × Value))
deriving Repr, Inhabited, BEq

end Delegation.Toml
