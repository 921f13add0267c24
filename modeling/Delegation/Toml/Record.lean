import Delegation.Toml.Value

/-!
# Values as records

Reading domain types from values.  A record is a table whose entries have fixed names; entries with
other names are passed over.  It may also be given as an array of its fields in their order, and a
date counts as a record without any fields.

## Main Definitions

* `Record` — the fields of a record.
* `Value.text?`, `Value.flag?`, `Value.natural?`, `Value.items?`, `Value.word?` — simple types.
* `Record.required`, `Record.optional`, `Record.withDefault` — the fields of a record.
-/

namespace Delegation.Toml

namespace Value

/-- The text of a string. -/
def text? : Value → Option String
  | string text => some text
  | _ => none

/-- The value of a boolean. -/
def flag? : Value → Option Bool
  | boolean value => some value
  | _ => none

/-- The value of an integer that is not negative and has at most `bits` bits. -/
def natural? (bits : Nat) : Value → Option Nat
  | integer value => if 0 ≤ value ∧ value.toNat < 1 <<< bits then some value.toNat else none
  | _ => none

/-- The items of an array, each read by `item`. -/
def items? {α : Type} (item : Value → Option α) : Value → Option (List α)
  | array items => items.mapM item
  | _ => none

/-- Whether a value has nothing in it. -/
def isHollow : Value → Bool
  | array [] | table [] => true
  | _ => false

/-- A word out of a fixed vocabulary: a string, or the name of the only entry of a table, which must
then be empty. -/
def word? {α : Type} (ofWord? : String → Option α) : Value → Option α
  | string word => ofWord? word
  | table [(word, content)] => if content.isHollow then ofWord? word else none
  | _ => none

end Value

/-- The fields of a record. -/
inductive Record
  /-- Fields by name. -/
  | named (entries : List (String × Value))
  /-- Fields by position. -/
  | listed (items : List Value)

/-- The fields of a value that can be a record. -/
def Value.record? : Value → Option Record
  | .table entries => some (.named entries)
  | .array items => some (.listed items)
  | .dateTime _ => some (.named [])
  | _ => none

namespace Record

/-- A field, given its position and its name. -/
def field? (record : Record) (position : Nat) (name : String) : Option Value :=
  match record with
  | named entries => entries.lookup name
  | listed items => items[position]?

variable {α : Type}

/-- A field that must be there. -/
def required (record : Record) (position : Nat) (name : String) (read : Value → Option α) :
    Option α :=
  (record.field? position name).bind read

/-- A field that has a default. -/
def withDefault (record : Record) (position : Nat) (name : String) (standard : α)
    (read : Value → Option α) : Option α :=
  match record.field? position name with
  | some value => read value
  | none => some standard

/-- A field that may be left out. -/
def optional (record : Record) (position : Nat) (name : String) (read : Value → Option α) :
    Option (Option α) :=
  record.withDefault position name none fun value => (read value).map some

/-- A list that may be left out. -/
def list (record : Record) (position : Nat) (name : String) (read : Value → Option α) :
    Option (List α) :=
  record.withDefault position name [] (Value.items? read)

end Record

end Delegation.Toml
