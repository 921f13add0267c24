import Delegation.Java.Identifier

/-!
# Fresh names

A supply hands out identifiers that are new to it.  A suggestion is first made to look like an
identifier, and underscores are then added at its end until it is one and nobody uses it.

## Main Definitions

* `NameSupply` — the names in use.
* `NameSupply.reserve` — mark a name as used.
* `NameSupply.allocate` — a fresh name close to a suggestion.

The search for the right number of underscores is bounded by the number of names in use: of the
candidates at most one is a reserved word, and the others that fail are in use.
-/

namespace Delegation.Java

open Delegation.Text

/-- The names in use, each once. -/
structure NameSupply where
  /-- Names that may not be handed out again. -/
  taken : List String
deriving DecidableEq, Repr, Inhabited

/-- Replace what cannot stand in an identifier by `_`, and put `_` in front of a suggestion that
is empty or starts with a digit. -/
def sanitise (suggestion : String) : String :=
  let body := suggestion.toList.map fun c => if isNamePart c then c else '_'
  match body with
  | [] => "_"
  | c :: _ => String.ofList (if isNumeric c then '_' :: body else body)

namespace NameSupply

/-- Nothing is in use. -/
def empty : NameSupply := ⟨[]⟩

/-- Whether `name` is in use. -/
def isTaken (supply : NameSupply) (name : String) : Bool := supply.taken.contains name

/-- Mark `name` as used; the answer tells whether it was free. -/
def reserve (supply : NameSupply) (name : String) : Bool × NameSupply :=
  if supply.isTaken name then (false, supply) else (true, ⟨name :: supply.taken⟩)

/-- Mark every name of a list as used. -/
def reserveAll (supply : NameSupply) (names : List String) : NameSupply :=
  names.foldl (fun supply name => (supply.reserve name).2) supply

/-- An identifier that is not in use. -/
def isFree (supply : NameSupply) (name : String) : Bool :=
  isIdentifier name && !supply.isTaken name

/-- Add underscores, at most as many as the bound allows, until the name is free. -/
def settle (supply : NameSupply) : Nat → String → String
  | 0, name => name
  | bound + 1, name => if supply.isFree name then name else supply.settle bound (name.push '_')

/-- A fresh identifier: the sanitised suggestion with the fewest underscores after it.  It is in
use from then on. -/
def allocate (supply : NameSupply) (suggestion : String) : String × NameSupply :=
  let name := supply.settle (supply.taken.length + 1) (sanitise suggestion)
  (name, ⟨name :: supply.taken⟩)

/-- Allocate a name for each suggestion, in order. -/
def allocateAll (supply : NameSupply) : List String → List String × NameSupply
  | [] => ([], supply)
  | suggestion :: rest =>
    let (name, supply) := supply.allocate suggestion
    let (names, supply) := supply.allocateAll rest
    (name :: names, supply)

end NameSupply

end Delegation.Java
