import Delegation.Java.TypeName.Reader
import Delegation.Symbol.Declaration

/-!
# The symbol table

The declarations that are visible in one round, and what a value of an annotation denotes there.

## Main Definitions

* `SymbolTable` — declarations by name, finitely many of them, and the root class.
* `SymbolTable.Lawful` — a declaration is found under its own name only.
* `SymbolTable.resolve` — what a written type name denotes.
-/

namespace Delegation

open Java

/-- The types visible in one round. -/
structure SymbolTable where
  /-- The declaration of a name, if it is visible. -/
  lookup : ClassName → Option TypeDecl
  /-- The root class, which every class extends in the end. -/
  root : ClassName
  /-- A list that contains at least the visible names. -/
  names : List ClassName
  /-- Only finitely many names are visible. -/
  mem_names : ∀ name, (lookup name).isSome → name ∈ names

/-- What a written type name denotes. -/
inductive Resolution
  /-- A visible declaration. -/
  | declared (decl : TypeDecl)
  /-- A class name without a visible declaration. -/
  | missing
  /-- Text that can never denote a declared type, such as a primitive type or an array. -/
  | impossible
deriving DecidableEq, Repr, Inhabited

namespace SymbolTable

/-- Whether a table finds each declaration under its own name only. -/
def Lawful (table : SymbolTable) : Prop :=
  ∀ name decl, table.lookup name = some decl → decl.name = name

/-- Whether a name has a visible declaration. -/
def isVisible (table : SymbolTable) (name : ClassName) : Bool := (table.lookup name).isSome

/-- Resolve a written type name. -/
def resolve (table : SymbolTable) (value : String) : Resolution :=
  match (TypeName.ofText? value).bind TypeName.plainClass? with
  | none => .impossible
  | some name =>
    match table.lookup name with
    | some decl => .declared decl
    | none => .missing

/-- The declaration of the class or interface that encloses a nested type is of a kind that makes
its members static. -/
def isImplicitlyStatic (table : SymbolTable) (name : ClassName) : Bool :=
  (name.enclosing?.bind table.lookup).any (·.kind.makesMembersStatic)

end SymbolTable

end Delegation
