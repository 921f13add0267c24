import Delegation.Java.ClassName.Order
import Delegation.Java.TypeName

/-!
# Imports

Which classes a source may call by their short names.  The outermost classes of named packages
compete for their simple names: one without a rival has its name, and among rivals the one in the
source's own package has it.  All others are written out in full.

## Main Definitions

* `Imports` — the package of a source and the outermost classes it refers to.
* `Imports.isShort` — whether an outermost class has its simple name.
* `Imports.targets` — the names to import, sorted.
* `Imports.nameOf` — how a class is written.
-/

namespace Delegation.Source

open Java

/-- What decides how classes are written in a source. -/
structure Imports where
  /-- The package of the source. -/
  package : String
  /-- The outermost classes of named packages that the source refers to. -/
  candidates : ClassNames

namespace Imports

/-- The imports of a source in `package` that refers to some classes.  Classes of the unnamed
package cannot be imported and do not compete; type variables look like them. -/
def ofReferences (package : String) (classes : List ClassName) : Imports :=
  ⟨package, .ofList ((classes.filter (!·.package.isEmpty)).map ClassName.topLevel)⟩

/-- Another outermost class has the simple name too. -/
def hasRival (imports : Imports) (outer : ClassName) : Bool :=
  imports.candidates.any fun other => other.outermost == outer.outermost && other != outer

/-- Whether an outermost class is written by its simple name. -/
def isShort (imports : Imports) (outer : ClassName) : Bool :=
  imports.candidates.contains outer &&
    (outer.package == imports.package || !imports.hasRival outer)

/-- Whether a short name needs an import: classes of the source's own package and of the language's
core package do not. -/
def needsImport (imports : Imports) (outer : ClassName) : Bool :=
  outer.package != imports.package && outer.package != ClassName.object.package

/-- The names to import, sorted and each once. -/
def targets (imports : Imports) : List String :=
  let outers := imports.candidates.toList.filter fun outer =>
    imports.isShort outer && imports.needsImport outer
  (Std.TreeSet.ofList (outers.map ClassName.qualified) : Std.TreeSet String).toList

/-- How a class is written: from its outermost class on, or with its package. -/
def nameOf (imports : Imports) (name : ClassName) : String :=
  if name.package.isEmpty || imports.isShort name.topLevel then name.relative else name.qualified

/-- How a type is written. -/
def typeText (imports : Imports) (type : TypeName) : String := type.write imports.nameOf

end Imports

end Delegation.Source
