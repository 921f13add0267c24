import Delegation.Java.ClassName

/-!
# Options

What can be set for a compilation, with a default for everything.

## Main Definitions

* `Options` — the settings.
* `Options.marker?` — the annotation that marks a class as generated.
-/

namespace Delegation

open Java

/-- The settings of a compilation. -/
structure Options where
  /-- The release of the language that the sources are written for. -/
  release : Nat := 17
  /-- Whether generated classes are marked as generated. -/
  markGenerated : Bool := true
  /-- How many rounds a compilation may take. -/
  maxRounds : Nat := 16
deriving DecidableEq, Repr, Inhabited

namespace Options

/-- The settings when nothing is said. -/
def standard : Options := {}

/-- The name the generator signs its output with. -/
def generatorName : String := "autodelegate-codegen"

/-- The annotation type that marks a class as generated, if classes are marked.  It moved to another
package after release 8. -/
def marker? (options : Options) : Option ClassName :=
  if options.markGenerated then
    some ⟨if options.release > 8 then "javax.annotation.processing" else "javax.annotation",
      "Generated", []⟩
  else none

end Options

end Delegation
