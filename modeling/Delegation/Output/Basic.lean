import Delegation.Fault
import Delegation.Source.File

/-!
# Outputs

Where generated sources go.  An output has a store; writing a class changes it and may fail.

## Main Definitions

* `Output` — the way classes are written to a store.
* `Output.failing` — an output that fails for some classes.
-/

namespace Delegation

open Java

/-- A way to write classes to a store of type `σ`.  The store may have changed also where writing
failed. -/
structure Output (σ : Type) where
  write : σ → BaseClass → SourceFile → Except Fault Unit × σ

namespace Output

/-- Fail for the classes that `fails` holds of, without touching the store, and write the others. -/
def failing {σ : Type} (output : Output σ) (fails : ClassName → Bool) (cause : String) : Output σ where
  write store base file :=
    if fails file.name then (.error (.unwritable file.path cause), store)
    else output.write store base file

end Output

end Delegation
