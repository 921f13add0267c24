import Delegation.Java.ClassName.Order
import Delegation.Output.Basic

/-!
# Sources in memory

A store that keeps sources and classes by name and refuses to write a class twice.

## Main Definitions

* `MemoryStore` — the sources and classes written so far.
* `MemoryStore.output` — writing to it.
-/

namespace Delegation

open Java

/-- The sources and classes written so far. -/
structure MemoryStore where
  files : ClassMap SourceFile
  classes : ClassMap BaseClass

namespace MemoryStore

/-- Nothing has been written. -/
def empty : MemoryStore := ⟨∅, ∅⟩

/-- Write a class, unless its source is there already. -/
def write (store : MemoryStore) (base : BaseClass) (file : SourceFile) :
    Except Fault Unit × MemoryStore :=
  if store.files.contains file.name then (.error (.duplicateOutput file.name.qualified), store)
  else (.ok (), ⟨store.files.insert file.name file, store.classes.insert base.name base⟩)

/-- Writing to memory. -/
def output : Output MemoryStore := ⟨write⟩

/-- The source of the class with a dotted name. -/
def source? (store : MemoryStore) (dotted : String) : Option String :=
  (ClassName.ofDotted? dotted).bind fun name => store.files[name]?.map (·.source)

/-- How many sources there are. -/
def size (store : MemoryStore) : Nat := store.files.size

/-- Whether there are no sources. -/
def isEmpty (store : MemoryStore) : Bool := store.files.isEmpty

end MemoryStore

end Delegation
