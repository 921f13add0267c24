import Delegation.Proofs.Java.TypeGrammar

/-!
# The canonical text of a type

Some types cannot be written: an array of a bounded wildcard has the text of a wildcard whose bound is
an array, and a class may be named like a primitive type.  A type that was read from a text is none of
these.  Its canonical text, in which every class has its package, reads as the type itself, so no other
type that was read has the same text.

## Main Statements

* `TypeName.readable_iff` — the readable types are those that texts read as.
* `TypeName.Readable.eq_of_text_eq` — readable types with the same canonical text are the same.
-/

namespace Delegation.Java.TypeName

variable {type other : TypeName}

/-- The readable types are those that texts read as. -/
theorem readable_iff : type.Readable ↔ ∃ text, ofText? text = some type :=
  ⟨fun readable => ⟨type.text, readable.ofText?_text⟩, fun ⟨_, read⟩ => readable_of_ofText? read⟩

/-- Readable types with the same canonical text are the same. -/
theorem Readable.eq_of_text_eq (readable : type.Readable) (readable' : other.Readable)
    (same : type.text = other.text) : type = other := by
  have read := readable.ofText?_text
  rw [same, readable'.ofText?_text] at read
  exact (Option.some.inj read).symm

/-- So are lists of readable types with the same canonical texts. -/
theorem eq_of_map_text_eq {types others : List TypeName} (readable : ∀ type ∈ types, type.Readable)
    (readable' : ∀ type ∈ others, type.Readable) (same : types.map text = others.map text) :
    types = others :=
  eq_of_map_eq same fun type mem other mem' =>
    (readable type mem).eq_of_text_eq (readable' other mem')

/-- What a text is printed as after it was read. -/
def canonical? (text : String) : Option String := (ofText? text).map TypeName.text

end Delegation.Java.TypeName
