/-!
# Ranges of code points

A class of characters is written down as the list of its maximal runs of code points, both ends
included.

## Main Definitions

* `Ranges` — a character class as inclusive ranges of code points.
* `Ranges.contains` — membership of a character.
-/

namespace Delegation.Text

/-- A character class as inclusive ranges of code points. -/
abbrev Ranges := List (Nat × Nat)

/-- Whether the code point of `c` lies in one of the ranges. -/
def Ranges.contains (ranges : Ranges) (c : Char) : Bool :=
  ranges.any fun range => range.1 ≤ c.toNat && c.toNat ≤ range.2

theorem Ranges.contains_iff {ranges : Ranges} {c : Char} :
    ranges.contains c = true ↔ ∃ range ∈ ranges, range.1 ≤ c.toNat ∧ c.toNat ≤ range.2 := by
  simp [Ranges.contains]

end Delegation.Text
