/-
**Sets of characters given by ranges of code points.**

A property of characters that a standard lists is a table of ascending ranges, both ends included.
The tables themselves are in the modules named for their property.
-/

set_option autoImplicit false
set_option relaxedAutoImplicit false

namespace Provisioning.Text

/-- Ranges of code points, both ends included. -/
abbrev CodeRanges := List (Nat × Nat)

/-- Whether a character lies in one of the ranges. -/
def CodeRanges.contains (ranges : CodeRanges) (c : Char) : Bool :=
  ranges.any fun (first, last) => first ≤ c.toNat && c.toNat ≤ last

/-- A character is in the ranges exactly when it lies between the ends of one of them. -/
theorem CodeRanges.contains_iff (ranges : CodeRanges) (c : Char) :
    ranges.contains c = true ↔ ∃ r ∈ ranges, r.1 ≤ c.toNat ∧ c.toNat ≤ r.2 := by
  simp [CodeRanges.contains]

end Provisioning.Text
