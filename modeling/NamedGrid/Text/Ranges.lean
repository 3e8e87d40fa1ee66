import NamedGrid.Text

/-!
# Character ranges

A class of characters is given by the inclusive ranges of their numbers.
-/

namespace NamedGrid

/-- Inclusive ranges of character numbers, in ascending order. -/
abbrev CharRanges := List (Nat × Nat)

/-- Does one of the ranges hold the number of the character? -/
def CharRanges.holds (ranges : CharRanges) (c : Char) : Bool :=
  ranges.any fun r => r.1 ≤ c.toNat && c.toNat ≤ r.2

/-- A character lies in a class exactly when one of its ranges encloses its number. -/
theorem CharRanges.holds_iff {ranges : CharRanges} {c : Char} :
    ranges.holds c = true ↔ ∃ r ∈ ranges, r.1 ≤ c.toNat ∧ c.toNat ≤ r.2 := by
  simp [CharRanges.holds]

end NamedGrid
