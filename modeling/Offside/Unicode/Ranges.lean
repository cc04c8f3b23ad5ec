/-!
# Sets of code points

A property of characters is a list of ranges of code points, both ends included, in increasing
order (`increasingFrom`). `inRanges_iff` says what membership means. Each table says which
version of Unicode it is taken from.
-/

namespace Offside.Unicode

/-- Ranges of code points, both ends included. -/
abbrev Ranges := List (Nat × Nat)

/-- Whether `c` lies in one of the ranges. -/
def inRanges (ranges : Ranges) (c : Char) : Bool :=
  ranges.any fun r => r.1 ≤ c.toNat && c.toNat ≤ r.2

theorem inRanges_iff {ranges : Ranges} {c : Char} :
    inRanges ranges c = true ↔ ∃ r ∈ ranges, r.1 ≤ c.toNat ∧ c.toNat ≤ r.2 := by
  simp [inRanges]

/-- Whether each range begins past the end of the one before, and past `after`. -/
def increasingFrom (after : Nat) : Ranges → Bool
  | [] => true
  | (first, last) :: ranges => after < first && first ≤ last && increasingFrom last ranges

end Offside.Unicode
