/-! # Character classes as tables

A character class is a list of intervals of code points. `inRanges` looks a
character up; `inRanges_eq_true_iff` says what a successful look-up means.
-/

namespace GirStubs.Unicode

/-- The code point of `c` lies in one of the intervals, both ends included. -/
def inRanges (ranges : List (Nat × Nat)) (c : Char) : Bool :=
  ranges.any fun r => decide (r.1 ≤ c.toNat ∧ c.toNat ≤ r.2)

theorem inRanges_eq_true_iff (ranges : List (Nat × Nat)) (c : Char) :
    inRanges ranges c = true ↔ ∃ r ∈ ranges, r.1 ≤ c.toNat ∧ c.toNat ≤ r.2 := by
  simp [inRanges]

end GirStubs.Unicode
