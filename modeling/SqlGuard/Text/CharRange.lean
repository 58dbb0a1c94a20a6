/-!
# Sets of characters given by ranges

A table of a character property is a list of closed ranges of code points.
-/
namespace SqlGuard.Text

/-- A closed range of code points. -/
abbrev CharRange := Nat × Nat

/-- The code point lies in one of the ranges. -/
def inRanges (ranges : List CharRange) (code : Nat) : Bool :=
  ranges.any fun r => r.1 ≤ code && code ≤ r.2

theorem inRanges_iff {ranges : List CharRange} {code : Nat} :
    inRanges ranges code = true ↔ ∃ r ∈ ranges, r.1 ≤ code ∧ code ≤ r.2 := by
  simp [inRanges]

end SqlGuard.Text
