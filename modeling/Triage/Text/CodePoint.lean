/-
# Triage.Text.CodePoint -- code point ranges

The Unicode properties this library needs are lists of code point ranges in ascending order. A
character has the property when its code point lies in one of them (`inRanges_iff`).
-/

namespace Triage.Text

set_option autoImplicit false

/-- A first and a last code point, both included. -/
abbrev CodePoints := Nat × Nat

/-- Whether the code point of a character lies in one of the ranges. -/
def inRanges (ranges : List CodePoints) (c : Char) : Bool :=
  ranges.any fun range => decide (range.1 ≤ c.toNat) && decide (c.toNat ≤ range.2)

theorem inRanges_iff {ranges : List CodePoints} {c : Char} :
    inRanges ranges c = true ↔ ∃ range ∈ ranges, range.1 ≤ c.toNat ∧ c.toNat ≤ range.2 := by
  simp [inRanges]

end Triage.Text
