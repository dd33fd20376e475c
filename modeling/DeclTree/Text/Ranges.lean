/-
Sets of characters, given by ascending ranges of code points. `CodeRanges.contains_iff`: a character
is in the set when one of the ranges holds its code point.
-/

namespace DeclTree.Text

/-- Closed ranges of code points, in ascending order. -/
abbrev CodeRanges := List (Nat × Nat)

/-- Whether a character lies in one of the ranges. -/
def CodeRanges.contains (ranges : CodeRanges) (c : Char) : Bool :=
  ranges.any fun range => decide (range.1 ≤ c.toNat ∧ c.toNat ≤ range.2)

theorem CodeRanges.contains_iff (ranges : CodeRanges) (c : Char) :
    ranges.contains c = true ↔ ∃ range ∈ ranges, range.1 ≤ c.toNat ∧ c.toNat ≤ range.2 := by
  simp [CodeRanges.contains]

end DeclTree.Text
