/-!
# Ranges of code points

A class of code points is held as a table of its runs.
-/

namespace GrammarTables.Text

/-- First and last code points of the runs of a class. -/
abbrev CodeRanges : Type := List (Nat × Nat)

/-- Whether one of the ranges has a code point. -/
def isInRanges (ranges : CodeRanges) (code : Nat) : Bool :=
  ranges.any fun range => range.1 ≤ code && code ≤ range.2

theorem isInRanges_eq_true_iff {ranges : CodeRanges} {code : Nat} :
    isInRanges ranges code = true ↔ ∃ range ∈ ranges, range.1 ≤ code ∧ code ≤ range.2 := by
  simp [isInRanges]

/-- Whether runs are in order, with a gap between each two. -/
def areApart : CodeRanges → Bool
  | first :: second :: rest =>
    first.1 ≤ first.2 && first.2 + 1 < second.1 && areApart (second :: rest)
  | [last] => last.1 ≤ last.2
  | [] => true

end GrammarTables.Text
