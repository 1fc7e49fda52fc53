/-!
# Ranges of code points

A set of characters is given as a list of inclusive ranges of code points.
Membership is a plain search, so a statement about a whole class is checked
range by range.
-/

namespace DiagramGraph.Text

/-- The code points from `first` to `last`, both included. -/
structure CodeRange where
  first : Nat
  last : Nat
  deriving DecidableEq, Repr

namespace CodeRange

/-- Whether the range contains a code point. -/
def contains (range : CodeRange) (code : Nat) : Bool :=
  range.first ≤ code && code ≤ range.last

/-- Whether one of the ranges contains a code point. -/
def covers (ranges : List CodeRange) (code : Nat) : Bool :=
  ranges.any fun range => range.contains code

theorem contains_iff (range : CodeRange) (code : Nat) :
    range.contains code = true ↔ range.first ≤ code ∧ code ≤ range.last := by
  simp [contains]

theorem covers_iff (ranges : List CodeRange) (code : Nat) :
    covers ranges code = true ↔
      ∃ range ∈ ranges, range.first ≤ code ∧ code ≤ range.last := by
  simp [covers, contains_iff]

end CodeRange

end DiagramGraph.Text
