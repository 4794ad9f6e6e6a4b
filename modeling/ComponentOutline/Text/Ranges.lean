/-!
# Classes of code points

A class of code points is given by ranges, both ends included.
-/

namespace ComponentOutline

/-- Ranges of code points by their numbers. -/
abbrev Ranges := List (Nat × Nat)

/-- Whether a number lies in one of the ranges. -/
def Ranges.covers (ranges : Ranges) (point : Nat) : Bool :=
  ranges.any fun range => range.1 ≤ point && point ≤ range.2

end ComponentOutline
