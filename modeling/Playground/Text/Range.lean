/-! Sets of characters given as ranges of code points. -/

namespace Playground.Text

/-- Membership in a set given by its ranges, both ends included. -/
def inRanges (ranges : List (Nat × Nat)) (n : Nat) : Bool :=
  ranges.any fun r => r.1 ≤ n && n ≤ r.2

end Playground.Text
