/-
Character classes as closed ranges of code points, in ascending order.
-/
import CodeAddress.Text.Basic

namespace CodeAddress.Text

/-- Whether a code point lies in one of the ranges. -/
def inRanges (ranges : List (Nat × Nat)) (n : Nat) : Bool :=
  ranges.any fun r => r.1 ≤ n && n ≤ r.2

end CodeAddress.Text
