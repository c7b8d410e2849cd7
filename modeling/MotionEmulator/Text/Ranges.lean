/-!
# Ranges of code points

A character class is a list of inclusive ranges of code points in ascending order;
`inRanges` asks whether a character lies in one of them.
-/

namespace MotionEmulator.Text

/-- Whether the code point of a character lies in one of the ranges. -/
def inRanges (ranges : List (Nat × Nat)) (c : Char) : Bool :=
  ranges.any fun range => range.1 ≤ c.toNat && c.toNat ≤ range.2

end MotionEmulator.Text
