import MotionEmulator.Binary64.Integral

/-!
# Positions

A channel stands at one of the positions from 0 to 9999. `Position.nearest` is the projection
of any amount, a whole number of any size or a double, onto that range: the nearest position,
and of two equally near the even one.
-/

namespace MotionEmulator

/-- A number that is asked for as a position. -/
inductive Amount where
  | whole (n : Int)
  | real (x : Binary64)
  deriving DecidableEq

namespace Position

/-- The position at the end of the range. -/
def top : Int :=
  9999

/-- The number of decimal digits of a position. -/
def digits : Nat :=
  4

/-- An integer cut off at the ends of the range. -/
def clamp (n : Int) : Int :=
  max 0 (min top n)

theorem zero_le_clamp (n : Int) : 0 ≤ clamp n := by
  unfold clamp
  omega

theorem clamp_le_top (n : Int) : clamp n ≤ top := by
  unfold clamp top
  omega

theorem clamp_of_mem {n : Int} (h : 0 ≤ n) (h' : n ≤ top) : clamp n = n := by
  unfold clamp
  omega

/-- The position nearest to an amount. Only NaN and the infinities have none. -/
def nearest : Amount → Except NonFinite Int
  | .whole n => .ok (clamp n)
  | .real x => x.nearestInt.map clamp

/-- A position as a fraction of the whole range. -/
def fraction (n : Int) : Binary64 :=
  Binary64.ofInt n / Binary64.ofInt top

end Position

end MotionEmulator
