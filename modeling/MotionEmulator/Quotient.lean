/-!
# The integer nearest to a quotient

`nearestQuotient num den` is the one place where a number is rounded: positions, doubles and
decimal texts all go through it. A half goes to the even neighbour. `nearestQuotient_le` and
`le_nearestQuotient` place the result between the two neighbours of the quotient.
-/

namespace MotionEmulator

/-- The integer nearest to `num / den`; of two equally near ones, the even one. -/
def nearestQuotient (num den : Nat) : Nat :=
  let below := num / den
  let rest := num % den
  if 2 * rest < den then below
  else if den < 2 * rest then below + 1
  else below + below % 2

theorem le_nearestQuotient (num den : Nat) : num / den ≤ nearestQuotient num den := by
  unfold nearestQuotient
  dsimp only
  split
  · omega
  · split <;> omega

theorem nearestQuotient_le (num den : Nat) : nearestQuotient num den ≤ num / den + 1 := by
  unfold nearestQuotient
  dsimp only
  split
  · omega
  · split <;> omega

/-- A quotient without remainder is its own rounding. -/
theorem nearestQuotient_mul (n : Nat) {den : Nat} (h : 0 < den) :
    nearestQuotient (n * den) den = n := by
  unfold nearestQuotient
  simp [Nat.mul_mod_left, Nat.mul_div_cancel n h, h]

end MotionEmulator
