import Mathlib.Algebra.Order.Field.Rat
import Mathlib.Algebra.Order.Group.MinMax
import Mathlib.Data.Nat.Cast.Order.Field
import Mathlib.Tactic.FieldSimp
import Mathlib.Tactic.Linarith
import Mathlib.Tactic.NormNum
import MotionEmulator.Proofs.Binary64.Levels

/-!
# Rounding errors as rational numbers

`Binary64.value` is the rational number that a double is. Against the exact quotient, the nearest
integer is off by at most a half (`abs_nearestQuotient_sub_le`), and by just a half only where it is
even (`even_nearestQuotient_of_abs_sub_eq`). The nearest point of the grid is off by at most one
part in `2 ^ 53` or half a quantum (`abs_nearestQuanta_sub_le`); a whole number of quanta is off by
one part in `2 ^ 53` at most (`abs_nearestQuanta_whole_sub_le`).

Such a part may be large where the number is. It does not matter where both numbers are cut off:
`abs_min_sub_min_le` bounds what is left of the error by the same part of the limit.
-/

namespace MotionEmulator

/-- The nearest integer is off by at most a half. -/
theorem abs_nearestQuotient_sub_le (num : Nat) {den : Nat} (pos : 0 < den) :
    |(nearestQuotient num den : ℚ) - num / den| ≤ 1 / 2 := by
  have den_pos : (0 : ℚ) < den := Nat.cast_pos.2 pos
  have upper : (2 * nearestQuotient num den * den : ℚ) ≤ 2 * num + den := by
    exact_mod_cast two_mul_nearestQuotient_le num pos
  have lower : (2 * num : ℚ) ≤ (2 * nearestQuotient num den + 1) * den := by
    exact_mod_cast two_mul_le_nearestQuotient num pos
  have above : (num : ℚ) / den ≤ nearestQuotient num den + 1 / 2 := by
    rw [div_le_iff₀ den_pos]
    linarith
  have below : nearestQuotient num den - 1 / 2 ≤ (num : ℚ) / den := by
    rw [le_div_iff₀ den_pos]
    linarith
  rw [abs_le]
  constructor <;> linarith

/-- Where it is off by just a half, it is even. -/
theorem even_nearestQuotient_of_abs_sub_eq {num den : Nat} (pos : 0 < den)
    (half : |(nearestQuotient num den : ℚ) - num / den| = 1 / 2) :
    nearestQuotient num den % 2 = 0 := by
  have den_pos : (0 : ℚ) < den := Nat.cast_pos.2 pos
  apply even_nearestQuotient num pos
  generalize nearestQuotient num den = n at half ⊢
  rcases (abs_eq (by norm_num)).1 half with above | below
  · right
    have scaled : (2 * num + den : ℚ) = 2 * n * den := by
      field_simp at above
      linarith
    exact_mod_cast scaled
  · left
    have scaled : (2 * num : ℚ) = (2 * n + 1) * den := by
      field_simp at below
      linarith
    exact_mod_cast scaled

/-- The nearest point of the grid is off by at most half the spacing. -/
theorem abs_nearestQuanta_sub_le_spacing (num : Nat) {den : Nat} (pos : 0 < den) :
    |(nearestQuanta num den : ℚ) - num / den| ≤ spacing (num / den) / 2 := by
  have den_pos : (0 : ℚ) < den := Nat.cast_pos.2 pos
  have upper : (2 * nearestQuanta num den * den : ℚ) ≤ 2 * num + spacing (num / den) * den := by
    exact_mod_cast two_mul_nearestQuanta_le num pos
  have lower : (2 * num : ℚ) ≤ (2 * nearestQuanta num den + spacing (num / den)) * den := by
    exact_mod_cast two_mul_le_nearestQuanta num pos
  have above : (num : ℚ) / den ≤ nearestQuanta num den + spacing (num / den) / 2 := by
    rw [div_le_iff₀ den_pos]
    linarith
  have below : nearestQuanta num den - spacing (num / den) / 2 ≤ (num : ℚ) / den := by
    rw [le_div_iff₀ den_pos]
    linarith
  rw [abs_le]
  constructor <;> linarith

theorem spacing_le_max (n : Nat) : (2 ^ 52 * spacing n : ℚ) ≤ max (n : ℚ) (2 ^ 52) := by
  rcases spacing_cases n with fine | coarse
  · rw [fine, Nat.cast_one, mul_one]
    exact le_max_right _ _
  · have part : (2 ^ 52 * spacing n : ℚ) ≤ n := by exact_mod_cast coarse
    exact part.trans (le_max_left _ _)

/-- **The nearest point of the grid is off by at most one part in `2 ^ 53`, or half a quantum.** -/
theorem abs_nearestQuanta_sub_le (num : Nat) {den : Nat} (pos : 0 < den) :
    |(nearestQuanta num den : ℚ) - num / den| ≤ 1 / 2 ^ 53 * max ((num : ℚ) / den) (2 ^ 52) := by
  have near := abs_nearestQuanta_sub_le_spacing num pos
  have step := spacing_le_max (num / den)
  have floor : ((num / den : Nat) : ℚ) ≤ num / den := Nat.cast_div_le
  have limit := step.trans (max_le_max_right (2 ^ 52) floor)
  linarith

/-- A whole number of quanta is off by at most one part in `2 ^ 53`. -/
theorem abs_nearestQuanta_whole_sub_le (n : Nat) {den : Nat} (pos : 0 < den) :
    |(nearestQuanta (n * den) den : ℚ) - n| ≤ 1 / 2 ^ 53 * n := by
  have den_ne : (den : ℚ) ≠ 0 := Nat.cast_ne_zero.2 pos.ne'
  have near := abs_nearestQuanta_sub_le_spacing (n * den) pos
  rw [Nat.mul_div_cancel n pos, Nat.cast_mul, mul_div_cancel_right₀ _ den_ne] at near
  rcases spacing_cases n with fine | coarse
  · have grid : OnGrid n := by
      unfold OnGrid
      rw [fine]
      exact Nat.one_dvd n
    rw [nearestQuanta_mul pos grid, sub_self, abs_zero]
    positivity
  · have part : (2 ^ 52 * spacing n : ℚ) ≤ n := by exact_mod_cast coarse
    linarith

/-- **An error in proportion to a number leaves an error in proportion to the limit**, where the
number and the exact one are cut off at a limit. -/
theorem abs_min_sub_min_le {w t y c δ : ℚ} (δ_nonneg : 0 ≤ δ) (δ_le : δ ≤ 1) (w_nonneg : 0 ≤ w)
    (near : |t - y| ≤ δ * max y c) : |min w t - min w y| ≤ δ * max w c := by
  rcases le_total y w with inside | beyond
  · calc |min w t - min w y| ≤ max |w - w| |t - y| := abs_min_sub_min_le_max w t w y
      _ = |t - y| := by rw [sub_self, abs_zero, max_eq_right (abs_nonneg _)]
      _ ≤ δ * max y c := near
      _ ≤ δ * max w c := mul_le_mul_of_nonneg_left (max_le_max_right c inside) δ_nonneg
  · rw [min_eq_left beyond]
    rcases le_total w t with cut | short
    · rw [min_eq_left cut, sub_self, abs_zero]
      exact mul_nonneg δ_nonneg (w_nonneg.trans (le_max_left w c))
    · have less := (abs_le.1 near).1
      have at_limit := mul_le_mul_of_nonneg_left (le_max_left w c) δ_nonneg
      have at_floor := mul_le_mul_of_nonneg_left (le_max_right w c) δ_nonneg
      rw [min_eq_right short, abs_sub_comm, abs_of_nonneg (sub_nonneg.2 short)]
      rcases max_choice y c with large | small
      · -- What is missing of the number is the smaller, the closer it is to the limit.
        rw [large] at less
        have scaled := mul_le_mul_of_nonneg_left beyond (sub_nonneg.2 δ_le)
        linarith
      · rw [small] at less
        linarith

namespace Binary64

/-- The rational number that a double is. Infinity counts as the place where the finite doubles end,
and NaN as zero. -/
def value (x : Binary64) : ℚ :=
  x.level / one

theorem cast_one_pos : (0 : ℚ) < one :=
  Nat.cast_pos.2 Binary64.one_pos

theorem value_finite (m : Magnitude) : (finite false m).value = m.quanta / one := by
  rw [value, level_finite]
  rfl

theorem value_ofInt {n : Nat} (small : n ≤ wholeLimit) : (ofInt n).value = n := by
  rw [ofInt_natCast small, value_finite]
  change ((n * one : Nat) : ℚ) / one = n
  rw [Nat.cast_mul, mul_div_cancel_right₀ _ cast_one_pos.ne']

/-- Finite doubles are compared as the numbers that they are. -/
theorem IsFinite.le_iff_value {x y : Binary64} (hx : x.IsFinite) (hy : y.IsFinite) :
    x ≤ y ↔ x.value ≤ y.value := by
  rw [le_iff_level hx.isTime.ne_nan hy.isTime.ne_nan, value, value,
    div_le_div_iff_of_pos_right cast_one_pos, Int.cast_le]

/-- A double is as far from an integer of its sign as its magnitude is from the absolute value. -/
theorem abs_value_sub_signedInt (s : Bool) (m : Magnitude) (n : Nat) :
    |(finite s m).value - signedInt s n| = |(n : ℚ) - m.quanta / one| := by
  cases s with
  | false =>
    rw [value_finite, abs_sub_comm]
    rfl
  | true =>
    have negative : (finite true m).value = -(m.quanta / one) := by
      rw [value, level_finite, signed, if_pos rfl, Int.cast_neg, neg_div]
      rfl
    rw [negative, signedInt, if_pos rfl, Int.cast_neg, Int.cast_natCast, neg_sub_neg]

theorem twoPow_le_one : (2 ^ 52 : ℚ) ≤ one := by
  have fine : twoPow 52 ≤ one := by
    unfold one
    exact (twoPow_lt (by decide)).le
  exact_mod_cast fine

/-- A quotient of a few ones is off by at most one part in `2 ^ 53` of these. -/
theorem abs_nearestQuanta_sub_le_of_le {num den n : Nat} (pos : 0 < den) (some : 1 ≤ n)
    (few : (num : ℚ) / den ≤ n * one) :
    |(nearestQuanta num den : ℚ) - num / den| ≤ 1 / 2 ^ 53 * (n * one) := by
  have least : (2 ^ 52 : ℚ) ≤ n * one := by
    have some : (1 : ℚ) ≤ n := by exact_mod_cast some
    exact twoPow_le_one.trans (le_mul_of_one_le_left cast_one_pos.le some)
  refine (abs_nearestQuanta_sub_le num pos).trans ?_
  exact mul_le_mul_of_nonneg_left (max_le few least) (by norm_num)

end Binary64

end MotionEmulator
