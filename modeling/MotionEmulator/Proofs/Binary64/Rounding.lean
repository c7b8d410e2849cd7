import Mathlib.Tactic.Ring
import MotionEmulator.Binary64.Integral

/-!
# Rounding keeps to its side of the grid

The quanta that a double can hold form a grid, `OnGrid`, which is finer near zero. A quotient
that is rounded onto the grid stays on the same side of every point of it:

* `nearestQuanta_le` and `le_nearestQuanta`: no rounding passes a point of the grid, so a bound
  that is itself a double survives every operation;
* `nearestQuanta_mul`: a point of the grid is its own rounding;
* `Binary64.ofQuanta_le`: a quotient that is at most a finite magnitude does not overflow;
* `Binary64.ofInt_of_le`: whole numbers up to `2 ^ 53` are doubles.
-/

namespace MotionEmulator

/-- The number of quanta is one that a double can have, range apart. -/
def OnGrid (n : Nat) : Prop :=
  spacing n ∣ n

theorem Magnitude.isOnGrid (m : Magnitude) : OnGrid m.quanta :=
  Nat.dvd_of_mod_eq_zero m.onGrid

theorem spacing_pos (n : Nat) : 0 < spacing n :=
  twoPow_pos _

theorem log2_le_log2 {m n : Nat} (h : m ≤ n) : m.log2 ≤ n.log2 := by
  by_cases hm : m = 0
  · rw [hm, Nat.log2_zero]
    exact Nat.zero_le _
  · have hn : n ≠ 0 := by omega
    rw [Nat.le_log2 hn]
    exact (Nat.log2_self_le hm).trans h

/-- A grid around a larger number is as coarse or coarser. -/
theorem spacing_dvd_spacing {m n : Nat} (h : m ≤ n) : spacing m ∣ spacing n := by
  have := log2_le_log2 h
  exact twoPow_dvd (by omega)

/-! ## Nearest integers -/

/-- A quotient that is at most an integer is rounded to at most that integer. -/
theorem nearestQuotient_le_of_le {num den n : Nat} (h : num ≤ n * den) :
    nearestQuotient num den ≤ n := by
  have below : num / den ≤ n := Nat.div_le_of_le_mul (by rwa [Nat.mul_comm])
  rcases Nat.lt_or_eq_of_le below with lt | eq
  · exact (nearestQuotient_le num den).trans lt
  · -- The quotient is `n` itself, so there is no remainder to round up.
    have rest : num % den = 0 := by
      have split := Nat.div_add_mod num den
      rw [eq, Nat.mul_comm] at split
      omega
    unfold nearestQuotient
    dsimp only
    rw [rest, eq]
    split
    · exact le_refl n
    · next odd =>
      rw [if_neg (by omega)]
      have : den = 0 := by omega
      rw [← eq, this, Nat.div_zero]

/-- A quotient that is at least an integer is rounded to at least that integer. -/
theorem le_nearestQuotient_of_le {num den n : Nat} (pos : 0 < den) (h : n * den ≤ num) :
    n ≤ nearestQuotient num den :=
  ((Nat.le_div_iff_mul_le pos).2 h).trans (le_nearestQuotient num den)

/-! ## Nearest points of the grid -/

/-- **Rounding does not pass a point of the grid above.** -/
theorem nearestQuanta_le {num den g : Nat} (grid : OnGrid g) (h : num ≤ g * den) :
    nearestQuanta num den ≤ g := by
  have below : num / den ≤ g := Nat.div_le_of_le_mul (by rwa [Nat.mul_comm])
  obtain ⟨k, hk⟩ := (spacing_dvd_spacing below).trans grid
  have steps : num ≤ k * (den * spacing (num / den)) := by
    calc num ≤ g * den := h
      _ = spacing (num / den) * k * den := by rw [← hk]
      _ = k * (den * spacing (num / den)) := by ring
  calc nearestQuanta num den
      = nearestQuotient num (den * spacing (num / den)) * spacing (num / den) := rfl
    _ ≤ k * spacing (num / den) := Nat.mul_le_mul_right _ (nearestQuotient_le_of_le steps)
    _ = g := by rw [Nat.mul_comm, ← hk]

/-- A multiple of the spacing around a quotient that lies below it stays below its rounding. -/
theorem le_nearestQuanta_of_dvd {num den g : Nat} (pos : 0 < den)
    (steps : spacing (num / den) ∣ g) (h : g * den ≤ num) : g ≤ nearestQuanta num den := by
  obtain ⟨k, hk⟩ := steps
  have low : k * (den * spacing (num / den)) ≤ num := by
    calc k * (den * spacing (num / den)) = spacing (num / den) * k * den := by ring
      _ = g * den := by rw [← hk]
      _ ≤ num := h
  have rounded := le_nearestQuotient_of_le (Nat.mul_pos pos (spacing_pos _)) low
  calc g = k * spacing (num / den) := by rw [hk, Nat.mul_comm]
    _ ≤ nearestQuotient num (den * spacing (num / den)) * spacing (num / den) :=
        Nat.mul_le_mul_right _ rounded
    _ = nearestQuanta num den := rfl

/-- **Rounding does not pass a point of the grid below.** -/
theorem le_nearestQuanta {num den g : Nat} (pos : 0 < den) (grid : OnGrid g)
    (h : g * den ≤ num) : g ≤ nearestQuanta num den := by
  have above : g ≤ num / den := (Nat.le_div_iff_mul_le pos).2 h
  rcases Nat.lt_or_ge g.log2 (num / den).log2 with lower | same
  · -- The quotient lies in a higher binade, whose first point is a multiple of its spacing.
    have start : 2 ^ (num / den).log2 ≤ num / den :=
      Nat.log2_self_le (by rintro zero; simp [zero] at lower)
    have start_le : twoPow (num / den).log2 ≤ nearestQuanta num den := by
      apply le_nearestQuanta_of_dvd pos (twoPow_dvd (Nat.sub_le _ _))
      exact (Nat.le_div_iff_mul_le pos).1 start
    calc g ≤ 2 ^ (g.log2 + 1) := Nat.lt_log2_self.le
      _ ≤ 2 ^ (num / den).log2 := Nat.pow_le_pow_right (by decide) lower
      _ ≤ nearestQuanta num den := start_le
  · have equal : spacing (num / den) = spacing g := by
      unfold spacing
      rw [Nat.le_antisymm same (log2_le_log2 above)]
    exact le_nearestQuanta_of_dvd pos (equal ▸ grid) h

/-- A point of the grid is its own rounding. -/
theorem nearestQuanta_mul {g den : Nat} (pos : 0 < den) (grid : OnGrid g) :
    nearestQuanta (g * den) den = g :=
  Nat.le_antisymm (nearestQuanta_le grid le_rfl) (le_nearestQuanta pos grid le_rfl)

theorem nearestQuanta_zero (den : Nat) : nearestQuanta 0 den = 0 :=
  Nat.le_zero.1 (nearestQuanta_le (dvd_zero _) (Nat.zero_le _))

namespace Binary64

/-- A quotient that is at most a finite magnitude is rounded to a finite one that is at most
that magnitude. -/
theorem ofQuanta_le {num den : Nat} {m : Magnitude} (negative : Bool)
    (h : num ≤ m.quanta * den) :
    ∃ n : Magnitude, ofQuanta negative num den = .finite negative n ∧ n.quanta ≤ m.quanta := by
  have le := nearestQuanta_le m.isOnGrid h
  have inRange := Nat.lt_of_le_of_lt le m.inRange
  refine ⟨⟨nearestQuanta num den, nearestQuanta_mod_spacing num den, inRange⟩, ?_, le⟩
  simp only [ofQuanta, Magnitude.nearest?, dif_pos inRange]

/-- A magnitude is its own rounding. -/
theorem ofQuanta_mul {den : Nat} (negative : Bool) (pos : 0 < den) (m : Magnitude) :
    ofQuanta negative (m.quanta * den) den = .finite negative m := by
  have same := nearestQuanta_mul pos m.isOnGrid
  have inRange : nearestQuanta (m.quanta * den) den < overflowQuanta := by
    rw [same]
    exact m.inRange
  simp only [ofQuanta, Magnitude.nearest?, dif_pos inRange]
  congr

/-! ## Whole numbers -/

theorem one_pos : 0 < one := by
  unfold one
  exact twoPow_pos 1074

/-- The magnitude of a whole number. -/
def wholeMagnitude (n : Nat) (h : n ≤ wholeLimit) : Magnitude where
  quanta := n * one
  onGrid := mul_one_mod_spacing h
  inRange := mul_one_lt_overflowQuanta h

/-- A whole number up to `2 ^ 53` is a double. -/
theorem ofInt_of_le {n : Int} (h : n.natAbs ≤ wholeLimit) :
    ofInt n = .finite (n < 0) (wholeMagnitude n.natAbs h) := by
  have same := ofQuanta_mul (decide (n < 0)) Nat.one_pos (wholeMagnitude n.natAbs h)
  rwa [Nat.mul_one] at same

end Binary64

end MotionEmulator
