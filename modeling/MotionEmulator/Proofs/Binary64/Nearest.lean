import MotionEmulator.Proofs.Binary64.Rounding

/-!
# Rounding keeps the order and comes near

Of two quotients the larger one is rounded to no less than the other (`nearestQuanta_mono`), and no
quotient is moved by more than half the spacing of the grid around it (`two_mul_le_nearestQuanta`,
`two_mul_nearestQuanta_le`). The spacing is one quantum, or at most `2 ^ -52` of the number
(`spacing_cases`), so that a rounding loses at most one part in `2 ^ 53` or half a quantum
(`le_nearestQuanta_mul`), and nothing of the half quantum where a whole number of quanta is rounded
(`le_nearestQuanta_whole`).
-/

namespace MotionEmulator

/-! ## The nearest integer -/

/-- A quotient is rounded to at most `n` just if it is at most `n` and a half; the half itself goes
to an even `n`. -/
theorem nearestQuotient_le_iff (num : Nat) {den n : Nat} (pos : 0 < den) :
    nearestQuotient num den ≤ n ↔
      2 * num < (2 * n + 1) * den ∨ 2 * num = (2 * n + 1) * den ∧ n % 2 = 0 := by
  have split := Nat.div_add_mod num den
  have rest := Nat.mod_lt num pos
  unfold nearestQuotient
  dsimp only
  generalize num / den = q at split ⊢
  generalize num % den = r at split rest ⊢
  have expand : (2 * n + 1) * den = 2 * (den * n) + den := by ring
  rw [expand]
  rcases Nat.lt_trichotomy q n with below | rfl | above
  · -- The quotient is below `n`, and its rounding at most one more.
    have room : den * q + den ≤ den * n := by
      rw [← Nat.mul_succ]
      exact Nat.mul_le_mul_left den below
    refine iff_of_true ?_ (.inl (by omega))
    split_ifs <;> omega
  · split_ifs <;> omega
  · have room : den * n + den ≤ den * q := by
      rw [← Nat.mul_succ]
      exact Nat.mul_le_mul_left den above
    refine iff_of_false ?_ (by omega)
    split_ifs <;> omega

/-- **The nearest integer of a larger quotient is no smaller.** -/
theorem nearestQuotient_mono {num den num' den' : Nat} (pos : 0 < den) (pos' : 0 < den')
    (h : num * den' ≤ num' * den) : nearestQuotient num den ≤ nearestQuotient num' den' := by
  rw [nearestQuotient_le_iff num pos]
  have upper := (nearestQuotient_le_iff num' pos').1 le_rfl
  generalize nearestQuotient num' den' = n at upper ⊢
  have scaled : 2 * num * den' ≤ 2 * num' * den := by
    rw [Nat.mul_assoc, Nat.mul_assoc]
    exact Nat.mul_le_mul_left 2 h
  rcases upper with below | ⟨half, even⟩
  · left
    refine Nat.lt_of_mul_lt_mul_right (a := den') ?_
    calc 2 * num * den' ≤ 2 * num' * den := scaled
      _ < (2 * n + 1) * den' * den := Nat.mul_lt_mul_of_pos_right below pos
      _ = (2 * n + 1) * den * den' := by ring
  · have le : 2 * num ≤ (2 * n + 1) * den := by
      refine Nat.le_of_mul_le_mul_right (c := den') ?_ pos'
      calc 2 * num * den' ≤ 2 * num' * den := scaled
        _ = (2 * n + 1) * den * den' := by rw [half]; ring
    exact (Nat.lt_or_eq_of_le le).imp_right fun eq => ⟨eq, even⟩

/-- A quotient is at most half above its nearest integer. -/
theorem two_mul_le_nearestQuotient (num : Nat) {den : Nat} (pos : 0 < den) :
    2 * num ≤ (2 * nearestQuotient num den + 1) * den := by
  rcases (nearestQuotient_le_iff num pos).1 le_rfl with below | ⟨half, -⟩
  · exact below.le
  · exact half.le

/-- A quotient is at most half below its nearest integer. -/
theorem two_mul_nearestQuotient_le (num : Nat) {den : Nat} (pos : 0 < den) :
    2 * nearestQuotient num den * den ≤ 2 * num + den := by
  by_contra less
  obtain ⟨n, eq⟩ : ∃ n, nearestQuotient num den = n + 1 := by
    refine ⟨nearestQuotient num den - 1, ?_⟩
    by_contra zero
    have : nearestQuotient num den = 0 := by omega
    rw [this] at less
    omega
  have beyond : ¬ nearestQuotient num den ≤ n := by omega
  rw [nearestQuotient_le_iff num pos] at beyond
  have expand : 2 * (n + 1) * den = (2 * n + 1) * den + den := by ring
  rw [eq] at less
  omega

/-- What is less than half away from an integer is rounded to it. -/
theorem nearestQuotient_eq {num den n : Nat} (low : 2 * n * den < 2 * num + den)
    (high : 2 * num < 2 * n * den + den) : nearestQuotient num den = n := by
  have pos : 0 < den := by omega
  refine Nat.le_antisymm ?_ ?_
  · refine (nearestQuotient_le_iff num pos).2 (.inl ?_)
    rw [Nat.add_mul, Nat.one_mul]
    exact high
  · by_contra less
    obtain ⟨m, rfl⟩ : ∃ m, n = m + 1 := ⟨n - 1, by omega⟩
    have upper := (nearestQuotient_le_iff num pos).1 (Nat.lt_succ_iff.1 (Nat.lt_of_not_le less))
    have expand : 2 * (m + 1) * den = (2 * m + 1) * den + den := by ring
    omega

/-- **A half goes to the even neighbour**: the nearest integer is even where the quotient lies just
a half above it or below it. -/
theorem even_nearestQuotient (num : Nat) {den : Nat} (pos : 0 < den)
    (half : 2 * num = (2 * nearestQuotient num den + 1) * den ∨
      2 * num + den = 2 * nearestQuotient num den * den) :
    nearestQuotient num den % 2 = 0 := by
  have own := (nearestQuotient_le_iff num pos).1 le_rfl
  rcases half with above | below
  · rcases own with less | ⟨-, even⟩
    · omega
    · exact even
  · -- The integer before it is a half away as well, and would have been taken if it were even.
    obtain ⟨n, eq⟩ : ∃ n, nearestQuotient num den = n + 1 := by
      refine Nat.exists_eq_add_one.2 (Nat.pos_of_ne_zero fun zero => ?_)
      rw [zero] at below
      omega
    have beyond : ¬ nearestQuotient num den ≤ n := by omega
    rw [nearestQuotient_le_iff num pos] at beyond
    have expand : 2 * (n + 1) * den = (2 * n + 1) * den + den := by ring
    rw [eq] at below ⊢
    omega

/-! ## The grid -/

/-- The grid is as fine as can be, or its spacing is at most `2 ^ -52` of the number. -/
theorem spacing_cases (n : Nat) : spacing n = 1 ∨ twoPow 52 * spacing n ≤ n := by
  unfold spacing
  rcases Nat.lt_or_ge n.log2 53 with small | large
  · left
    rw [Nat.sub_eq_zero_of_le (by omega)]
    rfl
  · right
    have nonzero : n ≠ 0 := by
      rintro rfl
      rw [Nat.log2_zero] at large
      omega
    calc twoPow 52 * twoPow (n.log2 - 52) = twoPow n.log2 := by
          rw [← twoPow_add]
          congr 1
          omega
      _ ≤ n := Nat.log2_self_le nonzero

theorem spacing_le_spacing {m n : Nat} (h : m ≤ n) : spacing m ≤ spacing n :=
  Nat.le_of_dvd (spacing_pos n) (spacing_dvd_spacing h)

/-- Twice the number has at most twice the spacing. -/
theorem spacing_two_mul_le (n : Nat) : spacing (2 * n) ≤ 2 * spacing n := by
  by_cases zero : n = 0
  · subst zero
    exact Nat.le_mul_of_pos_left _ (by decide)
  · have log : (2 * n).log2 = n.log2 + 1 := by
      rw [Nat.mul_comm]
      exact log2_mul_twoPow 1 zero
    unfold spacing
    rw [log]
    calc twoPow (n.log2 + 1 - 52) ≤ twoPow (1 + (n.log2 - 52)) :=
          Nat.pow_le_pow_right (by decide) (by omega)
      _ = 2 * twoPow (n.log2 - 52) := twoPow_add 1 _

theorem onGrid_twoPow (k : Nat) : OnGrid (twoPow k) := by
  have one : 1 * twoPow k = twoPow k := Nat.one_mul _
  have grid := mul_twoPow_mod_spacing k (m := 1) (by decide)
  rw [one] at grid
  exact Nat.dvd_of_mod_eq_zero grid

/-- Around a number that is rounded the grid is as fine as before or coarser. -/
theorem spacing_le_spacing_nearestQuanta (n : Nat) :
    spacing n ≤ spacing (nearestQuanta n 1) := by
  by_cases zero : n = 0
  · rw [zero]
    exact spacing_le_spacing (Nat.zero_le _)
  · have start : twoPow n.log2 ≤ nearestQuanta n 1 := by
      refine le_nearestQuanta Nat.one_pos (onGrid_twoPow _) ?_
      rw [Nat.mul_one]
      exact Nat.log2_self_le zero
    have same : spacing n = spacing (twoPow n.log2) := by
      have log : (twoPow n.log2).log2 = n.log2 := Nat.log2_two_pow
      rw [spacing, spacing, log]
    rw [same]
    exact spacing_le_spacing start

/-- **Of two quotients the larger one is rounded to no less.** -/
theorem nearestQuanta_mono {num den num' den' : Nat} (pos : 0 < den) (pos' : 0 < den')
    (h : num * den' ≤ num' * den) : nearestQuanta num den ≤ nearestQuanta num' den' := by
  have floors : num / den ≤ num' / den' := by
    rw [Nat.le_div_iff_mul_le pos']
    refine Nat.le_of_mul_le_mul_right (c := den) ?_ pos
    calc num / den * den' * den = num / den * den * den' := by ring
      _ ≤ num * den' := Nat.mul_le_mul_right _ (Nat.div_mul_le_self _ _)
      _ ≤ num' * den := h
  rcases Nat.lt_or_ge (num / den).log2 (num' / den').log2 with lower | same
  · -- A power of two lies between them, and neither rounding passes it.
    have below : num / den < twoPow (num' / den').log2 :=
      Nat.lt_log2_self.trans_le (Nat.pow_le_pow_right (by decide) lower)
    have above : twoPow (num' / den').log2 ≤ num' / den' := by
      refine Nat.log2_self_le ?_
      rintro zero
      simp [zero] at lower
    calc nearestQuanta num den ≤ twoPow (num' / den').log2 :=
          nearestQuanta_le (onGrid_twoPow _) ((Nat.div_lt_iff_lt_mul pos).1 below).le
      _ ≤ nearestQuanta num' den' :=
          le_nearestQuanta pos' (onGrid_twoPow _) ((Nat.le_div_iff_mul_le pos').1 above)
  · have equal : spacing (num / den) = spacing (num' / den') := by
      unfold spacing
      rw [Nat.le_antisymm (log2_le_log2 floors) same]
    unfold nearestQuanta
    rw [equal]
    have step := spacing_pos (num' / den')
    refine Nat.mul_le_mul_right _ (nearestQuotient_mono (Nat.mul_pos pos step)
      (Nat.mul_pos pos' step) ?_)
    rw [← Nat.mul_assoc, ← Nat.mul_assoc]
    exact Nat.mul_le_mul_right _ h

/-- **Rounding loses at most half the spacing.** -/
theorem two_mul_le_nearestQuanta (num : Nat) {den : Nat} (pos : 0 < den) :
    2 * num ≤ (2 * nearestQuanta num den + spacing (num / den)) * den := by
  have near := two_mul_le_nearestQuotient num
    (Nat.mul_pos pos (spacing_pos (num / den)))
  calc 2 * num ≤ (2 * nearestQuotient num (den * spacing (num / den)) + 1) *
        (den * spacing (num / den)) := near
    _ = (2 * nearestQuanta num den + spacing (num / den)) * den := by
      unfold nearestQuanta
      ring

/-- Rounding gains at most half the spacing. -/
theorem two_mul_nearestQuanta_le (num : Nat) {den : Nat} (pos : 0 < den) :
    2 * nearestQuanta num den * den ≤ 2 * num + spacing (num / den) * den := by
  have near := two_mul_nearestQuotient_le num
    (Nat.mul_pos pos (spacing_pos (num / den)))
  have steps : nearestQuanta num den * den =
      nearestQuotient num (den * spacing (num / den)) * (den * spacing (num / den)) := by
    unfold nearestQuanta
    ring
  rw [Nat.mul_assoc, steps, ← Nat.mul_assoc, Nat.mul_comm (spacing _)]
  exact near

/-- Rounding loses at most one part in `2 ^ 53`, or half a quantum. -/
theorem le_nearestQuanta_mul (num : Nat) {den : Nat} (pos : 0 < den) :
    wholeLimit * num ≤
      wholeLimit * (nearestQuanta num den * den) + max num (twoPow 52 * den) := by
  have near := two_mul_le_nearestQuanta num pos
  have lost : twoPow 52 * spacing (num / den) * den ≤ max num (twoPow 52 * den) := by
    rcases spacing_cases (num / den) with fine | coarse
    · rw [fine, Nat.mul_one]
      exact le_max_right _ _
    · calc twoPow 52 * spacing (num / den) * den ≤ num / den * den := Nat.mul_le_mul_right _ coarse
        _ ≤ num := Nat.div_mul_le_self _ _
        _ ≤ max num (twoPow 52 * den) := le_max_left _ _
  have double : wholeLimit = 2 * twoPow 52 := rfl
  calc wholeLimit * num = twoPow 52 * (2 * num) := by rw [double]; ring
    _ ≤ twoPow 52 * ((2 * nearestQuanta num den + spacing (num / den)) * den) :=
        Nat.mul_le_mul_left _ near
    _ = wholeLimit * (nearestQuanta num den * den) + twoPow 52 * spacing (num / den) * den := by
        rw [double]
        ring
    _ ≤ wholeLimit * (nearestQuanta num den * den) + max num (twoPow 52 * den) :=
        Nat.add_le_add_left lost _

/-- A whole number of quanta loses at most one part in `2 ^ 53`. -/
theorem le_nearestQuanta_whole (n : Nat) {den : Nat} (pos : 0 < den) :
    wholeLimit * n ≤ wholeLimit * nearestQuanta (n * den) den + n := by
  have near := two_mul_le_nearestQuanta (n * den) pos
  rw [Nat.mul_div_cancel n pos, ← Nat.mul_assoc] at near
  have near := Nat.le_of_mul_le_mul_right near pos
  rcases spacing_cases n with fine | coarse
  · have grid : OnGrid n := by
      unfold OnGrid
      rw [fine]
      exact Nat.one_dvd n
    rw [nearestQuanta_mul pos grid]
    exact Nat.le_add_right _ _
  · have double : wholeLimit = 2 * twoPow 52 := rfl
    have scaled := Nat.mul_le_mul_left (twoPow 52) near
    calc wholeLimit * n = twoPow 52 * (2 * n) := by rw [double]; ring
      _ ≤ twoPow 52 * (2 * nearestQuanta (n * den) den + spacing n) := scaled
      _ = wholeLimit * nearestQuanta (n * den) den + twoPow 52 * spacing n := by
        rw [double]
        ring
      _ ≤ wholeLimit * nearestQuanta (n * den) den + n := Nat.add_le_add_left coarse _

namespace Binary64

/-! ## The grid around whole numbers -/

theorem onGrid_one : OnGrid one := by
  unfold one
  exact onGrid_twoPow 1074

theorem one_lt_overflowQuanta : one < overflowQuanta := by
  unfold one overflowQuanta
  exact twoPow_lt (by decide)

theorem twoPow_add_three (k : Nat) : twoPow (k + 3) = 8 * twoPow k := by
  rw [Nat.add_comm, twoPow_add]
  rfl

/-- Three eighths below a position and three eighths above it there are points of the grid. -/
theorem exists_three_eighths_apart {w : Nat} (small : w ≤ 9999) :
    ∃ below above, OnGrid below ∧ OnGrid above ∧
      8 * below = 8 * (w * one) - 3 * one ∧ 8 * above = 8 * (w * one) + 3 * one := by
  obtain ⟨e, eighth, grid⟩ : ∃ e, one = 8 * e ∧ ∀ k ≤ wholeLimit, OnGrid (k * e) := by
    refine ⟨twoPow 1071, ?_, fun k le => ?_⟩
    · unfold one
      exact twoPow_add_three 1071
    · exact Nat.dvd_of_mod_eq_zero (mul_twoPow_mod_spacing 1071 le)
  have limit : 80000 ≤ wholeLimit := by decide
  refine ⟨(8 * w - 3) * e, (8 * w + 3) * e, grid _ (by omega), grid _ (by omega), ?_, ?_⟩ <;>
    rw [eighth, Nat.mul_left_comm w]
  · rw [Nat.sub_mul, Nat.mul_assoc]
    omega
  · rw [Nat.add_mul, Nat.mul_assoc]
    omega

/-- Whole quanta that are divided by a whole number lose at most one part in `2 ^ 53`, or half a
quantum. -/
theorem le_nearestQuanta_ratio (g : Nat) {n : Nat} (pos : 0 < n) :
    wholeLimit * g ≤
      wholeLimit * (nearestQuanta (g * one) (n * one) * n) + max g (twoPow 52 * n) := by
  have one_pos := Binary64.one_pos
  have rounded := le_nearestQuanta_mul (g * one) (Nat.mul_pos pos one_pos)
  generalize nearestQuanta (g * one) (n * one) = d at rounded ⊢
  have lost : max (g * one) (twoPow 52 * (n * one)) = max g (twoPow 52 * n) * one := by
    rw [← Nat.mul_assoc, Nat.mul_max_mul_right]
  refine Nat.le_of_mul_le_mul_right ?_ one_pos
  calc wholeLimit * g * one = wholeLimit * (g * one) := Nat.mul_assoc _ _ _
    _ ≤ wholeLimit * (d * (n * one)) + max g (twoPow 52 * n) * one := by
        rw [← lost]
        exact rounded
    _ = (wholeLimit * (d * n) + max g (twoPow 52 * n)) * one := by ring

end Binary64

end MotionEmulator
