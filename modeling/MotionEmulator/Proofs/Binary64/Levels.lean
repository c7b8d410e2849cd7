import MotionEmulator.Proofs.Binary64.Nearest
import MotionEmulator.Proofs.Binary64.Order

/-!
# Levels of results

The level of a result is the exact one, rounded, and where that overflows it is the level of
infinity (`level_ofQuanta`, `level_add`, `level_mul_finite`, `level_div_finite`). So arithmetic
keeps the order of its operands, overflows included: sums (`level_ofSigned_mono`), differences that
count as nothing below zero (`level_sub_mono`), and products and quotients of numbers without a sign
(`IsNonneg.level_mul_mono`, `IsNonneg.level_div_mono`).
-/

namespace MotionEmulator.Binary64

variable {x y : Binary64}

/-! ## Finite levels and infinity -/

/-- What is at most another number is a number at no higher a level. -/
theorem level_of_le (h : x ≤ y) : x ≠ .nan ∧ y ≠ .nan ∧ x.level ≤ y.level := by
  have number : x ≠ .nan := by
    rintro rfl
    cases h
  have number' : y ≠ .nan := by
    rintro rfl
    cases x <;> cases h
  exact ⟨number, number', (le_iff_level number number').1 h⟩

theorem IsFinite.exists_eq (finite : x.IsFinite) : ∃ s m, x = .finite s m := by
  cases x with
  | finite s m => exact ⟨s, m, rfl⟩
  | infinite s => exact finite.elim
  | nan => exact finite.elim

theorem natAbs_level_lt (finite : x.IsFinite) : x.level.natAbs < overflowQuanta := by
  obtain ⟨s, m, rfl⟩ := finite.exists_eq
  rw [level_finite, natAbs_signed]
  exact m.inRange

theorem level_le_overflowQuanta (x : Binary64) : x.level ≤ overflowQuanta := by
  have overflow := overflowQuanta_pos
  cases x with
  | finite s m => exact (signed_lt_overflowQuanta s m).le
  | infinite s =>
    cases s with
    | false => exact le_rfl
    | true =>
      change -(overflowQuanta : Int) ≤ overflowQuanta
      omega
  | nan =>
    change (0 : Int) ≤ overflowQuanta
    omega

/-- Nothing but positive infinity stands where the finite levels end. -/
theorem eq_infinite_of_overflowQuanta_le (h : (overflowQuanta : Int) ≤ x.level) :
    x = .infinite false := by
  have overflow := overflowQuanta_pos
  cases x with
  | finite s m =>
    have := signed_lt_overflowQuanta s m
    rw [level_finite] at h
    omega
  | infinite s =>
    cases s with
    | false => rfl
    | true =>
      change (overflowQuanta : Int) ≤ -(overflowQuanta : Int) at h
      omega
  | nan =>
    change (overflowQuanta : Int) ≤ 0 at h
    omega

/-- A number that is at most negative infinity is negative infinity. -/
theorem eq_infinite_of_level_le (number : x ≠ .nan) (h : x.level ≤ (infinite true).level) :
    x = .infinite true := by
  have overflow := overflowQuanta_pos
  change x.level ≤ -(overflowQuanta : Int) at h
  cases x with
  | finite s m =>
    have inRange := m.inRange
    rw [level_finite] at h
    cases s <;> simp only [signed, Bool.false_eq_true, if_true, if_false] at h <;> omega
  | infinite s =>
    cases s with
    | true => rfl
    | false =>
      rw [level_infinite] at h
      omega
  | nan => exact absurd rfl number

/-! ## Rounded quotients -/

/-- What is rounded to less than an overflow is finite. -/
theorem ofQuanta_eq_finite {num den : Nat} (s : Bool)
    (inRange : nearestQuanta num den < overflowQuanta) :
    ∃ m : Magnitude, ofQuanta s num den = .finite s m ∧ m.quanta = nearestQuanta num den := by
  refine ⟨⟨nearestQuanta num den, nearestQuanta_mod_spacing num den, inRange⟩, ?_, rfl⟩
  simp only [ofQuanta, Magnitude.nearest?, dif_pos inRange]

/-- The level of a rounded quotient; infinity is where the finite levels end. -/
theorem level_ofQuanta (s : Bool) (num den : Nat) :
    (ofQuanta s num den).level = signedInt s (min (nearestQuanta num den) overflowQuanta) := by
  by_cases inRange : nearestQuanta num den < overflowQuanta
  · obtain ⟨m, finite, quanta⟩ := ofQuanta_eq_finite s inRange
    rw [finite, Nat.min_eq_left inRange.le, ← quanta]
    rfl
  · have overflows : ofQuanta s num den = .infinite s := by
      simp only [ofQuanta, Magnitude.nearest?, dif_neg inRange]
    rw [overflows, Nat.min_eq_right (Nat.le_of_not_lt inRange)]
    cases s <;> rfl

/-- A finite magnitude has just the quanta that were rounded to it. -/
theorem quanta_of_level {m : Magnitude} {n : Nat}
    (h : (finite false m).level = (min n overflowQuanta : Nat)) : m.quanta = n := by
  have inRange := m.inRange
  have quanta : m.quanta = min n overflowQuanta := Int.ofNat_inj.1 h
  omega

/-! ## Sums and differences -/

/-- What is added in a finite sum is finite. -/
theorem IsFinite.of_add (finite : (x + y).IsFinite) : y.IsFinite := by
  cases y with
  | finite s m => exact trivial
  | nan => cases x <;> exact finite.elim
  | infinite t =>
    cases x with
    | finite s m => exact finite.elim
    | nan => exact finite.elim
    | infinite s => cases s <;> cases t <;> exact finite.elim

/-- **A larger whole number of quanta has no smaller a double.** -/
theorem level_ofSigned_mono {m n : Int} (h : m ≤ n) :
    (ofSigned m).level ≤ (ofSigned n).level := by
  have keeps : ∀ {j k : Nat}, j ≤ k → min (nearestQuanta j 1) overflowQuanta ≤
      min (nearestQuanta k 1) overflowQuanta := fun le =>
    min_le_min_right _ (nearestQuanta_mono Nat.one_pos Nat.one_pos (by omega))
  simp only [ofSigned, level_ofQuanta, signedInt, decide_eq_true_eq]
  split_ifs with hm hn hn
  · -- Below zero the larger number has the smaller absolute value.
    have := keeps (j := n.natAbs) (k := m.natAbs) (by omega)
    omega
  · omega
  · omega
  · have := keeps (j := m.natAbs) (k := n.natAbs) (by omega)
    omega

theorem level_ofSigned_nonneg {n : Int} (h : 0 ≤ n) : 0 ≤ (ofSigned n).level := by
  rw [ofSigned, decide_eq_false (by omega), level_ofQuanta]
  exact Int.natCast_nonneg _

/-- Where nothing overflows, a whole number of quanta is at most half the spacing above the double
it is rounded to, and the grid around that is as fine or coarser. -/
theorem ofSigned_near {n : Int} (inRange : (ofSigned n).level.natAbs < overflowQuanta) :
    2 * n ≤ 2 * (ofSigned n).level + spacing n.natAbs ∧
      spacing n.natAbs ≤ spacing (ofSigned n).level.natAbs := by
  have level := level_ofQuanta (decide (n < 0)) n.natAbs 1
  change (ofSigned n).level = _ at level
  generalize (ofSigned n).level = l at level inRange ⊢
  have lower := two_mul_le_nearestQuanta n.natAbs Nat.one_pos
  have upper := two_mul_nearestQuanta_le n.natAbs Nat.one_pos
  have coarser := spacing_le_spacing_nearestQuanta n.natAbs
  rw [Nat.div_one] at lower upper
  generalize nearestQuanta n.natAbs 1 = r at level lower upper coarser
  unfold signedInt at level
  by_cases neg : n < 0
  · simp only [neg, decide_true, if_true] at level
    have size : l.natAbs = r := by omega
    rw [size]
    exact ⟨by omega, coarser⟩
  · simp only [neg, decide_false, Bool.false_eq_true, if_false] at level
    have size : l.natAbs = r := by omega
    rw [size]
    exact ⟨by omega, coarser⟩

theorem level_ofSigned_zero : (ofSigned 0).level = 0 := by
  rw [ofSigned, level_ofQuanta, Int.natAbs_zero, nearestQuanta_zero, Nat.zero_min]
  rfl

/-- A sum of finite numbers is the sum of their quanta, rounded. -/
theorem level_add (hx : x.IsFinite) (hy : y.IsFinite) :
    (x + y).level = (ofSigned (x.level + y.level)).level := by
  obtain ⟨s, a, rfl⟩ := hx.exists_eq
  obtain ⟨t, b, rfl⟩ := hy.exists_eq
  change (Binary64.add (finite s a) (finite t b)).level =
    (ofSigned (signed s a + signed t b)).level
  unfold Binary64.add
  dsimp only
  split
  · next zero =>
    rw [zero, level_ofSigned_zero]
    cases s <;> cases t <;> rfl
  · rfl

/-- A difference of finite numbers is the difference of their quanta, rounded. -/
theorem level_sub (hx : x.IsFinite) (hy : y.IsFinite) :
    (x - y).level = (ofSigned (x.level - y.level)).level := by
  obtain ⟨t, b, rfl⟩ := hy.exists_eq
  have negated : (finite (!t) b).level = -(finite t b).level := by
    cases t <;> simp [level_finite, signed]
  have sum := level_add (y := .finite (!t) b) hx trivial
  rw [negated, ← Int.sub_eq_add_neg] at sum
  exact sum

/-- Nothing is left of a number that is taken away from itself; of infinity, what is left is no
number. -/
theorem level_sub_self (x : Binary64) : (x - x).level = 0 := by
  cases x with
  | finite s m =>
    have difference := level_sub (x := .finite s m) (y := .finite s m) trivial trivial
    rw [difference, Int.sub_self, level_ofSigned_zero]
  | infinite s => cases s <;> rfl
  | nan => rfl

theorem level_zero : (0 : Binary64).level = 0 := by
  rw [zero_eq]
  rfl

theorem level_atLeastZero (x : Binary64) : x.atLeastZero.level = max 0 x.level := by
  unfold atLeastZero
  by_cases number : x = .nan
  · have incomparable : ¬ (0 : Binary64) < .nan := by
      rw [zero_eq]
      exact Bool.false_ne_true
    rw [number, if_neg incomparable, level_zero]
    rfl
  · have pos_iff := lt_iff_level zero_ne_nan number
    rw [level_zero] at pos_iff
    split
    · next pos =>
      rw [pos_iff] at pos
      omega
    · next notPos =>
      rw [pos_iff] at notPos
      rw [level_zero]
      omega

theorem max_level_infinite (s : Bool) :
    max 0 (infinite s).level = if s then (0 : Int) else overflowQuanta := by
  cases s with
  | false => exact max_eq_right (Int.natCast_nonneg _)
  | true => exact max_eq_left (Int.neg_nonpos_of_nonneg (Int.natCast_nonneg _))

/-- Infinity taken away leaves nothing, and negative infinity taken away leaves infinity of all
but itself. -/
theorem level_sub_infinite (number : x ≠ .nan) (s : Bool) :
    max 0 (x - .infinite s).level =
      if s = true ∧ x ≠ .infinite true then (overflowQuanta : Int) else 0 := by
  cases x with
  | nan => exact absurd rfl number
  | finite t m => cases s <;> exact max_level_infinite _
  | infinite t => cases s <;> cases t <;> first | rfl | exact max_level_infinite _

/-- **Of the larger of two numbers no less is left, whatever is taken away.** What is less than
nothing counts as nothing. -/
theorem level_sub_mono (c : Binary64) (hx : x ≠ .nan) (hy : y ≠ .nan)
    (h : x.level ≤ y.level) : max 0 (x - c).level ≤ max 0 (y - c).level := by
  cases c with
  | nan => cases x <;> cases y <;> exact le_rfl
  | infinite s =>
    rw [level_sub_infinite hx, level_sub_infinite hy]
    by_cases least : y = .infinite true
    · rw [least] at h ⊢
      rw [eq_infinite_of_level_le hx h]
    · simp only [least, ne_eq, not_false_eq_true, and_true]
      split_ifs with left right right
      · exact le_rfl
      · exact absurd left.1 right
      · exact Int.natCast_nonneg _
      · exact le_rfl
  | finite t b =>
    cases y with
    | nan => exact absurd rfl hy
    | infinite s =>
      cases s with
      | false => exact max_le_max_left 0 (level_le_overflowQuanta _)
      | true => rw [eq_infinite_of_level_le hx h]
    | finite s a =>
      cases x with
      | nan => exact absurd rfl hx
      | infinite s' =>
        cases s' with
        | false => cases eq_infinite_of_overflowQuanta_le h
        | true =>
          refine (max_level_infinite true).le.trans ?_
          exact le_max_left _ _
      | finite s' a' =>
        have less := level_sub (x := .finite s' a') (y := .finite t b) trivial trivial
        have more := level_sub (x := .finite s a) (y := .finite t b) trivial trivial
        rw [less, more]
        exact max_le_max_left 0 (level_ofSigned_mono (Int.sub_le_sub_right h _))

/-! ## Numbers without a sign -/

theorem IsNonneg.ne_nan (h : x.IsNonneg) : x ≠ .nan := by
  rintro rfl
  exact h

theorem IsNonneg.level_nonneg (h : x.IsNonneg) : 0 ≤ x.level := by
  cases x with
  | finite s m =>
    rw [show s = false from h]
    exact Int.natCast_nonneg _
  | infinite s =>
    rw [show s = false from h]
    exact Int.natCast_nonneg _
  | nan => exact h.elim

theorem atLeastZero_of_level_nonpos (h : x.level ≤ 0) : x.atLeastZero = 0 := by
  refine if_neg fun pos => ?_
  rw [lt_iff_level zero_ne_nan (isNonneg_of_pos pos).ne_nan, level_zero] at pos
  omega

/-- What is at least a number is no less where what is below zero counts as zero. -/
theorem le_atLeastZero (h : y ≤ x) : y ≤ x.atLeastZero := by
  obtain ⟨number, -, le⟩ := level_of_le h
  rw [le_iff_level number (isNonneg_atLeastZero x).ne_nan, level_atLeastZero]
  omega

/-- A number without a sign is finite, or it is infinity and has the level of no finite one. -/
theorem IsNonneg.infinite_or_finite (h : x.IsNonneg) :
    x = .infinite false ∨ ∃ m, x = .finite false m := by
  cases x with
  | finite s m => exact .inr ⟨m, by rw [show s = false from h]⟩
  | infinite s => exact .inl (by rw [show s = false from h])
  | nan => exact h.elim

theorem toNat_level_infinite : (infinite false).level.toNat = overflowQuanta := by
  rw [level_infinite, Int.toNat_natCast]

theorem toNat_level_finite (m : Magnitude) : (finite false m).level.toNat = m.quanta := by
  rw [level_finite]
  exact Int.toNat_natCast _

theorem level_mul_finite (a b : Magnitude) :
    (finite false a * finite false b).level =
      (min (nearestQuanta (a.quanta * b.quanta) one) overflowQuanta : Nat) :=
  level_ofQuanta false _ _

theorem mul_infinite {a : Magnitude} (pos : 0 < a.quanta) :
    finite false a * infinite false = infinite false :=
  if_neg (by omega)

theorem infinite_div (d : Magnitude) : infinite false / finite false d = infinite false := rfl

theorem level_div_finite (a : Magnitude) {d : Magnitude} (pos : 0 < d.quanta) :
    (finite false a / finite false d).level =
      (min (nearestQuanta (a.quanta * one) d.quanta) overflowQuanta : Nat) := by
  change (Binary64.div (finite false a) (finite false d)).level = _
  unfold Binary64.div
  dsimp only
  rw [if_neg (by omega)]
  exact level_ofQuanta false _ _

theorem finite_mul_zero (d : Magnitude) : finite false d * 0 = 0 := by
  have none := ofQuanta_mul false one_pos .zero
  rw [zero_eq]
  refine Eq.trans ?_ none
  change ofQuanta false (d.quanta * 0) one = ofQuanta false (0 * one) one
  rw [Nat.mul_zero, Nat.zero_mul]

theorem zero_div_finite {d : Magnitude} (pos : 0 < d.quanta) : 0 / finite false d = 0 := by
  have none := ofQuanta_mul false pos .zero
  rw [zero_eq]
  refine Eq.trans (if_neg (by omega)) ?_
  refine Eq.trans ?_ none
  change ofQuanta false (0 * one) d.quanta = ofQuanta false (0 * d.quanta) d.quanta
  rw [Nat.zero_mul, Nat.zero_mul]

/-! ## Numbers with a sign -/

theorem level_nonpos_of_isNegative (h : x.isNegative = true) : x.level ≤ 0 := by
  cases x with
  | finite s m =>
    obtain rfl : s = true := h
    exact Int.neg_nonpos_of_nonneg (Int.natCast_nonneg _)
  | infinite s =>
    obtain rfl : s = true := h
    exact Int.neg_nonpos_of_nonneg (Int.natCast_nonneg _)
  | nan => exact le_rfl

theorem isNegative_ofQuanta (s : Bool) (num den : Nat) :
    (ofQuanta s num den).isNegative = s := by
  unfold ofQuanta
  split <;> rfl

/-- A number with a sign keeps it when it is multiplied by a positive one. -/
theorem isNegative_mul {a : Magnitude} (pos : 0 < a.quanta) (h : x.isNegative = true) :
    (finite false a * x).isNegative = true := by
  cases x with
  | finite s m =>
    obtain rfl : s = true := h
    exact isNegative_ofQuanta _ _ _
  | infinite s =>
    obtain rfl : s = true := h
    have product : finite false a * infinite true = infinite true := if_neg (by omega)
    rw [product]
    rfl
  | nan => cases h

/-- A number with a sign keeps it when it is divided by a positive one. -/
theorem isNegative_div {d : Magnitude} (pos : 0 < d.quanta) (h : x.isNegative = true) :
    (x / finite false d).isNegative = true := by
  cases x with
  | finite s m =>
    obtain rfl : s = true := h
    have quotient : finite true m / finite false d = ofQuanta true (m.quanta * one) d.quanta :=
      if_neg (by omega)
    rw [quotient]
    exact isNegative_ofQuanta _ _ _
  | infinite s =>
    obtain rfl : s = true := h
    rfl
  | nan => cases h

/-- What is not above zero is zero, a number with a sign, or no number. -/
theorem cases_of_not_pos (h : ¬ 0 < x) : x = 0 ∨ x.isNegative = true ∨ x = .nan := by
  cases x with
  | finite s m =>
    cases s with
    | true => exact .inr (.inl rfl)
    | false =>
      rw [lt_iff_level zero_ne_nan Binary64.noConfusion, level_zero] at h
      have none : m.quanta = 0 := by
        have level : (finite false m).level = m.quanta := rfl
        omega
      rw [zero_eq, Magnitude.eq_of_quanta (a := m) (b := .zero) none]
      exact .inl rfl
  | infinite s =>
    cases s with
    | true => exact .inr (.inl rfl)
    | false =>
      rw [lt_iff_level zero_ne_nan Binary64.noConfusion, level_zero, level_infinite] at h
      have := overflowQuanta_pos
      omega
  | nan => exact .inr (.inr rfl)

/-- A number that is not above zero is not above it in proportion either. -/
theorem level_mul_div_nonpos {a d : Magnitude} (pos : 0 < a.quanta) (pos' : 0 < d.quanta)
    (h : ¬ 0 < x) : (finite false a * x / finite false d).level ≤ 0 := by
  rcases cases_of_not_pos h with rfl | negative | rfl
  · rw [finite_mul_zero, zero_div_finite pos', level_zero]
  · exact level_nonpos_of_isNegative (isNegative_div pos' (isNegative_mul pos negative))
  · exact le_rfl

/-! ## Order -/

/-- A positive number times a larger number is no smaller. -/
theorem IsNonneg.level_mul_mono {a : Magnitude} (pos : 0 < a.quanta) (hx : x.IsNonneg)
    (hy : y.IsNonneg) (h : x.level ≤ y.level) :
    (finite false a * x).level ≤ (finite false a * y).level := by
  rcases hy.infinite_or_finite with rfl | ⟨n, rfl⟩
  · rw [mul_infinite pos]
    exact level_le_overflowQuanta _
  · rcases hx.infinite_or_finite with rfl | ⟨m, rfl⟩
    · cases eq_infinite_of_overflowQuanta_le h
    · have le : m.quanta ≤ n.quanta := Int.ofNat_le.1 h
      have rounded := nearestQuanta_mono one_pos one_pos
        (Nat.mul_le_mul_right one (Nat.mul_le_mul_left a.quanta le))
      rw [level_mul_finite, level_mul_finite]
      exact_mod_cast min_le_min_right overflowQuanta rounded

/-- A larger number divided by a positive one is no smaller. -/
theorem IsNonneg.level_div_mono {d : Magnitude} (pos : 0 < d.quanta) (hx : x.IsNonneg)
    (hy : y.IsNonneg) (h : x.level ≤ y.level) :
    (x / finite false d).level ≤ (y / finite false d).level := by
  rcases hy.infinite_or_finite with rfl | ⟨n, rfl⟩
  · exact level_le_overflowQuanta _
  · rcases hx.infinite_or_finite with rfl | ⟨m, rfl⟩
    · cases eq_infinite_of_overflowQuanta_le h
    · have le : m.quanta ≤ n.quanta := Int.ofNat_le.1 h
      have rounded := nearestQuanta_mono pos pos
        (Nat.mul_le_mul_right d.quanta (Nat.mul_le_mul_right one le))
      rw [level_div_finite m pos, level_div_finite n pos]
      exact_mod_cast min_le_min_right overflowQuanta rounded

end MotionEmulator.Binary64
