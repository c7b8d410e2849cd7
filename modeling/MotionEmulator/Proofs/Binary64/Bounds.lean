import MotionEmulator.Fault
import MotionEmulator.Proofs.Binary64.Rounding

/-!
# How far results are from zero

`Binary64.Within x n` says that `x` is finite and at most `n` in absolute value. Sums, products
and quotients of bounded numbers are bounded (`Within.add`, `Within.mul`, `over_within_one`), so
a computation whose operands are bounded whole numbers never leaves the finite doubles.

`Binary64.IsNonneg` is the weaker fact that a number is not NaN and has no sign; it survives an
overflow. A product with a positive factor and a quotient by a positive divisor keep it
(`IsNonneg.mul`, `IsNonneg.over`), and a number of the kind that is not beyond a whole number is
finite after all (`IsNonneg.lt_of_not_le`).
-/

namespace MotionEmulator

namespace Binary64

/-- A number that is neither infinite nor NaN. -/
def IsFinite : Binary64 → Prop
  | .finite _ _ => True
  | _ => False

instance : DecidablePred IsFinite
  | .finite _ _ => isTrue trivial
  | .infinite _ => isFalse id
  | .nan => isFalse id

/-- A number without a sign, finite or infinite. -/
def IsNonneg : Binary64 → Prop
  | .finite s _ => s = false
  | .infinite s => s = false
  | .nan => False

/-- A finite number of absolute value at most `n`. -/
def Within (x : Binary64) (n : Nat) : Prop :=
  ∃ s m, x = .finite s m ∧ m.quanta ≤ n * one

variable {x y : Binary64} {j k n : Nat}

theorem Within.isFinite (h : x.Within n) : x.IsFinite := by
  obtain ⟨s, m, rfl, -⟩ := h
  exact trivial

theorem natAbs_signed (s : Bool) (m : Magnitude) : (signed s m).natAbs = m.quanta := by
  cases s <;> simp [signed]

/-! ## Whole numbers and signs -/

/-- A quotient of at most a whole number of quanta in one is rounded to at most that number. -/
theorem within_ofQuanta {num den : Nat} (s : Bool) (small : n ≤ wholeLimit)
    (h : num ≤ n * one * den) : (ofQuanta s num den).Within n := by
  obtain ⟨m, eq, le⟩ := ofQuanta_le (m := wholeMagnitude n small) s h
  exact ⟨s, m, eq, le⟩

theorem within_ofInt {i : Int} (small : n ≤ wholeLimit) (h : i.natAbs ≤ n) : (ofInt i).Within n :=
  ⟨_, _, ofInt_of_le (h.trans small), Nat.mul_le_mul_right _ h⟩

theorem ofInt_natCast (small : n ≤ wholeLimit) :
    ofInt n = .finite false (wholeMagnitude n small) := by
  have whole : (n : Int).natAbs ≤ wholeLimit := small
  have eq := ofInt_of_le whole
  rwa [decide_eq_false (by omega)] at eq

theorem Within.withSign (h : x.Within n) (s : Bool) : (x.withSign s).Within n := by
  obtain ⟨_, m, rfl, le⟩ := h
  exact ⟨s, m, rfl, le⟩

theorem zero_eq : (0 : Binary64) = .finite false .zero := by
  have eq := ofInt_natCast (Nat.zero_le wholeLimit)
  have quanta : wholeMagnitude 0 (Nat.zero_le _) = .zero := by
    simp only [wholeMagnitude, Magnitude.zero, Nat.zero_mul]
  rw [quanta] at eq
  exact eq

/-! ## Arithmetic on bounded numbers -/

theorem Within.add (hx : x.Within j) (hy : y.Within k) (small : j + k ≤ wholeLimit) :
    (x + y).Within (j + k) := by
  obtain ⟨s, a, rfl, ha⟩ := hx
  obtain ⟨t, b, rfl, hb⟩ := hy
  have sum_le : (signed s a + signed t b).natAbs ≤ (j + k) * one * 1 := by
    have triangle := Int.natAbs_add_le (signed s a) (signed t b)
    rw [natAbs_signed, natAbs_signed] at triangle
    rw [Nat.mul_one, Nat.add_mul]
    omega
  change (Binary64.add (.finite s a) (.finite t b)).Within (j + k)
  unfold Binary64.add
  dsimp only
  split
  · exact ⟨_, .zero, rfl, Nat.zero_le _⟩
  · exact within_ofQuanta _ small sum_le

theorem Within.mul (hx : x.Within j) (hy : y.Within k) (small : j * k ≤ wholeLimit) :
    (x * y).Within (j * k) := by
  obtain ⟨s, a, rfl, ha⟩ := hx
  obtain ⟨t, b, rfl, hb⟩ := hy
  change (ofQuanta (s != t) (a.quanta * b.quanta) one).Within (j * k)
  apply within_ofQuanta _ small
  calc a.quanta * b.quanta ≤ (j * one) * (k * one) := Nat.mul_le_mul ha hb
    _ = j * k * one * one := by ring

/-- Nothing is divided by a zero where the divisor has quanta. -/
theorem over_eq_ok {s : Bool} {d : Magnitude} (pos : 0 < d.quanta) (x : Binary64) :
    x.over (.finite s d) = .ok (x / .finite s d) := by
  have level : (Binary64.finite s d).level? ≠ some 0 := by
    cases s <;> simp [level?, signed] <;> omega
  rw [Binary64.over, if_neg level]

/-- A quotient by a larger number is at most one. -/
theorem over_within_one {s t : Bool} {a d : Magnitude} (pos : 0 < d.quanta)
    (h : a.quanta ≤ d.quanta) :
    ∃ q, (Binary64.finite s a).over (.finite t d) = .ok q ∧ q.Within 1 := by
  refine ⟨_, over_eq_ok pos _, ?_⟩
  change (Binary64.div (.finite s a) (.finite t d)).Within 1
  unfold Binary64.div
  dsimp only
  rw [if_neg (by omega)]
  apply within_ofQuanta _ (by decide)
  calc a.quanta * one ≤ d.quanta * one := Nat.mul_le_mul_right _ h
    _ = 1 * one * d.quanta := by ring

/-! ## Numbers without a sign -/

theorem finite_le_finite {a b : Magnitude} (h : a.quanta ≤ b.quanta) :
    Binary64.finite false a ≤ .finite false b :=
  decide_eq_true (Int.ofNat_le.2 h)

theorem isNonneg_of_pos (pos : 0 < x) : x.IsNonneg := by
  rw [zero_eq] at pos
  cases x with
  | finite s m =>
    have level : signed false .zero < signed s m := of_decide_eq_true pos
    cases s with
    | false => exact rfl
    | true =>
      simp only [signed, Magnitude.zero, Bool.false_eq_true, ↓reduceIte] at level
      omega
  | infinite s =>
    have level : signed false .zero < if s then -(overflowQuanta : Int) else overflowQuanta :=
      of_decide_eq_true pos
    cases s with
    | false => exact rfl
    | true =>
      simp only [signed, Magnitude.zero, Bool.false_eq_true, ↓reduceIte] at level
      omega
  | nan => cases pos

/-- A finite positive number has quanta and no sign. -/
theorem IsFinite.eq_finite_of_pos (finite : x.IsFinite) (pos : 0 < x) :
    ∃ m, x = .finite false m ∧ 0 < m.quanta := by
  have sign := isNonneg_of_pos pos
  cases x with
  | infinite s => exact finite.elim
  | nan => exact finite.elim
  | finite s m =>
    rw [zero_eq, show s = false from sign] at pos
    have level : signed false .zero < signed false m := of_decide_eq_true pos
    rw [show s = false from sign]
    exact ⟨m, rfl, by simpa [signed, Magnitude.zero] using level⟩

theorem isNonneg_ofQuanta (num den : Nat) : (ofQuanta false num den).IsNonneg := by
  unfold ofQuanta
  split <;> exact rfl

theorem isNonneg_atLeastZero (x : Binary64) : x.atLeastZero.IsNonneg := by
  unfold atLeastZero
  split
  · next pos => exact isNonneg_of_pos pos
  · rw [zero_eq]
    exact rfl

/-- A positive number times a number without a sign has none. -/
theorem IsNonneg.mul {m : Magnitude} (pos : 0 < m.quanta) (h : y.IsNonneg) :
    (Binary64.finite false m * y).IsNonneg := by
  change (Binary64.mul (.finite false m) y).IsNonneg
  cases y with
  | nan => exact h
  | infinite s =>
    unfold Binary64.mul
    dsimp only
    rw [if_neg (by omega), h]
    exact rfl
  | finite s b =>
    unfold Binary64.mul
    dsimp only
    rw [h]
    exact isNonneg_ofQuanta _ _

/-- A number without a sign, divided by a positive one, has none. -/
theorem IsNonneg.over {d : Magnitude} (pos : 0 < d.quanta) (h : x.IsNonneg) :
    ∃ q, x.over (.finite false d) = .ok q ∧ q.IsNonneg := by
  refine ⟨_, over_eq_ok pos _, ?_⟩
  change (Binary64.div x (.finite false d)).IsNonneg
  cases x with
  | nan => exact h
  | infinite s =>
    unfold Binary64.div
    dsimp only
    rw [h]
    exact rfl
  | finite s a =>
    unfold Binary64.div
    dsimp only
    rw [if_neg (by omega), h]
    exact isNonneg_ofQuanta _ _

/-- **A number without a sign that a whole number is not below is finite and less than it.** -/
theorem IsNonneg.lt_of_not_le (h : x.IsNonneg) (small : n ≤ wholeLimit) (below : ¬ ofInt n ≤ x) :
    ∃ m, x = .finite false m ∧ m.quanta < n * one := by
  rw [ofInt_natCast small] at below
  cases x with
  | nan => exact h.elim
  | infinite s =>
    -- Infinity is beyond every finite number.
    rw [h] at below
    refine absurd (decide_eq_true ?_) below
    have := (wholeMagnitude n small).inRange
    simp only [signed, Bool.false_eq_true, ↓reduceIte]
    omega
  | finite s m =>
    rw [h] at below ⊢
    refine ⟨m, rfl, ?_⟩
    by_contra ge
    refine below (decide_eq_true ?_)
    simp only [signed, Bool.false_eq_true, ↓reduceIte, wholeMagnitude]
    omega

end Binary64

end MotionEmulator
