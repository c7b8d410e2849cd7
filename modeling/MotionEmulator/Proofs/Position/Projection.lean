import MotionEmulator.Proofs.Axis.Soundness
import MotionEmulator.Proofs.Binary64.Error

/-!
# The projection onto the positions

`Amount.value` is the rational number that a finite amount is, and `Position.IsNearest q p` says
what it is for a position to be the nearest one to a number, without saying how it is found. The
nearest position of a larger number is no smaller (`IsNearest.mono`), so there is only one.

An amount is rounded first and cut off at the ends of the range afterwards. The rounding is off by
at most a half, and by just a half only where it is even (`Amount.rounded_near`); a number below the
range is nearest to its lower end and one above it to the upper one. So cutting off after the
rounding (`isNearest_clamp`) and before it (`Amount.rounded_clamped`) both lead to the nearest
position. `nearest_projects` is the statement for all amounts.
-/

namespace MotionEmulator

namespace Position

/-! ## The nearest position -/

/-- A position that is as near to a number as any other, and an even one if another is as near. -/
structure IsNearest (q : ℚ) (p : Int) : Prop where
  nonneg : 0 ≤ p
  le_top : p ≤ top
  nearest : ∀ other, 0 ≤ other → other ≤ top → |q - p| ≤ |q - other|
  even : ∀ other, 0 ≤ other → other ≤ top → other ≠ p → |q - other| = |q - p| → p % 2 = 0

variable {q : ℚ} {p : Int}

/-- Of two numbers the upper one is as near as the lower one from the middle on. -/
theorem upper_nearer_iff {a b : ℚ} (lt : a < b) : |q - b| ≤ |q - a| ↔ a + b ≤ 2 * q := by
  have factors : (q - a) ^ 2 - (q - b) ^ 2 = (b - a) * (2 * q - (a + b)) := by ring
  rw [← sq_le_sq, ← sub_nonneg, factors, mul_nonneg_iff_of_pos_left (sub_pos.2 lt), sub_nonneg]

/-- The lower one is as near as the upper one up to the middle. -/
theorem lower_nearer_iff {a b : ℚ} (lt : a < b) : |q - a| ≤ |q - b| ↔ 2 * q ≤ a + b := by
  have factors : (q - b) ^ 2 - (q - a) ^ 2 = (b - a) * (a + b - 2 * q) := by ring
  rw [← sq_le_sq, ← sub_nonneg, factors, mul_nonneg_iff_of_pos_left (sub_pos.2 lt), sub_nonneg]

/-- **The nearest position of a larger number is no smaller.** -/
theorem IsNearest.mono {q' : ℚ} {p' : Int} (h : IsNearest q p) (h' : IsNearest q' p')
    (le : q ≤ q') : p ≤ p' := by
  by_contra less
  have lt : p' < p := Int.not_le.1 less
  have lt_cast : (p' : ℚ) < p := by exact_mod_cast lt
  -- Both numbers can only be the middle between the two positions, which are even then.
  have above := (upper_nearer_iff lt_cast).1 (h.nearest p' h'.nonneg h'.le_top)
  have below := (lower_nearer_iff lt_cast).1 (h'.nearest p h.nonneg h.le_top)
  have even : p % 2 = 0 := by
    refine h.even p' h'.nonneg h'.le_top lt.ne (le_antisymm ?_ ?_)
    · exact (lower_nearer_iff lt_cast).2 (by linarith)
    · exact (upper_nearer_iff lt_cast).2 above
  have even' : p' % 2 = 0 := by
    refine h'.even p h.nonneg h.le_top lt.ne' (le_antisymm ?_ ?_)
    · exact (upper_nearer_iff lt_cast).2 (by linarith)
    · exact (lower_nearer_iff lt_cast).2 below
  -- So there is a position between them, and that is nearer.
  have between : p' + 1 < p := by omega
  have between_cast : ((p' + 1 : Int) : ℚ) < p := by exact_mod_cast between
  have inside := (upper_nearer_iff between_cast).1
    (h.nearest (p' + 1) (by have := h'.nonneg; omega) (by have := h.le_top; omega))
  rw [Int.cast_add, Int.cast_one] at inside
  linarith

theorem IsNearest.unique {p' : Int} (h : IsNearest q p) (h' : IsNearest q p') : p = p' :=
  le_antisymm (h.mono h' le_rfl) (h'.mono h le_rfl)

/-! ## Where it lies -/

/-- Below the range the lower end is nearest. -/
theorem isNearest_zero (le : q ≤ 0) : IsNearest q 0 where
  nonneg := le_rfl
  le_top := zero_le_top
  nearest other nonneg _ := by
    rcases nonneg.eq_or_lt with rfl | pos
    · exact le_rfl
    · have pos_cast : ((0 : Int) : ℚ) < other := by exact_mod_cast pos
      refine (lower_nearer_iff pos_cast).2 ?_
      rw [Int.cast_zero] at pos_cast ⊢
      linarith
  even _ _ _ _ _ := rfl

/-- Above the range the upper end is nearest. -/
theorem isNearest_top (le : (top : ℚ) ≤ q) : IsNearest q top where
  nonneg := zero_le_top
  le_top := le_rfl
  nearest other _ le_top := by
    rcases le_top.eq_or_lt with rfl | lt
    · exact le_rfl
    · have lt_cast : (other : ℚ) < top := by exact_mod_cast lt
      exact (upper_nearer_iff lt_cast).2 (by linarith)
  even other _ le_top ne tie := by
    have lt_cast : (other : ℚ) < top := by exact_mod_cast le_top.lt_of_ne ne
    have below := (lower_nearer_iff lt_cast).1 tie.le
    linarith

/-- Within the range it is an integer that is at most a half away, the even one of two. -/
theorem isNearest_of_near (nonneg : 0 ≤ p) (le_top : p ≤ top) (near : |q - p| ≤ 1 / 2)
    (even : |q - p| = 1 / 2 → p % 2 = 0) : IsNearest q p := by
  have far {other : Int} (ne : other ≠ p) : 1 / 2 ≤ |q - other| := by
    have apart : (1 : ℚ) ≤ |(other : ℚ) - p| := by
      exact_mod_cast Int.one_le_abs (sub_ne_zero.2 ne)
    have triangle := abs_sub_le (other : ℚ) q p
    rw [abs_sub_comm (other : ℚ) q] at triangle
    linarith
  refine ⟨nonneg, le_top, fun other _ _ => ?_, fun other _ _ ne tie => even ?_⟩
  · by_cases own : other = p
    · rw [own]
    · exact near.trans (far own)
  · exact le_antisymm near (tie ▸ far ne)

theorem isNearest_self (nonneg : 0 ≤ p) (le_top : p ≤ top) : IsNearest p p := by
  refine isNearest_of_near nonneg le_top ?_ ?_ <;> rw [sub_self, abs_zero] <;> norm_num

/-- **An integer that is cut off is nearest to what was rounded to it.** -/
theorem isNearest_clamp (near : |q - p| ≤ 1 / 2) (even : |q - p| = 1 / 2 → p % 2 = 0) :
    IsNearest q (clamp p) := by
  obtain ⟨less, more⟩ := abs_le.1 near
  rcases Int.lt_or_le p 0 with negative | nonneg
  · have cut : clamp p = 0 := by unfold clamp top; omega
    have low : (p : ℚ) ≤ -1 := by exact_mod_cast Int.le_sub_one_of_lt negative
    rw [cut]
    exact isNearest_zero (by linarith)
  rcases Int.lt_or_le top p with beyond | le_top
  · have cut : clamp p = top := by unfold clamp top at *; omega
    have high : (top + 1 : ℚ) ≤ p := by exact_mod_cast Int.add_one_le_of_lt beyond
    rw [cut]
    exact isNearest_top (by linarith)
  · rw [clamp_of_mem nonneg le_top]
    exact isNearest_of_near nonneg le_top near even

/-- **A number that is cut off keeps its nearest position.** -/
theorem IsNearest.cut (h : IsNearest q p) : IsNearest (max 0 (min (top : ℚ) q)) p := by
  have range : (0 : ℚ) ≤ top := by exact_mod_cast zero_le_top
  rcases le_total q 0 with low | nonneg
  · rw [h.unique (isNearest_zero low), max_eq_left ((min_le_right _ _).trans low)]
    exact isNearest_zero le_rfl
  rcases le_total (top : ℚ) q with high | le_top
  · rw [h.unique (isNearest_top high), min_eq_left high, max_eq_right range]
    exact isNearest_top le_rfl
  · rw [min_eq_right le_top, max_eq_right nonneg]
    exact h

end Position

/-! ## Amounts -/

namespace Amount

open Binary64 Position

/-- The rational number that a finite amount is. -/
def value : Amount → ℚ
  | .whole n => n
  | .real x => x.value

/-- The integer nearest to an amount, which need not be a position. -/
def rounded : Amount → Except NonFinite Int
  | .whole n => .ok n
  | .real x => x.nearestInt

/-- An amount that is cut off at the ends of the range before it is rounded. -/
def clamped : Amount → Amount
  | .whole n => .whole (clamp n)
  | .real x =>
    if x ≤ 0 then .whole 0 else if ofInt top ≤ x then .whole top else .real x

variable {a : Amount}

/-- **Rounding is off by at most a half, and by just a half only where it leads to an even
integer.** -/
theorem rounded_near (finite : a.IsFinite) :
    ∃ r : Int, a.rounded = .ok r ∧ |a.value - r| ≤ 1 / 2 ∧ (|a.value - r| = 1 / 2 → r % 2 = 0) := by
  cases a with
  | whole n =>
    refine ⟨n, rfl, ?_, ?_⟩ <;> rw [value, sub_self, abs_zero] <;> norm_num
  | real x =>
    obtain ⟨s, m, rfl⟩ := IsFinite.exists_eq (x := x) finite
    refine ⟨_, rfl, ?_⟩
    rw [value, abs_value_sub_signedInt]
    refine ⟨abs_nearestQuotient_sub_le m.quanta Binary64.one_pos, fun half => ?_⟩
    have even := even_nearestQuotient_of_abs_sub_eq Binary64.one_pos half
    unfold signedInt
    split <;> omega

/-- An amount is cut off where its number is. -/
theorem clamped_spec (finite : a.IsFinite) :
    a.clamped.IsFinite ∧ a.clamped.value = max 0 (min (top : ℚ) a.value) := by
  have range : (0 : ℚ) ≤ top := by exact_mod_cast zero_le_top
  cases a with
  | whole n =>
    refine ⟨trivial, ?_⟩
    change ((clamp n : Int) : ℚ) = max 0 (min (top : ℚ) n)
    rw [clamp, Int.cast_max, Int.cast_min, Int.cast_zero]
  | real x =>
    have finite : x.IsFinite := finite
    have low := finite.le_iff_value (y := 0) (by decide +kernel)
    have high := IsFinite.le_iff_value (x := ofInt top) (by decide +kernel) finite
    rw [show (0 : Binary64).value = 0 from value_ofInt (Nat.zero_le _)] at low
    rw [show (ofInt top).value = top from value_ofInt (n := 9999) (by decide)] at high
    change (ite _ _ _ : Amount).IsFinite ∧
      (ite _ _ _ : Amount).value = max 0 (min (top : ℚ) x.value)
    split_ifs with below above
    · rw [max_eq_left ((min_le_right _ _).trans (low.1 below))]
      exact ⟨trivial, Int.cast_zero⟩
    · rw [min_eq_left (high.1 above), max_eq_right range]
      exact ⟨trivial, rfl⟩
    · have nonneg : 0 ≤ x.value := (not_le.1 (mt low.2 below)).le
      have le_top : x.value ≤ top := (not_le.1 (mt high.2 above)).le
      rw [min_eq_right le_top, max_eq_right nonneg]
      exact ⟨finite, rfl⟩

/-- **Rounding what was cut off leads to the nearest position.** -/
theorem rounded_clamped (finite : a.IsFinite) {p : Int} (nearest : IsNearest a.value p) :
    a.clamped.rounded = .ok p := by
  obtain ⟨finite', value⟩ := clamped_spec finite
  obtain ⟨r, eq, near, even⟩ := rounded_near finite'
  rw [value] at near even
  have range : (0 : ℚ) ≤ top := by exact_mod_cast zero_le_top
  have low : 0 ≤ max 0 (min (top : ℚ) a.value) := le_max_left _ _
  have high : max 0 (min (top : ℚ) a.value) ≤ top := max_le range (min_le_left _ _)
  obtain ⟨less, more⟩ := abs_le.1 near
  have nonneg : 0 ≤ r := by
    by_contra negative
    have cast : (r : ℚ) ≤ -1 := by exact_mod_cast Int.le_sub_one_of_lt (Int.not_le.1 negative)
    linarith
  have le_top : r ≤ top := by
    by_contra beyond
    have cast : (top + 1 : ℚ) ≤ r := by exact_mod_cast Int.add_one_le_of_lt (Int.not_le.1 beyond)
    linarith
  rw [eq, nearest.cut.unique (isNearest_of_near nonneg le_top near even)]

end Amount

namespace Position

theorem nearest_eq (a : Amount) : nearest a = a.rounded.map clamp := by
  cases a <;> rfl

/-- A finite amount has a position, which is the nearest one. -/
theorem nearest_of_isFinite {a : Amount} (finite : a.IsFinite) :
    ∃ p, nearest a = .ok p ∧ IsNearest a.value p := by
  obtain ⟨r, eq, near, even⟩ := Amount.rounded_near finite
  refine ⟨clamp r, ?_, isNearest_clamp near even⟩
  rw [nearest_eq, eq]
  rfl

/-- **The projection of amounts onto the positions.** Every finite amount, a whole number of any
size or a double, has just one nearest position, of two equally near ones the even one, and is sent
there; cutting it off at the ends of the range before it is rounded leads to the same position. So
a larger amount is not sent to a smaller position, and a position is sent to itself. Only NaN and
the infinities are refused, each for its own cause. -/
theorem nearest_projects :
    (∀ a : Amount, a.IsFinite →
      ∃ p, nearest a = .ok p ∧ IsNearest a.value p ∧
        (∀ other, IsNearest a.value other → other = p) ∧
        a.clamped.value = max 0 (min (top : ℚ) a.value) ∧ a.clamped.rounded = .ok p) ∧
    (∀ a b : Amount, a.IsFinite → b.IsFinite → a.value ≤ b.value →
      ∃ p q, nearest a = .ok p ∧ nearest b = .ok q ∧ p ≤ q) ∧
    (∀ (a : Amount) (p : Int), a.IsFinite → a.value = p → 0 ≤ p → p ≤ top → nearest a = .ok p) ∧
    ∀ (a : Amount) (cause : NonFinite), nearest a = .error cause ↔
      a = .real .nan ∧ cause = .nan ∨ ∃ s, a = .real (.infinite s) ∧ cause = .infinite := by
  refine ⟨fun a finite => ?_, fun a b finite finite' le => ?_,
    fun a p finite value nonneg le_top => ?_, fun a cause => ?_⟩
  · obtain ⟨p, eq, near⟩ := nearest_of_isFinite finite
    exact ⟨p, eq, near, fun other near' => near'.unique near, (Amount.clamped_spec finite).2,
      Amount.rounded_clamped finite near⟩
  · obtain ⟨p, eq, near⟩ := nearest_of_isFinite finite
    obtain ⟨q, eq', near'⟩ := nearest_of_isFinite finite'
    exact ⟨p, q, eq, eq', near.mono near' le⟩
  · obtain ⟨q, eq, near⟩ := nearest_of_isFinite finite
    rw [value] at near
    rw [eq, near.unique (isNearest_self nonneg le_top)]
  · rcases a with n | ⟨s, m⟩ | s | _ <;> cases cause <;>
      simp [nearest, Binary64.nearestInt, Except.map]

/-- Two and a half lies between an even position and an odd one, and half a unit above the last
position lies an even integer that is none. -/
theorem nearest_projects_halves :
    let half := Amount.real (Binary64.ofDecimal false 25 (-1))
    let beyond := Amount.real (Binary64.ofDecimal false 99995 (-1))
    half.IsFinite ∧ beyond.IsFinite ∧ half.value ≤ beyond.value ∧
      IsNearest half.value 2 ∧ half.clamped.rounded = .ok 2 ∧
      IsNearest beyond.value top ∧ beyond.clamped.rounded = .ok top ∧
      (∃ p q, nearest half = .ok p ∧ nearest beyond = .ok q ∧ p ≤ q) ∧
      nearest (.whole 9999) = .ok 9999 := by
  intro half beyond
  have finite : half.IsFinite := by
    change Binary64.IsFinite _
    decide +kernel
  have finite' : beyond.IsFinite := by
    change Binary64.IsFinite _
    decide +kernel
  have le : half.value ≤ beyond.value :=
    (Binary64.IsFinite.le_iff_value finite finite').1 (by decide +kernel)
  obtain ⟨projects, mono, keeps, -⟩ := nearest_projects
  obtain ⟨p, eq, near, -, -, cut⟩ := projects half finite
  obtain ⟨q, eq', near', -, -, cut'⟩ := projects beyond finite'
  obtain rfl : p = 2 := by
    have two : nearest half = .ok 2 := by decide +kernel
    exact Except.ok.inj (eq.symm.trans two)
  obtain rfl : q = top := by
    have last : nearest beyond = .ok top := by decide +kernel
    exact Except.ok.inj (eq'.symm.trans last)
  exact ⟨finite, finite', le, near, cut, near', cut', mono half beyond finite finite' le,
    keeps (.whole 9999) 9999 trivial rfl (by decide) (by decide)⟩

end Position

end MotionEmulator
