import MotionEmulator.Proofs.Axis.Course
import MotionEmulator.Proofs.Binary64.Error

/-!
# The law of motion

By the law a move goes in a straight line: in the time `e` since the command it covers the share
`e / param` of its distance, or `param` units in each speed period, until the target is reached.
`Axis.linear` is this position as a rational number. An axis computes with doubles and stands at
whole positions, and both are off by little:

* what is `covered` differs from the exact part of the way, `Axis.due`, by at most an eighth of a
  position, for moves by time (`Sound.covered_near_interpolate`) and by speed
  (`Sound.covered_near_speed`);
* where the axis stands differs from the place it has come to by at most nine sixteenths
  (`Valid.standing_near_place`), a half of it for the whole position.

`Reachable.linear_within_one` puts the two together.
-/

namespace MotionEmulator.Axis

open Binary64

variable {a : Axis} {now : Binary64}

/-! ## The law -/

/-- The exact position when a time has passed since the command. -/
def linear (a : Axis) (e : ℚ) : ℚ :=
  match a.kind with
  | .immediate => a.target
  | .interpolate => a.start + (a.target - a.start) * min 1 (e / a.param)
  | .speed =>
    a.start + (a.target - a.start).sign *
      min |(a.target - a.start : ℚ)| (a.param * e / a.period.value)

/-- How many positions a move should have covered when a time has passed since the command. -/
def due (a : Axis) (e : ℚ) : ℚ :=
  match a.kind with
  | .immediate => |(a.target - a.start : ℚ)|
  | .interpolate => |(a.target - a.start : ℚ)| * min 1 (e / a.param)
  | .speed => min |(a.target - a.start : ℚ)| (a.param * e / a.period.value)

/-- The direction of a move. -/
def heading (a : Axis) : ℚ :=
  if a.distance < 0 then -1 else 1

theorem cast_distance (a : Axis) : (a.distance : ℚ) = a.target - a.start := by
  rw [distance, Int.cast_sub]

theorem cast_natAbs_distance (a : Axis) :
    (a.distance.natAbs : ℚ) = |(a.target - a.start : ℚ)| := by
  rw [Nat.cast_natAbs, Int.cast_abs, cast_distance]

theorem heading_mul_abs (a : Axis) :
    a.heading * |(a.target - a.start : ℚ)| = a.target - a.start := by
  rw [← cast_distance]
  unfold heading
  split
  · next down =>
    have negative : (a.distance : ℚ) < 0 := by exact_mod_cast down
    rw [abs_of_neg negative]
    ring
  · next up =>
    have nonneg : (0 : ℚ) ≤ a.distance := by exact_mod_cast Int.not_lt.1 up
    rw [abs_of_nonneg nonneg, one_mul]

theorem abs_heading (a : Axis) : |a.heading| = 1 := by
  unfold heading
  split <;> norm_num

/-- The sign of a distance is the direction of the move, or the distance is none. -/
theorem sign_distance_cases (a : Axis) :
    ((a.target - a.start).sign : ℚ) = a.heading ∨ (a.target - a.start : ℚ) = 0 := by
  rw [← cast_distance]
  unfold heading
  rcases Int.lt_trichotomy a.distance 0 with down | none | up
  · left
    rw [if_pos down, ← distance, Int.sign_eq_neg_one_of_neg down]
    norm_num
  · right
    rw [none, Int.cast_zero]
  · left
    rw [if_neg (by omega), ← distance, Int.sign_eq_one_of_pos up]
    norm_num

/-- By the law a move has come so far from its start as is due. -/
theorem linear_eq (a : Axis) {e : ℚ} (nonneg : 0 ≤ a.param * e / a.period.value) :
    a.linear e = a.start + a.heading * a.due e := by
  have whole := a.heading_mul_abs
  cases kind : a.kind with
  | immediate =>
    simp only [linear, due, kind]
    linarith
  | interpolate =>
    simp only [linear, due, kind]
    rw [← mul_assoc, whole]
  | speed =>
    simp only [linear, due, kind]
    congr 1
    rcases a.sign_distance_cases with sign | none
    · rw [sign]
    · rw [none, abs_zero, min_eq_left nonneg, mul_zero, mul_zero]

/-! ## The place -/

theorem Valid.place_le (valid : a.Valid) {part : Nat} (le : part ≤ a.way) :
    a.place part ≤ 9999 * one := by
  have there := valid.place_way
  have start_le := valid.natAbs_start_le
  have target_le : a.target.toNat * one ≤ 9999 * one := by
    have high : a.target ≤ 9999 := valid.target_le
    exact Nat.mul_le_mul_right one (by omega)
  have start_le : a.start.toNat * one ≤ 9999 * one := Nat.mul_le_mul_right one (by omega)
  unfold place at there ⊢
  split
  · omega
  · next up =>
    rw [if_neg up] at there
    omega

/-- The place to which a part of the way leads, as a rational number. -/
theorem Valid.cast_place (valid : a.Valid) {part : Nat} (le : part ≤ a.way) :
    (a.place part : ℚ) = a.start * one + a.heading * part := by
  have start : ((a.start.toNat : Int) : ℚ) = a.start := by
    rw [Int.toNat_of_nonneg valid.start_nonneg]
  rw [Int.cast_natCast] at start
  unfold place heading
  split
  · next down =>
    have room := le.trans (valid.way_le_start down)
    rw [Nat.cast_sub room, Nat.cast_mul, start]
    ring
  · rw [Nat.cast_add, Nat.cast_mul, start]
    ring

/-- **Where an axis stands is at most nine sixteenths from the place it has come to.** -/
theorem Valid.standing_near_place (valid : a.Valid) {part : Nat} (le : part ≤ a.way) :
    |(a.standing part : ℚ) - (a.start + a.heading * (part / one))| ≤ 9 / 16 := by
  have one_pos := cast_one_pos
  have place_le : (a.place part : ℚ) ≤ 9999 * one := by exact_mod_cast valid.place_le le
  have place := valid.cast_place le
  have rounded := abs_nearestQuanta_whole_sub_le (a.place part) Nat.one_pos
  have whole := abs_nearestQuotient_sub_le (nearestQuanta (a.place part) 1) Binary64.one_pos
  rw [Nat.mul_one] at rounded
  have standing : (a.standing part : ℚ) =
      (nearestQuotient (nearestQuanta (a.place part) 1) one : ℚ) := rfl
  rw [standing]
  generalize nearestQuanta (a.place part) 1 = r at rounded whole ⊢
  generalize (nearestQuotient r one : ℚ) = p at whole ⊢
  have exact : (a.start + a.heading * (part / one) : ℚ) = a.place part / one := by
    rw [place]
    field_simp
  have near : |(r : ℚ) / one - a.place part / one| ≤ 1 / 16 := by
    rw [← sub_div, abs_div, abs_of_pos one_pos, div_le_iff₀ one_pos]
    linarith
  rw [exact]
  calc |p - a.place part / one| ≤ |p - r / one| + |(r : ℚ) / one - a.place part / one| :=
        abs_sub_le _ _ _
    _ ≤ 1 / 2 + 1 / 16 := add_le_add whole near
    _ = 9 / 16 := by norm_num

/-! ## The covered way -/

theorem cast_way (a : Axis) : (a.way : ℚ) = |(a.target - a.start : ℚ)| * one := by
  rw [way, Nat.cast_mul, cast_natAbs_distance]

/-- What a move by time has covered before its end, in two roundings: `e` quanta of time are a share
of the duration `d`, and this a share of the `w` positions. -/
theorem share_near {w d e : Nat} (pos : 0 < d) (few : w ≤ 9999) (early : e ≤ d * one) :
    |(nearestQuanta (w * one * nearestQuanta (e * one) (d * one)) one : ℚ) -
      w * (e / one / d) * one| ≤ 1 / 8 * one := by
  have one_pos := cast_one_pos
  have d_pos : (0 : ℚ) < d := Nat.cast_pos.2 pos
  have w_nonneg : (0 : ℚ) ≤ w := Nat.cast_nonneg w
  have few : (w : ℚ) ≤ 9999 := by exact_mod_cast few
  have share : ((e * one : Nat) : ℚ) / (d * one : Nat) = e / one / d * one := by
    push_cast
    field_simp
  have share_le : ((e * one : Nat) : ℚ) / (d * one : Nat) ≤ (1 : Nat) * one := by
    have le : ((e * one : Nat) : ℚ) ≤ one * (d * one : Nat) := by
      exact_mod_cast (Nat.mul_le_mul_right one early).trans (Nat.mul_comm _ _).le
    rw [Nat.cast_one, one_mul, div_le_iff₀ (Nat.cast_pos.2 (Nat.mul_pos pos Binary64.one_pos))]
    exact le
  have first := abs_nearestQuanta_sub_le_of_le (Nat.mul_pos pos Binary64.one_pos) le_rfl share_le
  have p_le : nearestQuanta (e * one) (d * one) ≤ one := by
    apply nearestQuanta_le onGrid_one
    calc e * one ≤ d * one * one := Nat.mul_le_mul_right one early
      _ = one * (d * one) := Nat.mul_comm _ _
  rw [share, Nat.cast_one, one_mul] at first
  generalize nearestQuanta (e * one) (d * one) = p at first p_le ⊢
  have p_le : (p : ℚ) ≤ one := by exact_mod_cast p_le
  have product : ((w * one * p : Nat) : ℚ) / one = w * p := by
    push_cast
    field_simp
  have product_le : ((w * one * p : Nat) : ℚ) / one ≤ (9999 : Nat) * one := by
    rw [product]
    exact mul_le_mul few p_le (Nat.cast_nonneg p) (by norm_num)
  have second := abs_nearestQuanta_sub_le_of_le Binary64.one_pos (by norm_num) product_le
  rw [product] at second
  have scaled : |(w : ℚ) * p - w * (e / one / d * one)| ≤ 9999 * (1 / 2 ^ 53 * one) := by
    rw [← mul_sub, abs_mul, abs_of_nonneg w_nonneg]
    exact mul_le_mul few first (abs_nonneg _) (by norm_num)
  generalize (nearestQuanta (w * one * p) one : ℚ) = m at second ⊢
  calc |m - w * (e / one / d) * one|
      ≤ |m - w * p| + |(w : ℚ) * p - w * (e / one / d * one)| := by
        rw [mul_assoc]
        exact abs_sub_le _ _ _
    _ ≤ 1 / 2 ^ 53 * ((9999 : Nat) * one) + 9999 * (1 / 2 ^ 53 * one) := add_le_add second scaled
    _ ≤ 1 / 8 * one := by
        push_cast
        linarith

/-- What a move by speed has covered of its `w` positions, in two roundings: `k` is the parameter
times the quanta of time, and `per` the speed period. -/
theorem travel_share_near {w k per : Nat} (pos : 0 < per) (few : w ≤ 9999) :
    |min (w * one : ℚ) (nearestQuanta (nearestQuanta (k * one) one * one) per) -
      min (w : ℚ) (k / per) * one| ≤ 1 / 8 * one := by
  have one_pos := cast_one_pos
  have least := twoPow_le_one
  have few : (w * one : ℚ) ≤ 9999 * one := by
    have few : (w : ℚ) ≤ 9999 := by exact_mod_cast few
    exact mul_le_mul_of_nonneg_right few one_pos.le
  have way_nonneg : (0 : ℚ) ≤ w * one := by positivity
  have product := abs_nearestQuanta_whole_sub_le k Binary64.one_pos
  generalize nearestQuanta (k * one) one = g at product ⊢
  have quotient := abs_nearestQuanta_sub_le (g * one) pos
  have exact_quotient : |((g * one : Nat) : ℚ) / per - (k : ℚ) * one / per| ≤
      1 / 2 ^ 53 * max ((k : ℚ) * one / per) 0 := by
    have scale_nonneg : (0 : ℚ) ≤ one / per := by positivity
    have difference : ((g * one : Nat) : ℚ) / per - (k : ℚ) * one / per =
        ((g : ℚ) - k) * (one / per) := by
      push_cast
      ring
    rw [difference, abs_mul, abs_of_nonneg scale_nonneg]
    calc |(g : ℚ) - k| * (one / per) ≤ 1 / 2 ^ 53 * k * (one / per) :=
          mul_le_mul_of_nonneg_right product scale_nonneg
      _ = 1 / 2 ^ 53 * ((k : ℚ) * one / per) := by ring
      _ ≤ 1 / 2 ^ 53 * max ((k : ℚ) * one / per) 0 :=
          mul_le_mul_of_nonneg_left (le_max_left _ _) (by norm_num)
  have exact : min (w : ℚ) (k / per) * one = min (w * one : ℚ) ((k : ℚ) * one / per) := by
    rw [min_mul_of_nonneg _ _ one_pos.le, div_mul_eq_mul_div]
  rw [exact]
  generalize (nearestQuanta (g * one) per : ℚ) = t at quotient ⊢
  generalize ((g * one : Nat) : ℚ) / per = y at quotient exact_quotient
  generalize (k : ℚ) * one / per = z at exact_quotient ⊢
  generalize (w * one : ℚ) = way at few way_nonneg ⊢
  have rounded := abs_min_sub_min_le (by norm_num) (by norm_num) way_nonneg quotient
  have cut := abs_min_sub_min_le (by norm_num) (by norm_num) way_nonneg exact_quotient
  have limit : max way (2 ^ 52) ≤ 9999 * (one : ℚ) := max_le few (by linarith)
  have apart := abs_sub_le (min way t) (min way y) (min way z)
  rw [max_eq_left way_nonneg] at cut
  generalize max way (2 ^ 52) = largest at rounded limit
  linarith

/-- The exact time that has passed. -/
theorem value_elapsed (a : Axis) (now : Binary64) :
    (a.elapsed now).value = ((a.elapsed now).level.toNat : ℚ) / one := by
  have nonneg := (a.isNonneg_elapsed now).level_nonneg
  have level : (((a.elapsed now).level.toNat : Int) : ℚ) = (a.elapsed now).level := by
    rw [Int.toNat_of_nonneg nonneg]
  rw [value, ← level]
  rfl

theorem Sound.covered_near_interpolate (sound : a.Sound) (kind : a.kind = .interpolate)
    (now : Binary64) :
    |(a.covered now : ℚ) - a.due (a.elapsed now).value * one| ≤ 1 / 8 * one := by
  have one_pos := cast_one_pos
  have timed : a.kind ≠ .immediate := by simp [kind]
  have param_pos : (0 : ℚ) < a.param := Nat.cast_pos.2 (sound.timed timed).1
  rw [a.value_elapsed]
  simp only [covered, due, kind]
  generalize (a.elapsed now).level.toNat = e
  split
  · next ended =>
    have ended : (a.param * one : ℚ) ≤ e := by exact_mod_cast ended
    have full : (1 : ℚ) ≤ e / one / a.param := by
      rw [div_div, le_div_iff₀ (by positivity)]
      linarith
    rw [min_eq_left full, mul_one, cast_way, sub_self, abs_zero]
    positivity
  · next early =>
    have early := Nat.le_of_not_le early
    have part : (e : ℚ) / one / a.param ≤ 1 := by
      have : (e : ℚ) ≤ a.param * one := by exact_mod_cast early
      rw [div_div, div_le_one (by positivity)]
      linarith
    rw [min_eq_right part, ← cast_natAbs_distance]
    exact share_near (sound.timed timed).1 sound.natAbs_distance_le early

theorem Sound.covered_near_speed (sound : a.Sound) (kind : a.kind = .speed)
    (moved : (Binary64.ofInt a.param * a.elapsed now).IsFinite) :
    |(a.covered now : ℚ) - a.due (a.elapsed now).value * one| ≤ 1 / 8 * one := by
  obtain ⟨per, period, period_pos⟩ := sound.period_finite.eq_finite_of_pos sound.period_pos
  rcases sound.covered_speed_cases kind now with ⟨-, overflows⟩ | ⟨e, g, elapsed, product, covered⟩
  · exact absurd moved overflows
  · have travel : (a.param * (Binary64.finite false e).value / a.period.value : ℚ) =
        (a.param * e.quanta : Nat) / per.quanta := by
      have one_ne := cast_one_pos.ne'
      rw [period, value_finite, value_finite]
      push_cast
      field_simp
    rw [covered, elapsed, product]
    simp only [due, kind]
    rw [travel, period, toNat_level_finite, Nat.cast_min, way, Nat.cast_mul,
      ← cast_natAbs_distance]
    exact travel_share_near period_pos sound.natAbs_distance_le

/-- **What an axis has covered of its way differs from what is due by at most an eighth of a
position.** -/
theorem Sound.covered_near (sound : a.Sound)
    (moved : a.kind = .speed → (Binary64.ofInt a.param * a.elapsed now).IsFinite) :
    |(a.covered now : ℚ) - a.due (a.elapsed now).value * one| ≤ 1 / 8 * one := by
  cases kind : a.kind with
  | immediate =>
    have one_pos := cast_one_pos
    simp only [covered, due, kind]
    rw [cast_way, sub_self, abs_zero]
    positivity
  | interpolate => exact sound.covered_near_interpolate kind now
  | speed => exact sound.covered_near_speed kind (moved kind)

/-! ## The law and the doubles -/

theorem Sound.linear_elapsed (sound : a.Sound) (now : Binary64) :
    a.linear (a.elapsed now).value = a.start + a.heading * a.due (a.elapsed now).value := by
  obtain ⟨per, period, -⟩ := sound.period_finite.eq_finite_of_pos sound.period_pos
  apply linear_eq
  rw [value_elapsed, period, value_finite]
  positivity

variable {period : Binary64}

/-- **The position of a move follows the law within one unit.** Unless the product that a move by
speed computes with overflows, the position at any time differs by less than one from the exact
place on the straight line, where it is at the time that has passed since the command. -/
theorem Reachable.linear_within_one (finite : period.IsFinite) (pos : 0 < period)
    (reach : Reachable period a)
    (moved : a.kind = .speed → (Binary64.ofInt a.param * a.elapsed now).IsFinite) :
    ∃ p, a.resolved now = .ok p ∧ |(p : ℚ) - a.linear (a.elapsed now).value| < 1 := by
  have sound := reach.sound finite pos
  obtain ⟨le_way, resolved⟩ := sound.resolved_eq now
  refine ⟨_, resolved, ?_⟩
  have one_pos := cast_one_pos
  have standing := sound.standing_near_place le_way
  have covered := sound.covered_near moved
  have law := sound.linear_elapsed now
  have line : |a.start + a.heading * (a.covered now / one) - a.linear (a.elapsed now).value| ≤
      1 / 8 := by
    have difference : a.start + a.heading * (a.covered now / one) -
        a.linear (a.elapsed now).value =
          a.heading * ((a.covered now - a.due (a.elapsed now).value * one) / one) := by
      rw [law]
      field_simp
      ring
    rw [difference, abs_mul, abs_heading, one_mul, abs_div, abs_of_pos one_pos,
      div_le_iff₀ one_pos]
    exact covered
  calc |(a.standing (a.covered now) : ℚ) - a.linear (a.elapsed now).value|
      ≤ |(a.standing (a.covered now) : ℚ) - (a.start + a.heading * (a.covered now / one))| +
          |a.start + a.heading * (a.covered now / one) - a.linear (a.elapsed now).value| :=
        abs_sub_le _ _ _
    _ ≤ 9 / 16 + 1 / 8 := add_le_add standing line
    _ < 1 := by norm_num

/-- On the way down, where the exact place lies halfway between two positions. -/
theorem linear_within_one_halfway :
    let a := (fresh defaultPeriod).obeyAll
      [⟨.whole 9999, .immediate, 0, 0⟩, ⟨.whole 1, .speed, 7, 1000⟩]
    defaultPeriod.IsFinite ∧ 0 < defaultPeriod ∧ Reachable defaultPeriod a ∧
      (Binary64.ofInt a.param * a.elapsed 1050).IsFinite ∧
      ∃ p, a.resolved 1050 = .ok p ∧ |(p : ℚ) - a.linear (a.elapsed 1050).value| < 1 := by
  intro a
  have reach : Reachable defaultPeriod a := Reachable.fresh.obeyAll _
  have moved : (Binary64.ofInt a.param * a.elapsed 1050).IsFinite := by decide +kernel
  refine ⟨defaultPeriod_isFinite, defaultPeriod_pos, reach, moved, ?_⟩
  apply reach.linear_within_one defaultPeriod_isFinite defaultPeriod_pos
  intro _
  exact moved

end MotionEmulator.Axis
