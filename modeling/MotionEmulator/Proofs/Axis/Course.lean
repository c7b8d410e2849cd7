import MotionEmulator.Proofs.Axis.Soundness
import MotionEmulator.Proofs.Binary64.Levels

/-!
# The course of a move

At every time a move has covered a part of its way, `Axis.covered`, and with so many quanta of the
way covered it stands at a position, `Axis.standing`. Resolving the position of a sound axis yields
just this (`Sound.resolved_eq`), for all kinds of moves and with all roundings.

Both functions keep the order: in a longer time no less is covered (`Sound.covered_mono`), and with
more of the way covered the axis stands no farther from its target (`Valid.standing_approaches`). So
a move approaches its target as time goes on (`Sound.approaches`) and stays there (`Sound.stays`).
-/

namespace MotionEmulator

open Binary64

namespace Position

/-- The position of a place that is a whole number of quanta. -/
def ofQuanta (n : Nat) : Int :=
  nearestQuotient (nearestQuanta n 1) one

theorem ofQuanta_mono {m n : Nat} (h : m ≤ n) : ofQuanta m ≤ ofQuanta n := by
  have rounded := nearestQuanta_mono Nat.one_pos Nat.one_pos (Nat.mul_le_mul_right 1 h)
  exact Int.ofNat_le.2
    (nearestQuotient_mono Binary64.one_pos Binary64.one_pos (Nat.mul_le_mul_right one rounded))

theorem ofQuanta_whole {n : Nat} (small : n ≤ wholeLimit) : ofQuanta (n * one) = n := by
  have grid : OnGrid (n * one) := (wholeMagnitude n small).isOnGrid
  have exact := nearestQuanta_mul Nat.one_pos grid
  rw [Nat.mul_one] at exact
  rw [ofQuanta, exact, nearestQuotient_mul n Binary64.one_pos]

/-- A finite place has the position of its level. -/
theorem nearestInt_of_level {x : Binary64} (finite : x.IsFinite) {n : Nat}
    (level : x.level = min (nearestQuanta n 1) overflowQuanta) :
    x.nearestInt = .ok (ofQuanta n) := by
  cases x with
  | infinite s => exact finite.elim
  | nan => exact finite.elim
  | finite s m =>
    have inRange := m.inRange
    rw [level_finite] at level
    rw [nearestInt, ofQuanta]
    cases s with
    | false =>
      have quanta : m.quanta = nearestQuanta n 1 := by
        simp only [signed, Bool.false_eq_true, if_false] at level
        omega
      rw [quanta]
      rfl
    | true =>
      have quanta : m.quanta = 0 ∧ nearestQuanta n 1 = 0 := by
        simp only [signed, if_true] at level
        omega
      have none : nearestQuotient 0 one = 0 := Nat.le_zero.1 (nearestQuotient_le_of_le (by simp))
      rw [quanta.1, quanta.2, none]
      rfl

end Position

namespace Axis

/-- The length of the way from start to target, in quanta. -/
def way (a : Axis) : Nat :=
  a.distance.natAbs * one

/-- The part of the way, in quanta, that a move has covered at a time. -/
def covered (a : Axis) (now : Binary64) : Nat :=
  match a.kind with
  | .immediate => a.way
  | .interpolate =>
    let passed := (a.elapsed now).level.toNat
    if a.param * one ≤ passed then a.way
    else nearestQuanta (a.way * nearestQuanta (passed * one) (a.param * one)) one
  | .speed => min a.way (Binary64.ofInt a.param * a.elapsed now / a.period).level.toNat

/-- The place, in quanta, up to which a part of the way leads. -/
def place (a : Axis) (part : Nat) : Nat :=
  if a.distance < 0 then a.start.toNat * one - part else a.start.toNat * one + part

/-- The position at which an axis stands when it has covered a part of its way. -/
def standing (a : Axis) (part : Nat) : Int :=
  Position.ofQuanta (a.place part)

variable {a : Axis} {part part' : Nat} {now later : Binary64}

/-! ## Places on the way -/

theorem Valid.way_le (valid : a.Valid) : a.way ≤ 9999 * one :=
  Nat.mul_le_mul_right one valid.natAbs_distance_le

/-- Below the start there is room for the whole way down. -/
theorem Valid.way_le_start (valid : a.Valid) (down : a.distance < 0) :
    a.way ≤ a.start.toNat * one := by
  have low := valid.target_nonneg
  refine Nat.mul_le_mul_right one ?_
  unfold distance at down ⊢
  omega

theorem Valid.place_way (valid : a.Valid) : a.place a.way = a.target.toNat * one := by
  have start_nonneg := valid.start_nonneg
  have target_nonneg := valid.target_nonneg
  unfold place way
  split
  · next down =>
    rw [← Nat.sub_mul]
    congr 1
    unfold distance at down ⊢
    omega
  · next up =>
    rw [← Nat.add_mul]
    congr 1
    unfold distance at up ⊢
    omega

theorem Valid.standing_zero (valid : a.Valid) : a.standing 0 = a.start := by
  have low := valid.start_nonneg
  have bound := valid.natAbs_start_le
  have here : a.place 0 = a.start.toNat * one := by
    unfold place
    split <;> rfl
  have limit : 9999 ≤ wholeLimit := by decide
  rw [standing, here, Position.ofQuanta_whole (by omega)]
  omega

/-- With the whole way covered an axis stands at its target. -/
theorem Valid.standing_way (valid : a.Valid) : a.standing a.way = a.target := by
  have low := valid.target_nonneg
  have high : a.target ≤ 9999 := valid.target_le
  have limit : 9999 ≤ wholeLimit := by decide
  rw [standing, valid.place_way, Position.ofQuanta_whole (by omega)]
  omega

theorem standing_mono (up : ¬ a.distance < 0) (h : part ≤ part') :
    a.standing part ≤ a.standing part' := by
  refine Position.ofQuanta_mono ?_
  unfold place
  rw [if_neg up, if_neg up]
  omega

theorem standing_anti (down : a.distance < 0) (h : part ≤ part') :
    a.standing part' ≤ a.standing part := by
  refine Position.ofQuanta_mono ?_
  unfold place
  rw [if_pos down, if_pos down]
  omega

theorem Valid.standing_bounds (valid : a.Valid) (h : part ≤ a.way) :
    min a.start a.target ≤ a.standing part ∧ a.standing part ≤ max a.start a.target := by
  rw [← valid.standing_way, ← valid.standing_zero]
  by_cases down : a.distance < 0
  · have first := standing_anti down (Nat.zero_le part)
    have last := standing_anti down h
    omega
  · have first := standing_mono down (Nat.zero_le part)
    have last := standing_mono down h
    omega

/-- **With more of the way covered an axis stands no farther from its target.** -/
theorem Valid.standing_approaches (valid : a.Valid) (h : part ≤ part') (h' : part' ≤ a.way) :
    |a.target - a.standing part'| ≤ |a.target - a.standing part| := by
  rw [← valid.standing_way]
  by_cases down : a.distance < 0
  · have first := standing_anti down h
    have last := standing_anti down h'
    rw [abs_of_nonpos (by omega), abs_of_nonpos (by omega)]
    omega
  · have first := standing_mono down h
    have last := standing_mono down h'
    rw [abs_of_nonneg (by omega), abs_of_nonneg (by omega)]
    omega

/-! ## Resolving -/

theorem Valid.resolved_of_none (valid : a.Valid) (underway : a.underway? now = .ok none) :
    a.resolved now = .ok (a.standing a.way) := by
  rw [valid.standing_way, Axis.resolved, underway]
  rfl

/-- The start and a part of the way are added up to a finite place, which is the rounded one. -/
theorem Valid.start_add (valid : a.Valid) {m : Magnitude} (le : m.quanta ≤ a.way) :
    (Binary64.ofInt a.start + .finite (a.distance < 0) m).IsFinite ∧
      (Binary64.ofInt a.start + .finite (a.distance < 0) m).level =
        min (nearestQuanta (a.place m.quanta) 1) overflowQuanta := by
  have part : (Binary64.finite (a.distance < 0) m).Within 9999 := ⟨_, m, rfl, le.trans valid.way_le⟩
  refine ⟨((within_ofInt (by decide) valid.natAbs_start_le).add part (by decide)).isFinite, ?_⟩
  have start_nonneg := valid.start_nonneg
  have small : a.start.natAbs ≤ wholeLimit := valid.natAbs_start_le.trans (by decide)
  have unsigned : decide (a.start < 0) = false := decide_eq_false (by omega)
  have sum : signed (a.start < 0) (wholeMagnitude a.start.natAbs small) +
      signed (a.distance < 0) m = (a.place m.quanta : Int) := by
    have whole : (wholeMagnitude a.start.natAbs small).quanta = a.start.toNat * one := by
      have same : a.start.natAbs = a.start.toNat := by omega
      rw [← same]
      rfl
    generalize wholeMagnitude a.start.natAbs small = w at whole
    unfold place
    by_cases down : a.distance < 0
    · have room := valid.way_le_start down
      simp only [signed, unsigned, down, decide_true, if_true, Bool.false_eq_true, if_false]
      omega
    · simp only [signed, unsigned, down, decide_false, if_false, Bool.false_eq_true]
      omega
  have level := level_add (x := .finite (a.start < 0) (wholeMagnitude a.start.natAbs small))
    (y := .finite (a.distance < 0) m) trivial trivial
  have nonneg : decide ((a.place m.quanta : Int) < 0) = false := decide_eq_false (by omega)
  rw [level_finite, level_finite, sum, ofSigned, nonneg, level_ofQuanta] at level
  rw [ofInt_of_le small, level]
  rfl

/-- A place that is nearest to a position between the ends resolves to it. -/
theorem Valid.resolved_of_place (valid : a.Valid) {x : Binary64} {p : Int}
    (nearest : x.nearestInt = .ok p) (low : min a.start a.target ≤ p)
    (high : p ≤ max a.start a.target) (underway : a.underway? now = .ok (some x)) :
    a.resolved now = .ok p := by
  have inRange : Position.clamp p = p := by
    have := valid.start_nonneg
    have := valid.start_le
    have := valid.target_nonneg
    have := valid.target_le
    exact Position.clamp_of_mem (by omega) (by omega)
  have inside : a.between p = p := by
    unfold between
    omega
  rw [Axis.resolved, underway]
  change ((x.nearestInt.map Position.clamp).map a.between).mapError Fault.nonFinite = _
  rw [nearest]
  change Except.ok (a.between (Position.clamp p)) = _
  rw [inRange, inside]

theorem Valid.resolved_of_some (valid : a.Valid) {m : Magnitude} (le : m.quanta ≤ a.way)
    (underway : a.underway? now =
      .ok (some (Binary64.ofInt a.start + .finite (a.distance < 0) m))) :
    a.resolved now = .ok (a.standing m.quanta) := by
  obtain ⟨finite, level⟩ := valid.start_add le
  obtain ⟨low, high⟩ := valid.standing_bounds le
  exact valid.resolved_of_place (Position.nearestInt_of_level finite level) low high underway

/-! ## Covering the way -/

theorem Valid.level_param (valid : a.Valid) (timed : a.kind ≠ .immediate) :
    (Binary64.ofInt a.param).level = (a.param * one : Nat) := by
  obtain ⟨d, eq, -, quanta⟩ := valid.param_eq timed
  rw [eq, level_finite, ← quanta]
  rfl

theorem isNonneg_elapsed (a : Axis) (now : Binary64) : (a.elapsed now).IsNonneg :=
  isNonneg_atLeastZero _

/-- A double is at most the time that has passed if it has no more quanta. -/
theorem le_elapsed_iff {x : Binary64} (number : x ≠ .nan) {n : Nat} (level : x.level = n) :
    x ≤ a.elapsed now ↔ n ≤ (a.elapsed now).level.toNat := by
  have nonneg := (a.isNonneg_elapsed now).level_nonneg
  rw [le_iff_level number (a.isNonneg_elapsed now).ne_nan, level]
  omega

/-- The part of the duration that has passed, rounded. -/
theorem Valid.part_eq (valid : a.Valid) (timed : a.kind ≠ .immediate) {e : Magnitude}
    (early : e.quanta < a.param * one) :
    ∃ p : Magnitude,
      (Binary64.finite false e).over (Binary64.ofInt a.param) = .ok (.finite false p) ∧
        p.quanta = nearestQuanta (e.quanta * one) (a.param * one) ∧ p.quanta ≤ one := by
  obtain ⟨d, eq, pos, quanta⟩ := valid.param_eq timed
  have le_one : nearestQuanta (e.quanta * one) (a.param * one) ≤ one := by
    refine nearestQuanta_le onGrid_one ?_
    rw [Nat.mul_comm one]
    exact Nat.mul_le_mul_right one early.le
  obtain ⟨p, finite, nearest⟩ := ofQuanta_eq_finite false (le_one.trans_lt one_lt_overflowQuanta)
  refine ⟨p, ?_, nearest, by omega⟩
  rw [eq, over_eq_ok pos, ← finite, ← quanta]
  exact congrArg Except.ok (if_neg (by omega))

/-- The distance times a part of at most one, rounded. -/
theorem Valid.distance_mul (valid : a.Valid) {p : Magnitude} (le_one : p.quanta ≤ one) :
    ∃ m : Magnitude,
      Binary64.ofInt a.distance * .finite false p = .finite (a.distance < 0) m ∧
        m.quanta = nearestQuanta (a.way * p.quanta) one ∧ m.quanta ≤ a.way := by
  have small : a.distance.natAbs ≤ wholeLimit := valid.natAbs_distance_le.trans (by decide)
  have le_way : nearestQuanta (a.way * p.quanta) one ≤ a.way :=
    nearestQuanta_le (wholeMagnitude _ small).isOnGrid (Nat.mul_le_mul_left a.way le_one)
  obtain ⟨m, finite, nearest⟩ := ofQuanta_eq_finite (a.distance < 0)
    (le_way.trans_lt (wholeMagnitude _ small).inRange)
  refine ⟨m, ?_, nearest, by omega⟩
  rw [ofInt_of_le small, ← finite]
  change ofQuanta (decide (a.distance < 0) != false) _ _ = _
  rw [Bool.bne_false]
  rfl

theorem Sound.resolved_interpolate (sound : a.Sound) (kind : a.kind = .interpolate)
    (now : Binary64) :
    a.covered now ≤ a.way ∧ a.resolved now = .ok (a.standing (a.covered now)) := by
  have timed : a.kind ≠ .immediate := by simp [kind]
  have number : Binary64.ofInt a.param ≠ .nan := by
    obtain ⟨d, eq, -⟩ := sound.param_eq timed
    rw [eq]
    exact Binary64.noConfusion
  have passed : Binary64.ofInt a.param ≤ a.elapsed now ↔
      a.param * one ≤ (a.elapsed now).level.toNat :=
    le_elapsed_iff number (sound.level_param timed)
  unfold covered
  simp only [kind]
  by_cases ended : a.param * one ≤ (a.elapsed now).level.toNat
  · rw [if_pos ended]
    refine ⟨le_rfl, sound.resolved_of_none ?_⟩
    simp only [underway?, kind, if_pos (passed.2 ended)]
  · rw [if_neg ended]
    -- Less than the duration has passed, so that it is finite.
    have small : a.param ≤ wholeLimit := (sound.timed timed).2.trans (by decide)
    obtain ⟨e, elapsed, early⟩ := (a.isNonneg_elapsed now).lt_of_not_le small (mt passed.1 ended)
    have quanta : (a.elapsed now).level.toNat = e.quanta := by
      rw [elapsed]
      rfl
    obtain ⟨p, divided, part, le_one⟩ := sound.part_eq timed early
    obtain ⟨m, multiplied, product, le_way⟩ := sound.distance_mul le_one
    rw [quanta, ← part, ← product]
    refine ⟨le_way, sound.resolved_of_some le_way ?_⟩
    simp only [underway?, kind, if_neg (mt passed.1 ended)]
    rw [elapsed, divided, ← multiplied]
    rfl

theorem Sound.travel_eq (sound : a.Sound) (now : Binary64) :
    a.travel now = .ok (Binary64.ofInt a.param * a.elapsed now / a.period) := by
  obtain ⟨period, eq, pos⟩ := sound.period_finite.eq_finite_of_pos sound.period_pos
  rw [travel, eq, over_eq_ok pos]

theorem Sound.isNonneg_travel (sound : a.Sound) (timed : a.kind ≠ .immediate) (now : Binary64) :
    (Binary64.ofInt a.param * a.elapsed now / a.period).IsNonneg := by
  obtain ⟨d, param, pos, -⟩ := sound.param_eq timed
  obtain ⟨period, eq, period_pos⟩ := sound.period_finite.eq_finite_of_pos sound.period_pos
  obtain ⟨q, divided, nonneg⟩ := ((a.isNonneg_elapsed now).mul pos).over period_pos
  rw [over_eq_ok period_pos] at divided
  rw [param, eq, Except.ok.inj divided]
  exact nonneg

theorem Sound.resolved_speed (sound : a.Sound) (kind : a.kind = .speed) (now : Binary64) :
    a.covered now ≤ a.way ∧ a.resolved now = .ok (a.standing (a.covered now)) := by
  have nonneg := sound.isNonneg_travel (by simp [kind]) now
  have travel := sound.travel_eq now
  have small : a.distance.natAbs ≤ wholeLimit := sound.natAbs_distance_le.trans (by decide)
  unfold covered
  simp only [kind]
  generalize Binary64.ofInt a.param * a.elapsed now / a.period = x at nonneg travel
  refine ⟨min_le_left _ _, ?_⟩
  by_cases there : Binary64.ofInt a.distance.natAbs ≤ x
  · have reached : a.way ≤ x.level.toNat := by
      have level := nonneg.level_nonneg
      rw [ofInt_natCast small, le_iff_level Binary64.noConfusion nonneg.ne_nan] at there
      have : (a.way : Int) ≤ x.level := there
      omega
    rw [Nat.min_eq_left reached]
    refine sound.resolved_of_none ?_
    simp only [underway?, kind, travel, bind, Except.bind, if_pos there]
    rfl
  · obtain ⟨m, rfl, less⟩ := nonneg.lt_of_not_le small there
    have le_way : m.quanta ≤ a.way := less.le
    have part : min a.way (Binary64.finite false m).level.toNat = m.quanta :=
      Nat.min_eq_right le_way
    rw [part]
    refine sound.resolved_of_some le_way ?_
    simp only [underway?, kind, travel, bind, Except.bind, if_neg there]
    rfl

/-- What a move by speed has covered: all of the way where its product overflows, and otherwise the
quotient of the product and the period, rounded. -/
theorem Sound.covered_speed_cases (sound : a.Sound) (kind : a.kind = .speed) (now : Binary64) :
    (a.covered now = a.way ∧ ¬ (Binary64.ofInt a.param * a.elapsed now).IsFinite) ∨
      ∃ e g : Magnitude, a.elapsed now = .finite false e ∧
        g.quanta = nearestQuanta (a.param * e.quanta * one) one ∧
        a.covered now = min a.way (nearestQuanta (g.quanta * one) a.period.level.toNat) := by
  have small : a.distance.natAbs ≤ wholeLimit := sound.natAbs_distance_le.trans (by decide)
  have way_le : a.way ≤ overflowQuanta := (wholeMagnitude _ small).inRange.le
  obtain ⟨n, param, pos, quanta⟩ := sound.param_eq (by simp [kind])
  obtain ⟨per, period, period_pos⟩ := sound.period_finite.eq_finite_of_pos sound.period_pos
  have nonneg := (a.isNonneg_elapsed now).mul pos
  have covered : a.covered now =
      min a.way (Binary64.finite false n * a.elapsed now / a.period).level.toNat := by
    simp only [Axis.covered, kind, param]
  rw [covered, param, period, toNat_level_finite]
  rcases nonneg.infinite_or_finite with overflows | ⟨g, product⟩
  · left
    rw [overflows, infinite_div, toNat_level_infinite, Nat.min_eq_left way_le]
    exact ⟨rfl, id⟩
  · right
    rcases (a.isNonneg_elapsed now).infinite_or_finite with infinite | ⟨e, elapsed⟩
    · rw [infinite, mul_infinite pos] at product
      cases product
    · have level := level_mul_finite n e
      rw [elapsed] at product
      rw [product] at level
      refine ⟨e, g, elapsed, ?_, ?_⟩
      · rw [quanta_of_level level, quanta, Nat.mul_right_comm]
      · rw [elapsed, product, level_div_finite g period_pos, Int.toNat_natCast,
          min_comm _ overflowQuanta, ← min_assoc, Nat.min_eq_left way_le]

/-- **The position of a sound axis is where it stands with what it has covered of its way.** -/
theorem Sound.resolved_eq (sound : a.Sound) (now : Binary64) :
    a.covered now ≤ a.way ∧ a.resolved now = .ok (a.standing (a.covered now)) := by
  cases kind : a.kind with
  | immediate =>
    have whole : a.covered now = a.way := by simp only [covered, kind]
    rw [whole]
    exact ⟨le_rfl, sound.resolved_of_none (by simp only [underway?, kind])⟩
  | interpolate => exact sound.resolved_interpolate kind now
  | speed => exact sound.resolved_speed kind now

/-! ## As time goes on -/

/-- At a later time no less has passed. -/
theorem level_elapsed_mono (a : Axis) (h : now ≤ later) :
    (a.elapsed now).level ≤ (a.elapsed later).level := by
  obtain ⟨number, number', le⟩ := level_of_le h
  rw [elapsed, elapsed, level_atLeastZero, level_atLeastZero]
  exact level_sub_mono a.commandedAt number number' le

/-- **In a longer time no less of the way is covered.** -/
theorem Sound.covered_mono (sound : a.Sound)
    (h : (a.elapsed now).level ≤ (a.elapsed later).level) : a.covered now ≤ a.covered later := by
  have bound := (sound.resolved_eq now).1
  have passed : (a.elapsed now).level.toNat ≤ (a.elapsed later).level.toNat :=
    Int.toNat_le_toNat h
  cases kind : a.kind with
  | immediate => simp only [covered, kind, le_refl]
  | interpolate =>
    have timed : a.kind ≠ .immediate := by simp [kind]
    have param_pos : 0 < a.param * one := Nat.mul_pos (sound.timed timed).1 Binary64.one_pos
    simp only [covered, kind] at bound ⊢
    generalize (a.elapsed now).level.toNat = e at passed bound
    generalize (a.elapsed later).level.toNat = e' at passed
    by_cases ended : a.param * one ≤ e'
    · rw [if_pos ended]
      exact bound
    · have part := nearestQuanta_mono param_pos param_pos
        (Nat.mul_le_mul_right (a.param * one) (Nat.mul_le_mul_right one passed))
      rw [if_neg ended, if_neg (by omega)]
      exact nearestQuanta_mono Binary64.one_pos Binary64.one_pos
        (Nat.mul_le_mul_right one (Nat.mul_le_mul_left a.way part))
  | speed =>
    obtain ⟨d, param, pos, -⟩ := sound.param_eq (by simp [kind])
    obtain ⟨period, eq, period_pos⟩ := sound.period_finite.eq_finite_of_pos sound.period_pos
    have nonneg := a.isNonneg_elapsed now
    have nonneg' := a.isNonneg_elapsed later
    have product := nonneg.level_mul_mono pos nonneg' h
    have quotient := (nonneg.mul pos).level_div_mono period_pos (nonneg'.mul pos) product
    simp only [covered, kind]
    rw [param, eq]
    exact min_le_min_left a.way (Int.toNat_le_toNat quotient)

/-- **A move approaches its target.** At a later time an axis is no farther from it. -/
theorem Sound.approaches (sound : a.Sound) (h : now ≤ later) :
    ∃ p q, a.resolved now = .ok p ∧ a.resolved later = .ok q ∧
      |a.target - q| ≤ |a.target - p| := by
  obtain ⟨-, resolved⟩ := sound.resolved_eq now
  obtain ⟨bound, resolved'⟩ := sound.resolved_eq later
  have more := sound.covered_mono (a.level_elapsed_mono h)
  exact ⟨_, _, resolved, resolved', sound.standing_approaches more bound⟩

/-- An axis that is at its target stays there. -/
theorem Sound.stays (sound : a.Sound) (h : now ≤ later) (there : a.resolved now = .ok a.target) :
    a.resolved later = .ok a.target := by
  obtain ⟨p, q, resolved, resolved', near⟩ := sound.approaches h
  obtain rfl : a.target = p := Except.ok.inj (there.symm.trans resolved)
  rw [sub_self, abs_zero] at near
  have arrived := abs_nonpos_iff.1 near
  rw [resolved']
  congr 1
  omega

end Axis

end MotionEmulator
