import Mathlib.Tactic.Linarith
import MotionEmulator.Proofs.Axis.Course

/-!
# Arriving

An axis is idle from its arrival on. The arrival is the moment of the command and a duration, added
up; whether the target is reached is told by the time that has passed since the command. Each of the
two is rounded on its own, and at late times the doubles lie far apart.

* `Axis.Timely` has the states after orders at finite times. In all of them a move approaches its
  target and stays there (`Sound.stays`), so that only the position at the arrival is in question.
* By the arrival as much time has passed as the move takes, but for three halves of a step of the
  clock (`elapsed_arrival`). `Axis.Unhurried` says that the axis covers at most an eighth of a
  position in one step. With what the other roundings lose, at most three eighths of a position are
  missing at the arrival (`Sound.covered_interpolate`, `Sound.covered_speed`), and what stands there
  is rounded to the target (`Valid.standing_near`).

`Timely.idle_at_target` puts the two together. A move that is hurried can be idle at its start, as
`idle_short_of_target` shows.
-/

namespace MotionEmulator

open Binary64

/-- A place that is three eighths or less away from a position rounds to it. -/
theorem Position.ofQuanta_near {n t : Nat} (small : t ≤ 9999)
    (low : 8 * (t * one) ≤ 8 * n + 3 * one) (high : 8 * n ≤ 8 * (t * one) + 3 * one) :
    Position.ofQuanta n = t := by
  obtain ⟨below, above, grid, grid', eq, eq'⟩ := exists_three_eighths_apart small
  have ge : below ≤ nearestQuanta n 1 := le_nearestQuanta Nat.one_pos grid (by omega)
  have le : nearestQuanta n 1 ≤ above := nearestQuanta_le grid' (by omega)
  have pos := Binary64.one_pos
  rw [ofQuanta]
  congr 1
  apply nearestQuotient_eq <;> rw [Nat.mul_assoc 2] <;> omega

namespace Axis

variable {a : Axis} {now : Binary64}

/-- An axis that is short of its target by less than half a position stands at it. -/
theorem Valid.standing_near (valid : a.Valid) {part : Nat} (le : part ≤ a.way)
    (near : 8 * a.way ≤ 8 * part + 3 * one) : a.standing part = a.target := by
  have low := valid.target_nonneg
  have high : a.target ≤ 9999 := valid.target_le
  have there := valid.place_way
  have close : Position.ofQuanta (a.place part) = a.target.toNat := by
    refine Position.ofQuanta_near (by omega) ?_ ?_ <;> rw [← there] <;> unfold place
    · split <;> omega
    · split
      · next down =>
        have room := valid.way_le_start down
        omega
      · omega
  rw [standing, close]
  omega

/-! ## The clock -/

/-- The time that a move takes. -/
def duration (a : Axis) : Binary64 :=
  match a.kind with
  | .immediate => 0
  | .interpolate => Binary64.ofInt a.param
  | .speed => Binary64.ofInt a.distance.natAbs * a.period / Binary64.ofInt a.param

/-- One step of the clock, in quanta, around the command and a later time. -/
def clockStep (a : Axis) (time : Binary64) : Nat :=
  spacing (max a.commandedAt.level.natAbs time.level.natAbs)

theorem Sound.arrival_eq (sound : a.Sound) (timed : a.kind ≠ .immediate) :
    a.arrival = .ok (a.commandedAt + a.duration) := by
  obtain ⟨d, param, pos, -⟩ := sound.param_eq timed
  unfold Axis.arrival duration
  cases kind : a.kind with
  | immediate => exact absurd kind timed
  | interpolate => rfl
  | speed =>
    simp only
    rw [param, over_eq_ok pos]
    rfl

/-- By the arrival as much time has passed as the move takes, up to three halves of a step of the
clock. -/
theorem elapsed_arrival {d : Magnitude} (begun : a.commandedAt.IsFinite)
    (arrived : (a.commandedAt + .finite false d).IsFinite) :
    a.elapsed (a.commandedAt + .finite false d) = .infinite false ∨
      ∃ e : Magnitude, a.elapsed (a.commandedAt + .finite false d) = .finite false e ∧
        2 * d.quanta ≤ 2 * e.quanta + 3 * a.clockStep (a.commandedAt + .finite false d) := by
  have sum : (a.commandedAt + .finite false d).level =
      (ofSigned (a.commandedAt.level + d.quanta)).level := level_add begun trivial
  have inRange := natAbs_level_lt arrived
  rw [sum] at inRange
  obtain ⟨later, coarser⟩ := ofSigned_near inRange
  rw [← sum] at later coarser
  generalize a.commandedAt + .finite false d = arrival at arrived later coarser
  refine (a.isNonneg_elapsed arrival).infinite_or_finite.imp_right ?_
  rintro ⟨e, elapsed⟩
  refine ⟨e, elapsed, ?_⟩
  have passed : (e.quanta : Int) =
      max 0 (ofSigned (arrival.level - a.commandedAt.level)).level := by
    have level := congrArg level elapsed
    rw [Axis.elapsed, level_atLeastZero] at level
    rw [← level_sub arrived begun, level]
    rfl
  have step : spacing arrival.level.natAbs ≤ a.clockStep arrival :=
    spacing_le_spacing (le_max_right _ _)
  rcases Int.le_total (arrival.level - a.commandedAt.level) 0 with early | late
  · omega
  · -- The difference is at most twice as far from zero as the farther of the two ends.
    have nonneg := level_ofSigned_nonneg late
    have overflow := e.inRange
    obtain ⟨near, -⟩ := ofSigned_near (n := arrival.level - a.commandedAt.level) (by omega)
    have double : spacing (arrival.level - a.commandedAt.level).natAbs ≤
        2 * a.clockStep arrival :=
      (spacing_le_spacing (by omega)).trans (spacing_two_mul_le _)
    omega

/-! ## Moves that are not hurried -/

/-- How fast an axis moves: a number of positions, and the quanta of time in which it covers
them. -/
def pace (a : Axis) : Nat × Nat :=
  match a.kind with
  | .immediate => (0, 0)
  | .interpolate => (a.distance.natAbs, a.param * one)
  | .speed => (a.param, a.period.level.toNat)

/-- In one step of the clock around a move that ends at a time, the axis covers at most an eighth of
a position. -/
def Unhurried (a : Axis) (time : Binary64) : Prop :=
  8 * a.pace.1 * a.clockStep time ≤ a.pace.2

instance (a : Axis) (time : Binary64) : Decidable (a.Unhurried time) :=
  inferInstanceAs (Decidable (_ ≤ _))

/-! ## What is lost in rounding -/

/-- What the roundings of a move by time lose. Of `d` units of time, `e` quanta have passed, and `p`
is their part; `w` is the number of positions. -/
theorem part_near {w d e p step : Nat} (pos : 0 < d) (small : w ≤ 9999)
    (passed : 2 * (d * one) ≤ 2 * e + 3 * step) (unhurried : 8 * w * step ≤ d * one)
    (part : wholeLimit * e ≤ wholeLimit * (p * d) + d * one) :
    8 * (w * one) ≤ 8 * (w * p) + 3 * one := by
  have limit : wholeLimit = 9007199254740992 := rfl
  rw [limit] at part
  refine Nat.le_of_mul_le_mul_right ?_ pos
  have passed := Nat.mul_le_mul_left w passed
  have part := Nat.mul_le_mul_left w part
  have small := Nat.mul_le_mul_right (d * one) small
  have nonneg := Nat.zero_le (d * one)
  linarith

/-- What the roundings of a move by speed lose. In each `per` quanta of time it covers `n` of its
`w` positions; `d` is its duration, `e` the time that has passed, and `g` and `x` are the products
from which the duration and the covered way are computed. -/
theorem travel_near {w n d e g x per step : Nat} (small : w ≤ 9999) (some : 0 < step)
    (product : wholeLimit * (w * per) ≤ wholeLimit * g + w * per)
    (quotient : wholeLimit * g ≤ wholeLimit * (d * n) + max g (twoPow 52 * n))
    (passed : 2 * d ≤ 2 * e + 3 * step) (unhurried : 8 * n * step ≤ per)
    (covered : wholeLimit * (n * e) ≤ wholeLimit * x + n * e) :
    8 * (w * per) ≤ 8 * x + 3 * per := by
  have limit : wholeLimit = 9007199254740992 := rfl
  have half : twoPow 52 = 4503599627370496 := rfl
  have passed := Nat.mul_le_mul_left n passed
  have small := Nat.mul_le_mul_right per small
  have some : n * 1 ≤ n * step := Nat.mul_le_mul_left n some
  rw [limit] at product quotient covered
  rw [half] at quotient
  rcases le_total g (4503599627370496 * n) with fine | coarse
  · rw [max_eq_right fine] at quotient
    linarith
  · rw [max_eq_left coarse] at quotient
    linarith

/-- A part of a duration loses at most one part in `2 ^ 53` of one. -/
theorem le_nearestQuanta_part {d e : Nat} (pos : 0 < d) (early : e ≤ d * one) :
    wholeLimit * e ≤ wholeLimit * (nearestQuanta (e * one) (d * one) * d) + d * one := by
  have fine : twoPow 52 ≤ one := by
    unfold one
    exact (twoPow_lt (by decide)).le
  have lost : max e (twoPow 52 * d) ≤ d * one := by
    refine max_le early ?_
    rw [Nat.mul_comm d]
    exact Nat.mul_le_mul_right d fine
  exact (le_nearestQuanta_ratio e pos).trans (Nat.add_le_add_left lost _)

/-- A quotient that is at most three eighths short of a position is rounded to one that is. -/
theorem nearestQuanta_short {num den w : Nat} (pos : 0 < den) (small : w ≤ 9999)
    (short : 8 * (w * one * den) ≤ 8 * num + 3 * (one * den)) :
    8 * (w * one) ≤ 8 * nearestQuanta num den + 3 * one := by
  obtain ⟨below, -, grid, -, eq, -⟩ := exists_three_eighths_apart small
  have low : below * den ≤ num := by
    have scaled := congrArg (fun n => n * den) eq
    simp only [Nat.sub_mul, Nat.mul_assoc] at scaled
    rw [Nat.mul_assoc] at short
    omega
  have above := le_nearestQuanta pos grid low
  -- The size of the unit does not matter.
  generalize one = unit at eq ⊢
  omega

theorem le_min_of_short {way covered : Nat} (short : 8 * way ≤ 8 * covered + 3 * one) :
    8 * way ≤ 8 * min way covered + 3 * one := by
  rcases Nat.le_total way covered with there | early
  · rw [Nat.min_eq_left there]
    exact Nat.le_add_right _ _
  · rw [Nat.min_eq_right early]
    exact short

/-! ## At the arrival -/

/-- At its arrival a move by time that is not hurried misses at most three eighths of a position. -/
theorem Sound.covered_interpolate (sound : a.Sound) (kind : a.kind = .interpolate)
    (begun : a.commandedAt.IsFinite) (arrived : (a.commandedAt + a.duration).IsFinite)
    (unhurried : a.Unhurried (a.commandedAt + a.duration)) :
    8 * a.way ≤ 8 * a.covered (a.commandedAt + a.duration) + 3 * one := by
  have timed : a.kind ≠ .immediate := by simp [kind]
  obtain ⟨d, param, pos, quanta⟩ := sound.param_eq timed
  have lasts : a.duration = .finite false d := by simp only [duration, kind, param]
  rw [lasts] at arrived unhurried ⊢
  have passed := elapsed_arrival begun arrived
  generalize a.commandedAt + .finite false d = arrival at passed unhurried ⊢
  simp only [Unhurried, pace, kind] at unhurried
  simp only [covered, kind]
  split
  · omega
  · next early =>
    rcases passed with infinite | ⟨e, elapsed, near⟩
    · have overflow : (a.elapsed arrival).level.toNat = overflowQuanta := by
        rw [infinite, toNat_level_infinite]
      have := d.inRange
      omega
    · have passed : (a.elapsed arrival).level.toNat = e.quanta := by
        rw [elapsed, toNat_level_finite]
      rw [passed] at early ⊢
      rw [quanta] at near
      have part := le_nearestQuanta_part (sound.timed timed).1 (Nat.le_of_not_le early)
      have missing := part_near (sound.timed timed).1 sound.natAbs_distance_le near unhurried part
      refine nearestQuanta_short Binary64.one_pos sound.natAbs_distance_le ?_
      have scaled := Nat.mul_le_mul_right one missing
      unfold way
      linarith

/-- The duration of a move by speed, where it does not overflow. -/
theorem Sound.duration_speed (sound : a.Sound) (kind : a.kind = .speed)
    (finite : a.duration.IsFinite) :
    ∃ g d : Magnitude, a.duration = .finite false d ∧
      g.quanta = nearestQuanta (a.distance.natAbs * a.period.level.toNat * one) one ∧
      d.quanta = nearestQuanta (g.quanta * one) (a.param * one) := by
  obtain ⟨n, param, pos, quanta⟩ := sound.param_eq (by simp [kind])
  obtain ⟨per, period, period_pos⟩ := sound.period_finite.eq_finite_of_pos sound.period_pos
  have small : a.distance.natAbs ≤ wholeLimit := sound.natAbs_distance_le.trans (by decide)
  have lasts : a.duration =
      .finite false (wholeMagnitude _ small) * .finite false per / .finite false n := by
    simp only [duration, kind, period, param, ofInt_natCast small]
  have product := level_mul_finite (wholeMagnitude _ small) per
  have nonneg : (Binary64.finite false (wholeMagnitude _ small) * .finite false per).IsNonneg :=
    isNonneg_ofQuanta _ _
  rw [lasts] at finite ⊢
  generalize Binary64.finite false (wholeMagnitude _ small) * .finite false per = y
    at finite product nonneg ⊢
  rcases nonneg.infinite_or_finite with rfl | ⟨g, rfl⟩
  · exact finite.elim
  · have quotient := level_div_finite g pos
    obtain ⟨q, divided, sign⟩ := nonneg.over pos
    rw [over_eq_ok pos, Except.ok.injEq] at divided
    rw [divided] at finite quotient ⊢
    rcases sign.infinite_or_finite with rfl | ⟨d, rfl⟩
    · exact finite.elim
    · rw [quanta] at quotient
      refine ⟨g, d, rfl, ?_, quanta_of_level quotient⟩
      rw [quanta_of_level product, period]
      congr 1
      exact Nat.mul_right_comm _ _ _

/-- At its arrival a move by speed that is not hurried misses at most three eighths of a
position. -/
theorem Sound.covered_speed (sound : a.Sound) (kind : a.kind = .speed)
    (begun : a.commandedAt.IsFinite) (arrived : (a.commandedAt + a.duration).IsFinite)
    (unhurried : a.Unhurried (a.commandedAt + a.duration)) :
    8 * a.way ≤ 8 * a.covered (a.commandedAt + a.duration) + 3 * one := by
  have timed : a.kind ≠ .immediate := by simp [kind]
  have small := sound.natAbs_distance_le
  obtain ⟨per, period, period_pos⟩ := sound.period_finite.eq_finite_of_pos sound.period_pos
  obtain ⟨g, d, lasts, product, quotient⟩ := sound.duration_speed kind arrived.of_add
  have perQuanta : a.period.level.toNat = per.quanta := by
    rw [period, toNat_level_finite]
  rw [lasts] at arrived unhurried ⊢
  rw [perQuanta] at product
  have passed := elapsed_arrival begun arrived
  generalize a.commandedAt + .finite false d = arrival at passed unhurried ⊢
  simp only [Unhurried, pace, kind, perQuanta] at unhurried
  rcases sound.covered_speed_cases kind arrival with ⟨whole, -⟩ | ⟨e, x, elapsed, moved, covered⟩
  · rw [whole]
    exact Nat.le_add_right _ _
  · rcases passed with infinite | ⟨e', elapsed', near⟩
    · rw [elapsed] at infinite
      cases infinite
    · rw [elapsed] at elapsed'
      cases elapsed'
      have param_pos := (sound.timed timed).1
      have product_near := le_nearestQuanta_whole (a.distance.natAbs * per.quanta) Binary64.one_pos
      have quotient_near := le_nearestQuanta_ratio g.quanta param_pos
      have covered_near := le_nearestQuanta_whole (a.param * e.quanta) Binary64.one_pos
      rw [← product] at product_near
      rw [← quotient] at quotient_near
      rw [← moved] at covered_near
      have missing := travel_near small (spacing_pos _) product_near quotient_near near unhurried
        covered_near
      have scaled := Nat.mul_le_mul_right one missing
      have short : 8 * a.way ≤ 8 * nearestQuanta (x.quanta * one) per.quanta + 3 * one :=
        nearestQuanta_short period_pos small (by linarith)
      rw [covered, perQuanta]
      exact le_min_of_short short

/-! ## Orders at finite times -/

/-- The states of an axis with a speed period that is given orders at finite times only. -/
inductive Timely (period : Binary64) : Axis → Prop
  | fresh : Timely period (fresh period)
  | obey {a : Axis} (timely : Timely period a) (o : Order) (finite : o.now.IsFinite) :
      Timely period (a.obey o).state

variable {period : Binary64}

/-- An axis after its first order. -/
def afterOrder (o : Order) : Axis :=
  ((fresh defaultPeriod).obey o).state

theorem timely_afterOrder {o : Order} (finite : o.now.IsFinite) :
    Timely defaultPeriod (afterOrder o) :=
  .obey .fresh o finite

theorem Timely.reachable (timely : Timely period a) : Reachable period a := by
  induction timely with
  | fresh => exact .fresh
  | obey _ o _ ih => exact .obey ih o

/-- The command of an axis is the order it was given, or the one before where that was refused. -/
theorem commandedAt_obey (a : Axis) (o : Order) :
    (a.obey o).state.commandedAt = o.now ∨ (a.obey o).state = a := by
  unfold Axis.obey moveTo
  split
  · exact .inr rfl
  · split
    · exact .inr rfl
    · left
      change (a.started _ _ o.kind o.param o.now).commandedAt = o.now
      unfold Axis.started
      split <;> rfl

theorem Timely.begun (timely : Timely period a) : a.commandedAt.IsFinite := by
  induction timely with
  | fresh =>
    change (0 : Binary64).IsFinite
    rw [zero_eq]
    exact trivial
  | @obey a _ o finite ih =>
    rcases a.commandedAt_obey o with taken | refused
    · rw [taken]
      exact finite
    · rw [refused]
      exact ih

theorem state_idle_iff {arrival : Binary64} (arrives : a.arrival = .ok arrival) :
    a.state now = .ok .idle ↔ ¬ now < arrival := by
  have state : a.state now = .ok (if now < arrival then .moving else .idle) := by
    rw [Axis.state, isMoving, arrives]
    by_cases early : now < arrival <;> simp [Except.map, early]
  rw [state]
  split <;> simp_all

theorem Sound.isNonneg_duration (sound : a.Sound) : a.duration.IsNonneg := by
  unfold duration
  cases kind : a.kind with
  | immediate =>
    change (0 : Binary64).IsNonneg
    rw [zero_eq]
    exact rfl
  | interpolate =>
    obtain ⟨n, param, -⟩ := sound.param_eq (by simp [kind])
    simp only [param]
    exact rfl
  | speed =>
    obtain ⟨n, param, pos, -⟩ := sound.param_eq (by simp [kind])
    obtain ⟨per, period, -⟩ := sound.period_finite.eq_finite_of_pos sound.period_pos
    have small : a.distance.natAbs ≤ wholeLimit := sound.natAbs_distance_le.trans (by decide)
    have product : (Binary64.ofInt a.distance.natAbs * a.period).IsNonneg := by
      rw [ofInt_natCast small, period]
      exact isNonneg_ofQuanta _ _
    obtain ⟨q, divided, nonneg⟩ := product.over pos
    rw [over_eq_ok pos, Except.ok.injEq] at divided
    simp only [param, divided]
    exact nonneg

/-- A move that is begun at a finite time has its arrival at a time, if perhaps an infinite one. -/
theorem Sound.arrival_isTime (sound : a.Sound) (begun : a.commandedAt.IsFinite)
    {arrival : Binary64} (arrives : a.arrival = .ok arrival) : arrival.IsTime := by
  by_cases timed : a.kind = .immediate
  · simp only [Axis.arrival, timed, Except.ok.injEq] at arrives
    rw [← arrives]
    exact begun.isTime
  · rw [sound.arrival_eq timed, Except.ok.injEq] at arrives
    rw [← arrives]
    exact begun.add_isTime sound.isNonneg_duration

/-- An axis that is idle at some finite time has arrived by then. -/
theorem Sound.arrived (sound : a.Sound) (begun : a.commandedAt.IsFinite) (finite : now.IsFinite)
    (idle : a.state now = .ok .idle) :
    ∃ arrival, a.arrival = .ok arrival ∧ arrival.IsFinite ∧ arrival ≤ now := by
  obtain ⟨arrival, arrives⟩ := sound.arrival
  have time := sound.arrival_isTime begun arrives
  have late := (state_idle_iff arrives).1 idle
  rw [lt_iff_level finite.isTime.ne_nan time.ne_nan] at late
  refine ⟨arrival, arrives, ?_, ?_⟩
  · cases arrival with
    | finite s m => exact trivial
    | nan => exact time
    | infinite s =>
      -- Infinity is later than every finite time.
      obtain rfl : s = false := time
      have below := natAbs_level_lt finite
      rw [level_infinite] at late
      omega
  · rw [le_iff_level time.ne_nan finite.isTime.ne_nan]
    omega

/-- **A move that is not hurried is at its target at its arrival.** -/
theorem Sound.resolved_arrival (sound : a.Sound) (begun : a.commandedAt.IsFinite)
    {arrival : Binary64} (arrives : a.arrival = .ok arrival) (finite : arrival.IsFinite)
    (unhurried : a.Unhurried arrival) : a.resolved arrival = .ok a.target := by
  obtain ⟨le_way, resolved⟩ := sound.resolved_eq arrival
  suffices near : 8 * a.way ≤ 8 * a.covered arrival + 3 * one by
    rw [resolved, sound.standing_near le_way near]
  cases kind : a.kind with
  | immediate =>
    have whole : a.covered arrival = a.way := by simp only [covered, kind]
    rw [whole]
    exact Nat.le_add_right _ _
  | interpolate =>
    rw [sound.arrival_eq (by simp [kind]), Except.ok.injEq] at arrives
    rw [← arrives] at finite unhurried ⊢
    exact sound.covered_interpolate kind begun finite unhurried
  | speed =>
    rw [sound.arrival_eq (by simp [kind]), Except.ok.injEq] at arrives
    rw [← arrives] at finite unhurried ⊢
    exact sound.covered_speed kind begun finite unhurried

/-- At all finite times at which an axis is idle it is at its target. -/
def RestsAtTarget (a : Axis) : Prop :=
  ∀ now : Binary64, now.IsFinite → a.state now = .ok .idle → a.resolved now = .ok a.target

/-- **An idle axis is at its target if it is there at its arrival.** After any orders at finite
times an axis rests at its target just if it is there when it arrives, at a finite time if ever.
That is so if its move is not hurried. -/
theorem Timely.idle_at_target (finite : period.IsFinite) (pos : 0 < period)
    (timely : Timely period a) :
    (a.RestsAtTarget ↔
        ∀ arrival : Binary64, a.arrival = .ok arrival → arrival.IsFinite →
          a.resolved arrival = .ok a.target) ∧
      ((∀ arrival : Binary64, a.arrival = .ok arrival → arrival.IsFinite → a.Unhurried arrival) →
        a.RestsAtTarget) := by
  have sound := timely.reachable.sound finite pos
  have begun := timely.begun
  have rests : (∀ arrival : Binary64, a.arrival = .ok arrival → arrival.IsFinite →
      a.resolved arrival = .ok a.target) → a.RestsAtTarget := by
    intro there now now_finite idle
    obtain ⟨arrival, arrives, arrival_finite, le⟩ := sound.arrived begun now_finite idle
    exact sound.stays le (there arrival arrives arrival_finite)
  refine ⟨⟨?_, rests⟩, fun unhurried => rests ?_⟩
  · intro at_target arrival arrives arrival_finite
    apply at_target arrival arrival_finite
    rw [state_idle_iff arrives]
    have number := arrival_finite.isTime.ne_nan
    rw [lt_iff_level number number]
    exact lt_irrefl _
  · intro arrival arrives arrival_finite
    apply sound.resolved_arrival begun arrives arrival_finite
    exact unhurried arrival arrives arrival_finite

/-- A stroke at a common speed, begun after one second. -/
theorem idle_at_target_after_stroke :
    defaultPeriod.IsFinite ∧ 0 < defaultPeriod ∧
      Timely defaultPeriod (afterOrder ⟨.whole 5000, .speed, 250, 1000⟩) ∧
      (afterOrder ⟨.whole 5000, .speed, 250, 1000⟩).arrival = .ok 3000 ∧
      (afterOrder ⟨.whole 5000, .speed, 250, 1000⟩).Unhurried 3000 ∧
      (afterOrder ⟨.whole 5000, .speed, 250, 1000⟩).RestsAtTarget := by
  have timely : Timely defaultPeriod (afterOrder ⟨.whole 5000, .speed, 250, 1000⟩) :=
    timely_afterOrder (by decide +kernel)
  have arrives : (afterOrder ⟨.whole 5000, .speed, 250, 1000⟩).arrival = .ok 3000 := by
    decide +kernel
  have unhurried : (afterOrder ⟨.whole 5000, .speed, 250, 1000⟩).Unhurried 3000 := by
    decide +kernel
  obtain ⟨-, idle⟩ := Timely.idle_at_target defaultPeriod_isFinite defaultPeriod_pos timely
  refine ⟨defaultPeriod_isFinite, defaultPeriod_pos, timely, arrives, unhurried, idle ?_⟩
  intro arrival arrives' _
  obtain rfl : 3000 = arrival := Except.ok.inj (arrives.symm.trans arrives')
  exact unhurried

/-- Where the doubles are two milliseconds apart, a move of one millisecond has arrived as soon as
it is begun, and has not moved at all. -/
theorem idle_short_of_target :
    Timely defaultPeriod (afterOrder ⟨.whole 9999, .interpolate, 1, 9007199254740992⟩) ∧
      (afterOrder ⟨.whole 9999, .interpolate, 1, 9007199254740992⟩).state 9007199254740992 =
        .ok .idle ∧
      (afterOrder ⟨.whole 9999, .interpolate, 1, 9007199254740992⟩).resolved 9007199254740992 =
        .ok 0 ∧
      ¬ (afterOrder ⟨.whole 9999, .interpolate, 1, 9007199254740992⟩).RestsAtTarget := by
  have finite : (9007199254740992 : Binary64).IsFinite := by decide +kernel
  have idle : (afterOrder ⟨.whole 9999, .interpolate, 1, 9007199254740992⟩).state
      9007199254740992 = .ok .idle := by
    decide +kernel
  have still : (afterOrder ⟨.whole 9999, .interpolate, 1, 9007199254740992⟩).resolved
      9007199254740992 = .ok 0 := by
    decide +kernel
  have target : (afterOrder ⟨.whole 9999, .interpolate, 1, 9007199254740992⟩).target = 9999 := by
    decide +kernel
  refine ⟨timely_afterOrder finite, idle, still, ?_⟩
  intro rests
  have there := rests 9007199254740992 finite idle
  rw [still, target] at there
  cases there

end Axis

end MotionEmulator
