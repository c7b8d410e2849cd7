import MotionEmulator.Axis
import MotionEmulator.Proofs.Binary64.Bounds

/-!
# Sound axes

An axis is `Axis.Sound` when it is `Axis.Valid` and its speed period is finite and positive. The
lemmas here say what one operation does to a sound axis:

* `Sound.resolved`: the position can be resolved at every time, between start and target;
* `Sound.arrival`: the arrival can be computed;
* `Sound.obey_cases`: a move toward a finite amount starts, and the axis is sound again; any
  other amount is refused and the axis stays as it was.

`Axis.Reachable` has the states after any number of orders, refused ones included. The main
statement, `Reachable.valid_and_readable`, carries these facts to all of them.
-/

namespace MotionEmulator

/-- An amount that has a nearest position. -/
def Amount.IsFinite : Amount → Prop
  | .whole _ => True
  | .real x => x.IsFinite

namespace Position

theorem zero_le_top : 0 ≤ top := by
  decide

/-- Exactly the finite amounts have a nearest position, and it is in range. -/
theorem nearest_cases (amount : Amount) :
    (amount.IsFinite ∧ ∃ p, nearest amount = .ok p ∧ 0 ≤ p ∧ p ≤ top) ∨
      (¬ amount.IsFinite ∧ ∃ cause, nearest amount = .error cause) := by
  cases amount with
  | whole n => exact .inl ⟨trivial, _, rfl, zero_le_clamp n, clamp_le_top n⟩
  | real x =>
    cases x with
    | finite s m => exact .inl ⟨trivial, _, rfl, zero_le_clamp _, clamp_le_top _⟩
    | infinite s => exact .inr ⟨id, _, rfl⟩
    | nan => exact .inr ⟨id, _, rfl⟩

end Position

namespace Axis

open Binary64

/-- A valid axis whose speed period is finite and positive. -/
structure Sound (a : Axis) : Prop extends a.Valid where
  period_finite : a.period.IsFinite
  period_pos : 0 < a.period

theorem sound_fresh {period : Binary64} (finite : period.IsFinite) (pos : 0 < period) :
    (fresh period).Sound where
  start_nonneg := le_rfl
  start_le := Position.zero_le_top
  target_nonneg := le_rfl
  target_le := Position.zero_le_top
  immediate _ := ⟨rfl, rfl⟩
  timed h := absurd rfl h
  period_finite := finite
  period_pos := pos

variable {a : Axis}

theorem Valid.natAbs_start_le (valid : a.Valid) : a.start.natAbs ≤ 9999 := by
  have low := valid.start_nonneg
  have high := valid.start_le
  unfold Position.top at high
  omega

theorem Valid.natAbs_distance_le (valid : a.Valid) : a.distance.natAbs ≤ 9999 := by
  obtain ⟨start_nonneg, start_le, target_nonneg, target_le, -, -⟩ := valid
  unfold Position.top at start_le target_le
  unfold distance
  omega

/-- The parameter of a move that takes time, as a double. -/
theorem Valid.param_eq (valid : a.Valid) (timed : a.kind ≠ .immediate) :
    ∃ m, ofInt a.param = .finite false m ∧ 0 < m.quanta ∧ m.quanta = a.param * one := by
  obtain ⟨param_pos, param_le⟩ := valid.timed timed
  have small : a.param ≤ wholeLimit := param_le.trans (by decide)
  exact ⟨_, ofInt_natCast small, Nat.mul_pos param_pos one_pos, rfl⟩

/-! ## Positions -/

/-- The place before rounding can be computed, and it is finite. -/
theorem Sound.underway (sound : a.Sound) (now : Binary64) :
    ∃ place, a.underway? now = .ok place ∧ ∀ x ∈ place, x.IsFinite := by
  have start := within_ofInt (by decide) sound.natAbs_start_le
  have elapsed : (a.elapsed now).IsNonneg := isNonneg_atLeastZero _
  unfold underway?
  cases hk : a.kind with
  | immediate => exact ⟨none, rfl, by simp⟩
  | interpolate =>
    have timed : a.kind ≠ .immediate := by simp [hk]
    have small : a.param ≤ wholeLimit := (sound.timed timed).2.trans (by decide)
    dsimp only
    split
    · exact ⟨none, rfl, by simp⟩
    · next early =>
      -- Less than the duration has passed, so the part is a proper fraction.
      obtain ⟨e, he, lt⟩ := elapsed.lt_of_not_le small early
      obtain ⟨d, hd, pos, quanta⟩ := sound.param_eq timed
      obtain ⟨part, hpart, le_one⟩ := over_within_one (s := false) (t := false) pos
        (a := e) (by omega)
      have covered := (within_ofInt (by decide) sound.natAbs_distance_le).mul le_one (by decide)
      rw [he, hd, hpart]
      refine ⟨_, rfl, ?_⟩
      rintro x ⟨⟩
      exact (start.add covered (by decide)).isFinite
  | speed =>
    have timed : a.kind ≠ .immediate := by simp [hk]
    obtain ⟨d, hd, pos, -⟩ := sound.param_eq timed
    obtain ⟨period, hperiod, period_pos⟩ := sound.period_finite.eq_finite_of_pos sound.period_pos
    obtain ⟨way, hway, nonneg⟩ := (elapsed.mul pos).over period_pos
    have travelled : a.travel now = .ok way := by
      unfold travel
      rw [hd, hperiod, hway]
    simp only [travelled, bind, Except.bind]
    split
    · exact ⟨none, rfl, by simp⟩
    · next early =>
      -- The target is not reached, so an overflow of the travelled distance is excluded.
      have small : a.distance.natAbs ≤ wholeLimit := sound.natAbs_distance_le.trans (by decide)
      obtain ⟨m, rfl, lt⟩ := nonneg.lt_of_not_le small early
      have covered : (Binary64.finite false m).Within 9999 :=
        ⟨false, m, rfl, lt.le.trans (Nat.mul_le_mul_right _ sound.natAbs_distance_le)⟩
      refine ⟨_, rfl, ?_⟩
      rintro x ⟨⟩
      exact (start.add (covered.withSign _) (by decide)).isFinite

theorem between_bounds (a : Axis) (p : Int) :
    min a.start a.target ≤ a.between p ∧ a.between p ≤ max a.start a.target := by
  unfold between
  omega

/-- **A sound axis has a position at every time, between its start and its target.** -/
theorem Sound.resolved (sound : a.Sound) (now : Binary64) :
    ∃ p, a.resolved now = .ok p ∧ min a.start a.target ≤ p ∧ p ≤ max a.start a.target := by
  obtain ⟨place, underway, finite⟩ := sound.underway now
  unfold Axis.resolved
  rw [underway]
  cases place with
  | none => exact ⟨a.target, rfl, min_le_right _ _, le_max_right _ _⟩
  | some x =>
    obtain ⟨-, p, nearest, -⟩ | ⟨not_finite, -⟩ := Position.nearest_cases (.real x)
    · refine ⟨a.between p, ?_, between_bounds a p⟩
      change ((Position.nearest (.real x)).map a.between).mapError Fault.nonFinite = _
      rw [nearest]
      rfl
    · exact absurd (finite x rfl) not_finite

/-- The resolved position of a sound axis is in range. -/
theorem Sound.resolved_mem (sound : a.Sound) {now : Binary64} {p : Int}
    (h : a.resolved now = .ok p) : 0 ≤ p ∧ p ≤ Position.top := by
  obtain ⟨q, hq, low, high⟩ := sound.resolved now
  obtain rfl : q = p := Except.ok.inj (hq.symm.trans h)
  have := sound.start_nonneg
  have := sound.start_le
  have := sound.target_nonneg
  have := sound.target_le
  omega

/-- The arrival of a sound axis can be computed: nothing is divided by zero. -/
theorem Sound.arrival (sound : a.Sound) : ∃ t, a.arrival = .ok t := by
  unfold Axis.arrival
  cases hk : a.kind with
  | immediate => exact ⟨_, rfl⟩
  | interpolate => exact ⟨_, rfl⟩
  | speed =>
    obtain ⟨d, hd, pos, -⟩ := sound.param_eq (by simp [hk])
    rw [hd, over_eq_ok pos]
    exact ⟨_, rfl⟩

/-! ## Orders -/

theorem Sound.started (sound : a.Sound) {origin target : Int} (origin_nonneg : 0 ≤ origin)
    (origin_le : origin ≤ Position.top) (target_nonneg : 0 ≤ target)
    (target_le : target ≤ Position.top) (kind : MoveKind) (param : Int) (now : Binary64) :
    (a.started origin target kind param now).Sound := by
  unfold Axis.started
  split
  · exact {
      start_nonneg := target_nonneg
      start_le := target_le
      target_nonneg := target_nonneg
      target_le := target_le
      immediate := fun _ => ⟨rfl, rfl⟩
      timed := fun timed => absurd rfl timed
      period_finite := sound.period_finite
      period_pos := sound.period_pos }
  · next moves =>
    obtain ⟨timed, positive⟩ := not_or.1 moves
    exact {
      start_nonneg := origin_nonneg
      start_le := origin_le
      target_nonneg := target_nonneg
      target_le := target_le
      immediate := fun still => absurd still timed
      timed := fun _ => ⟨le_min (by omega) (by decide), min_le_right _ _⟩
      period_finite := sound.period_finite
      period_pos := sound.period_pos }

/-- One call for a move. -/
structure Order where
  amount : Amount
  kind : MoveKind
  param : Int
  now : Binary64

def obey (a : Axis) (o : Order) : Outcome Axis Unit :=
  a.moveTo o.amount o.kind o.param o.now

/-- An axis after orders, given one by one. -/
def obeyAll (orders : List Order) (a : Axis) : Axis :=
  orders.foldl (fun a o => (a.obey o).state) a

theorem obeyAll_append (before after : List Order) (a : Axis) :
    a.obeyAll (before ++ after) = (a.obeyAll before).obeyAll after :=
  List.foldl_append

/-- The states of an axis with a speed period. Whoever gives the orders goes on after a refusal. -/
inductive Reachable (period : Binary64) : Axis → Prop
  | fresh : Reachable period (fresh period)
  | obey {a : Axis} (reach : Reachable period a) (o : Order) : Reachable period (a.obey o).state

/-- An order that can be carried out starts its move from the resolved position. -/
theorem obey_eq_done {o : Order} {origin target : Int}
    (nearest : Position.nearest o.amount = .ok target) (resolved : a.resolved o.now = .ok origin) :
    a.obey o = .done (a.started origin target o.kind o.param o.now) () := by
  unfold obey moveTo
  rw [nearest]
  dsimp only
  rw [resolved]

/-- A sound axis starts a move toward a finite amount and refuses any other amount. A refusal
changes nothing. -/
theorem Sound.obey_cases (sound : a.Sound) (o : Order) :
    (o.amount.IsFinite ∧ ∃ b : Axis, b.Sound ∧ a.obey o = .done b ()) ∨
      (¬ o.amount.IsFinite ∧ ∃ cause, a.obey o = .fault a cause) := by
  rcases Position.nearest_cases o.amount with
    ⟨finite, target, nearest, target_nonneg, target_le⟩ | ⟨not_finite, cause, nearest⟩
  · obtain ⟨origin, resolved, -⟩ := sound.resolved o.now
    obtain ⟨origin_nonneg, origin_le⟩ := sound.resolved_mem resolved
    exact .inl ⟨finite, _, sound.started origin_nonneg origin_le target_nonneg target_le
      o.kind o.param o.now, obey_eq_done nearest resolved⟩
  · unfold obey moveTo
    rw [nearest]
    exact .inr ⟨not_finite, _, rfl⟩

theorem Sound.obey (sound : a.Sound) (o : Order) : (a.obey o).state.Sound := by
  rcases sound.obey_cases o with ⟨-, b, sound', eq⟩ | ⟨-, cause, eq⟩
  · rw [eq]
    exact sound'
  · rw [eq]
    exact sound

theorem Reachable.sound {period : Binary64} (finite : period.IsFinite) (pos : 0 < period)
    (reach : Reachable period a) : a.Sound := by
  induction reach with
  | fresh => exact sound_fresh finite pos
  | obey _ o ih => exact ih.obey o

theorem Sound.obeyAll (sound : a.Sound) (orders : List Order) : (a.obeyAll orders).Sound := by
  induction orders generalizing a with
  | nil => exact sound
  | cons o rest ih => exact ih (sound.obey o)

theorem Reachable.obeyAll {period : Binary64} (reach : Reachable period a) (orders : List Order) :
    Reachable period (a.obeyAll orders) := by
  induction orders generalizing a with
  | nil => exact reach
  | cons o rest ih => exact ih (reach.obey o)

/-- **Every reachable axis is valid and can be read.** Whatever orders an axis was given, its ends
are positions, its parameter fits its kind, and it refuses an order exactly if the amount is not
finite, without a change. At every time its position is resolved between start and target, and
its arrival can be computed. -/
theorem Reachable.valid_and_readable {period : Binary64} (finite : period.IsFinite)
    (pos : 0 < period) (reach : Reachable period a) :
    a.Valid ∧
      (∀ o cause, (a.obey o).result = .error cause →
        ¬ o.amount.IsFinite ∧ (a.obey o).state = a) ∧
      (∀ o, o.amount.IsFinite → (a.obey o).result = .ok ()) ∧
      (∀ now, ∃ p, a.resolved now = .ok p ∧ min a.start a.target ≤ p ∧ p ≤ max a.start a.target) ∧
      ∃ t, a.arrival = .ok t := by
  have sound := reach.sound finite pos
  refine ⟨sound.toValid, ?_, ?_, sound.resolved, sound.arrival⟩
  · intro o cause refused
    rcases sound.obey_cases o with ⟨-, b, -, eq⟩ | ⟨not_finite, _, eq⟩
    · rw [eq] at refused
      cases refused
    · refine ⟨not_finite, ?_⟩
      rw [eq]
      rfl
  · intro o amount_finite
    rcases sound.obey_cases o with ⟨-, b, -, eq⟩ | ⟨not_finite, -⟩
    · rw [eq]
      rfl
    · exact absurd amount_finite not_finite

theorem defaultPeriod_isFinite : defaultPeriod.IsFinite := by
  decide +kernel

theorem defaultPeriod_pos : 0 < defaultPeriod := by
  decide +kernel

/-- A speed beyond all bounds and a refused order at an infinite time. -/
theorem valid_and_readable_extremes :
    defaultPeriod.IsFinite ∧ 0 < defaultPeriod ∧
      (((fresh defaultPeriod).obey ⟨.whole 5000, .speed, 10 ^ 20, 0⟩).state.obey
        ⟨.real .nan, .immediate, 0, .infinite false⟩).state.Valid := by
  have reach : Reachable defaultPeriod
      (((fresh defaultPeriod).obey ⟨.whole 5000, .speed, 10 ^ 20, 0⟩).state.obey
        ⟨.real .nan, .immediate, 0, .infinite false⟩).state :=
    .obey (.obey .fresh _) _
  obtain ⟨valid, -⟩ := Reachable.valid_and_readable defaultPeriod_isFinite defaultPeriod_pos reach
  exact ⟨defaultPeriod_isFinite, defaultPeriod_pos, valid⟩

end Axis

end MotionEmulator
