import MotionEmulator.Proofs.Axis.Course

/-!
# From start to target, move after move

No time has passed at the moment of a command, and none before it, whatever times these are
(`elapsed_commandedAt`, `elapsed_of_le`). So long a move that takes time stands at its start
(`Sound.resolved_start`). It is at its target as soon as its duration has passed
(`Sound.resolved_of_duration`) or its travel is the whole distance (`Sound.resolved_of_travel`), and
in between it only comes nearer. `Reachable.monotone_trajectory` has all of this for one move.

The second half is about moves that take over from each other. An order that `Travels` leaves the
axis where it stands at that moment and makes this the start (`Sound.carriesOver`). In a run of such
orders every command is a joint of this kind: `Joined`, which `Reachable.moves_joined` proves.
-/

namespace MotionEmulator.Axis

open Binary64

variable {a : Axis} {now : Binary64}

/-! ## Before a move -/

/-- At the moment of the command no time has passed, infinite moments included. -/
theorem elapsed_commandedAt (a : Axis) : a.elapsed a.commandedAt = 0 := by
  apply atLeastZero_of_level_nonpos
  rw [level_sub_self]

theorem elapsed_of_le (early : now ≤ a.commandedAt) : a.elapsed now = 0 := by
  obtain ⟨number, number', le⟩ := level_of_le early
  have less := level_sub_mono a.commandedAt number number' le
  rw [level_sub_self] at less
  apply atLeastZero_of_level_nonpos
  omega

/-- In no time nothing of the way is covered, unless it is covered at once. -/
theorem Sound.covered_zero (sound : a.Sound) (timed : a.kind ≠ .immediate)
    (none : a.elapsed now = 0) : a.covered now = 0 := by
  cases kind : a.kind with
  | immediate => exact absurd kind timed
  | interpolate =>
    have pos : 0 < a.param * one := Nat.mul_pos (sound.timed timed).1 Binary64.one_pos
    simp only [covered, kind, none, level_zero, Int.toNat_zero]
    rw [if_neg (by omega), Nat.zero_mul, nearestQuanta_zero, Nat.mul_zero, nearestQuanta_zero]
  | speed =>
    obtain ⟨d, param, -⟩ := sound.param_eq timed
    obtain ⟨period, eq, period_pos⟩ := sound.period_finite.eq_finite_of_pos sound.period_pos
    simp only [covered, kind, none]
    rw [param, eq, finite_mul_zero, zero_div_finite period_pos, level_zero]
    exact Nat.min_zero _

/-- **A move that takes time stands at its start as long as no time has passed.** -/
theorem Sound.resolved_start (sound : a.Sound) (timed : a.kind ≠ .immediate)
    (none : a.elapsed now = 0) : a.resolved now = .ok a.start := by
  obtain ⟨-, resolved⟩ := sound.resolved_eq now
  rw [resolved, sound.covered_zero timed none, sound.standing_zero]

/-! ## After a move -/

/-- A move by time is at its target once the duration has passed. -/
theorem Sound.resolved_of_duration (sound : a.Sound) (kind : a.kind = .interpolate)
    (passed : Binary64.ofInt a.param ≤ now - a.commandedAt) : a.resolved now = .ok a.target := by
  have ended : Binary64.ofInt a.param ≤ a.elapsed now := le_atLeastZero passed
  rw [← sound.standing_way]
  apply sound.resolved_of_none
  simp only [underway?, kind, if_pos ended]

/-- What is travelled in a time that lies before the command is nothing or less. -/
theorem Sound.level_travel_nonpos (sound : a.Sound) (timed : a.kind ≠ .immediate) {x : Binary64}
    (early : ¬ 0 < x) : (Binary64.ofInt a.param * x / a.period).level ≤ 0 := by
  obtain ⟨d, param, pos, -⟩ := sound.param_eq timed
  obtain ⟨period, eq, period_pos⟩ := sound.period_finite.eq_finite_of_pos sound.period_pos
  rw [param, eq]
  exact level_mul_div_nonpos pos period_pos early

/-- A move by speed is at its target once its travel is the whole distance. The time may lie before
the command, where only a move without distance has travelled enough. -/
theorem Sound.resolved_of_travel (sound : a.Sound) (kind : a.kind = .speed)
    (travelled : Binary64.ofInt a.distance.natAbs ≤
      Binary64.ofInt a.param * (now - a.commandedAt) / a.period) :
    a.resolved now = .ok a.target := by
  have timed : a.kind ≠ .immediate := by simp [kind]
  by_cases late : 0 < now - a.commandedAt
  · have elapsed : a.elapsed now = now - a.commandedAt := if_pos late
    have travel := sound.travel_eq now
    rw [elapsed] at travel
    rw [← sound.standing_way]
    apply sound.resolved_of_none
    simp only [underway?, kind, travel, bind, Except.bind, if_pos travelled]
    rfl
  · have none : a.elapsed now = 0 := if_neg late
    have small : a.distance.natAbs ≤ wholeLimit := sound.natAbs_distance_le.trans (by decide)
    obtain ⟨-, -, le⟩ := level_of_le travelled
    have nothing := sound.level_travel_nonpos timed late
    have way : (Binary64.ofInt a.distance.natAbs).level = (a.distance.natAbs * one : Nat) := by
      rw [ofInt_natCast small]
      rfl
    have still : a.distance.natAbs = 0 := by
      by_contra distant
      have := Nat.mul_pos (Nat.pos_of_ne_zero distant) Binary64.one_pos
      omega
    have same : a.start = a.target := by
      unfold distance at still
      omega
    rw [sound.resolved_start timed none, same]

/-! ## One move -/

variable {period : Binary64}

/-- **A move goes from its start to its target and never back.** At all times its position lies
between the two, and at a later time no farther from the target. Up to the command a move that takes
time stands at its start; a move by time is at its target as soon as the time that has passed since
the command is its duration, and a move by speed as soon as what it travels in that time is its
distance. -/
theorem Reachable.monotone_trajectory (finite : period.IsFinite) (pos : 0 < period)
    (reach : Reachable period a) :
    (∀ now, ∃ p, a.resolved now = .ok p ∧ min a.start a.target ≤ p ∧ p ≤ max a.start a.target) ∧
      (∀ now later : Binary64, now ≤ later → ∃ p q, a.resolved now = .ok p ∧
        a.resolved later = .ok q ∧ |a.target - q| ≤ |a.target - p|) ∧
      (a.kind ≠ .immediate → ∀ now, now ≤ a.commandedAt → a.resolved now = .ok a.start) ∧
      (a.kind = .interpolate → ∀ now, Binary64.ofInt a.param ≤ now - a.commandedAt →
        a.resolved now = .ok a.target) ∧
      (a.kind = .speed → ∀ now, Binary64.ofInt a.distance.natAbs ≤
          Binary64.ofInt a.param * (now - a.commandedAt) / a.period →
        a.resolved now = .ok a.target) := by
  have sound := reach.sound finite pos
  refine ⟨sound.resolved, ?_, ?_, ?_, ?_⟩
  · intro now later le
    exact sound.approaches le
  · intro timed now early
    exact sound.resolved_start timed (elapsed_of_le early)
  · intro kind now passed
    exact sound.resolved_of_duration kind passed
  · intro kind now travelled
    exact sound.resolved_of_travel kind travelled

/-- A move down, read before, at, during and after it. -/
theorem monotone_trajectory_down :
    let a := (fresh defaultPeriod).obeyAll
      [⟨.whole 9000, .immediate, 0, 0⟩, ⟨.whole 1000, .speed, 200, 3000⟩]
    defaultPeriod.IsFinite ∧ 0 < defaultPeriod ∧ Reachable defaultPeriod a ∧
      (a.kind = .speed ∧ (2999 : Binary64) ≤ a.commandedAt ∧
        Binary64.ofInt a.distance.natAbs ≤
          Binary64.ofInt a.param * (7000 - a.commandedAt) / a.period) ∧
      a.resolved 2999 = .ok a.start ∧
      (∃ p q, a.resolved 3001 = .ok p ∧ a.resolved 5000 = .ok q ∧
        |a.target - q| ≤ |a.target - p|) ∧
      a.resolved 7000 = .ok a.target := by
  intro a
  have reach : Reachable defaultPeriod a := Reachable.fresh.obeyAll _
  have kind : a.kind = .speed := by decide +kernel
  have early : (2999 : Binary64) ≤ a.commandedAt := by decide +kernel
  have travelled : Binary64.ofInt a.distance.natAbs ≤
      Binary64.ofInt a.param * (7000 - a.commandedAt) / a.period := by
    decide +kernel
  obtain ⟨-, nearer, before, -, after⟩ :=
    Reachable.monotone_trajectory defaultPeriod_isFinite defaultPeriod_pos reach
  refine ⟨defaultPeriod_isFinite, defaultPeriod_pos, reach, ⟨kind, early, travelled⟩, ?_, ?_, ?_⟩
  · apply before _ 2999 early
    rw [kind]
    exact MoveKind.noConfusion
  · apply nearer 3001 5000
    decide +kernel
  · exact after kind 7000 travelled

/-! ## Move after move -/

/-- An order for a move that takes time, toward a finite amount. -/
structure Order.Travels (o : Order) : Prop where
  finite : o.amount.IsFinite
  timed : o.kind ≠ .immediate
  positive : 0 < o.param

/-- Whether an order puts the axis at its target at once: no parameter counts as no time at all. -/
def Order.IsImmediate (o : Order) : Prop :=
  o.kind = .immediate ∨ o.param ≤ 0

instance : DecidablePred Order.IsImmediate :=
  fun o => inferInstanceAs (Decidable (o.kind = .immediate ∨ o.param ≤ 0))

theorem Order.travels_iff {o : Order} : o.Travels ↔ o.amount.IsFinite ∧ ¬ o.IsImmediate := by
  constructor
  · rintro ⟨finite, timed, positive⟩
    refine ⟨finite, ?_⟩
    rintro (immediate | none)
    · exact timed immediate
    · omega
  · rintro ⟨finite, moves⟩
    obtain ⟨timed, positive⟩ := not_or.1 moves
    exact ⟨finite, timed, by omega⟩

/-- An order is taken without a jump: the axis stands right after it where it stood right before it,
and this is where the new move starts. -/
def CarriesOver (a : Axis) (o : Order) : Prop :=
  (a.obey o).result = .ok () ∧
    ∃ p, a.resolved o.now = .ok p ∧ (a.obey o).state.resolved o.now = .ok p ∧
      (a.obey o).state.start = p

/-- A run of orders in which each is taken without a jump. -/
inductive Joined : Axis → List Order → Prop
  | nil {a : Axis} : Joined a []
  | cons {a : Axis} {o : Order} {rest : List Order} (joint : a.CarriesOver o)
      (joined : Joined (a.obey o).state rest) : Joined a (o :: rest)

theorem started_of_travels {o : Order} (travels : o.Travels) (a : Axis) (origin target : Int) :
    a.started origin target o.kind o.param o.now =
      { a with
        start := origin, target, kind := o.kind, param := min o.param.toNat maxParam
        commandedAt := o.now } :=
  if_neg (Order.travels_iff.1 travels).2

/-- **The step.** A move that takes time starts where the axis stands at that moment, whatever the
moment is, and the axis stands there still. -/
theorem Sound.carriesOver (sound : a.Sound) {o : Order} (travels : o.Travels) :
    a.CarriesOver o := by
  rcases Position.nearest_cases o.amount with ⟨-, target, nearest, -⟩ | ⟨not_finite, -⟩
  · obtain ⟨p, resolved, -⟩ := sound.resolved o.now
    have sound' := sound.obey o
    have begun := started_of_travels travels a p target
    unfold CarriesOver
    rw [obey_eq_done nearest resolved] at sound' ⊢
    change (a.started p target o.kind o.param o.now).Sound at sound'
    refine ⟨rfl, p, resolved, ?_, ?_⟩
    · change (a.started p target o.kind o.param o.now).resolved o.now = .ok p
      rw [begun] at sound' ⊢
      exact sound'.resolved_start travels.timed (elapsed_commandedAt _)
    · change (a.started p target o.kind o.param o.now).start = p
      rw [begun]
  · exact absurd travels.finite not_finite

/-- The run: each order finds a sound axis. -/
theorem Sound.joined (sound : a.Sound) {orders : List Order} (travel : ∀ o ∈ orders, o.Travels) :
    Joined a orders := by
  induction orders generalizing a with
  | nil => exact .nil
  | cons o rest ih =>
    obtain ⟨travels, travel⟩ := List.forall_mem_cons.1 travel
    exact .cons (sound.carriesOver travels) (ih (sound.obey o) travel)

/-- **A new move never jumps.** Whatever an axis has been told, an order for a move by time or speed
leaves it at the position where it stands at that moment, and there the move starts; the moment may
be any double. So in a run of such orders all moves are joined. -/
theorem Reachable.moves_joined (finite : period.IsFinite) (pos : 0 < period)
    (reach : Reachable period a) :
    (∀ o : Order, o.Travels → a.CarriesOver o) ∧
      ∀ orders : List Order, (∀ o ∈ orders, o.Travels) → Joined a orders := by
  have sound := reach.sound finite pos
  refine ⟨?_, ?_⟩
  · intro o travels
    exact sound.carriesOver travels
  · intro orders travel
    exact sound.joined travel

/-- A stroke up is turned round, with the clock set back, and then given up at a time that is no
number. -/
theorem moves_joined_turned :
    let orders : List Order :=
      [⟨.whole 9999, .speed, 10 ^ 20, 3000⟩, ⟨.real 2500, .interpolate, 700, 1500⟩,
        ⟨.whole 0, .speed, 1, .nan⟩]
    defaultPeriod.IsFinite ∧ 0 < defaultPeriod ∧ Reachable defaultPeriod (fresh defaultPeriod) ∧
      (∀ o ∈ orders, o.Travels) ∧ (fresh defaultPeriod).CarriesOver ⟨.whole 9999, .speed, 1, 0⟩ ∧
      Joined (fresh defaultPeriod) orders := by
  intro orders
  have travel : ∀ o ∈ orders, o.Travels := by
    intro o mem
    simp only [orders, List.mem_cons, List.not_mem_nil, or_false] at mem
    have amount : (2500 : Binary64).IsFinite := by decide +kernel
    rcases mem with rfl | rfl | rfl
    · exact ⟨trivial, MoveKind.noConfusion, by decide⟩
    · exact ⟨amount, MoveKind.noConfusion, by decide⟩
    · exact ⟨trivial, MoveKind.noConfusion, by decide⟩
  obtain ⟨step, run⟩ :=
    Reachable.moves_joined defaultPeriod_isFinite defaultPeriod_pos .fresh
  refine ⟨defaultPeriod_isFinite, defaultPeriod_pos, .fresh, travel, ?_, run orders travel⟩
  exact step _ ⟨trivial, MoveKind.noConfusion, by decide⟩

end MotionEmulator.Axis
