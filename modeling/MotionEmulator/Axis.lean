import MotionEmulator.Channel
import MotionEmulator.Outcome

/-!
# Axes

An axis is the motion of one channel: where the current move started, where it goes, how, and
when it was commanded. Nothing moves by itself: `Axis.resolved` computes the position at any
time from these, so reading never changes an axis. `Axis.moveTo` starts a new move from the
position resolved at that moment. Times are in milliseconds.

A move is under way until its arrival, and `Axis.Valid` is the coupling of kind, parameter and
ends that every move keeps.
-/

namespace MotionEmulator

/-- The motion of one channel. -/
structure Axis where
  /-- The milliseconds in which a move by speed covers its parameter. -/
  period : Binary64
  start : Int := 0
  target : Int := 0
  kind : MoveKind := .immediate
  /-- The duration in milliseconds or the speed, zero for an immediate move. -/
  param : Nat := 0
  commandedAt : Binary64 := 0
  deriving DecidableEq

/-- Whether an axis travels. -/
inductive AxisState where
  | idle
  | moving
  deriving DecidableEq

/-- The speed period of a device that is told no other. -/
def defaultPeriod : Binary64 :=
  100

/-- A speed period is refused if it is zero or less; NaN and infinity are not. -/
def checkPeriod (period : Binary64) : Except Fault Binary64 :=
  if period ≤ 0 then .error (.periodNotPositive period) else .ok period

namespace Axis

/-- An axis at rest at position 0. -/
def fresh (period : Binary64) : Axis :=
  { period }

/-- The signed distance from start to target. -/
def distance (a : Axis) : Int :=
  a.target - a.start

/-- The time since the command; zero before it, and for a time that is not a number. -/
def elapsed (a : Axis) (now : Binary64) : Binary64 :=
  (now - a.commandedAt).atLeastZero

/-- The distance that a move by speed has covered. -/
def travel (a : Axis) (now : Binary64) : Except Fault Binary64 :=
  (Binary64.ofInt a.param * a.elapsed now).over a.period

/-- The place between start and target, before rounding; none once the target is reached. -/
def underway? (a : Axis) (now : Binary64) : Except Fault (Option Binary64) :=
  match a.kind with
  | .immediate => .ok none
  | .interpolate =>
    if Binary64.ofInt a.param ≤ a.elapsed now then .ok none
    else do
      let part ← (a.elapsed now).over (Binary64.ofInt a.param)
      return some (Binary64.ofInt a.start + Binary64.ofInt a.distance * part)
  | .speed => do
    let travel ← a.travel now
    if Binary64.ofInt a.distance.natAbs ≤ travel then return none
    else return some (Binary64.ofInt a.start + travel.withSign (a.distance < 0))

/-- A position moved to the nearer end when it lies outside start and target. -/
def between (a : Axis) (position : Int) : Int :=
  max (min a.start a.target) (min (max a.start a.target) position)

/-- The position at a time. -/
def resolved (a : Axis) (now : Binary64) : Except Fault Int := do
  match ← a.underway? now with
  | none => return a.target
  | some x => ((Position.nearest (.real x)).map a.between).mapError Fault.nonFinite

/-- The axis after a move has been started from a position. Without a positive parameter the
move is immediate, and then its start is its target. -/
def started (a : Axis) (origin target : Int) (kind : MoveKind) (param : Int) (now : Binary64) :
    Axis :=
  if kind = .immediate ∨ param ≤ 0 then
    { a with start := target, target, kind := .immediate, param := 0, commandedAt := now }
  else
    { a with
      start := origin, target, kind, param := min param.toNat maxParam, commandedAt := now }

/-- Starts a move toward an amount. The amount is rounded first, then the current position is
resolved; the axis changes only when nothing can fail any more. -/
def moveTo (a : Axis) (amount : Amount) (kind : MoveKind) (param : Int) (now : Binary64) :
    Outcome Axis Unit :=
  match Position.nearest amount with
  | .error cause => .fault a (.nonFinite cause)
  | .ok target =>
    match a.resolved now with
    | .error cause => .fault a cause
    | .ok origin => .done (a.started origin target kind param now) ()

/-- The time at which the current move reaches its target. -/
def arrival (a : Axis) : Except Fault Binary64 :=
  match a.kind with
  | .immediate => .ok a.commandedAt
  | .interpolate => .ok (a.commandedAt + Binary64.ofInt a.param)
  | .speed => do
    let duration ←
      (Binary64.ofInt a.distance.natAbs * a.period).over (Binary64.ofInt a.param)
    return a.commandedAt + duration

/-- Whether a time is before the arrival. -/
def isMoving (a : Axis) (now : Binary64) : Except Fault Bool :=
  a.arrival.map fun arrival => now < arrival

def state (a : Axis) (now : Binary64) : Except Fault AxisState :=
  (a.isMoving now).map fun moving => if moving then .moving else .idle

/-- The position at a time as a fraction of the whole range. -/
def fraction (a : Axis) (now : Binary64) : Except Fault Binary64 :=
  (a.resolved now).map Position.fraction

/-- An axis in words. -/
def describe (a : Axis) (channel : Channel) : String :=
  "Axis(" ++ channel.name ++ ", start=" ++ toString a.start ++ ", target="
    ++ toString a.target ++ ", mode=" ++ a.kind.name ++ ", param=" ++ toString a.param ++ ")"

/-- Both ends are positions; an immediate move has no parameter and is at its target, and any
other has a parameter in range. -/
structure Valid (a : Axis) : Prop where
  start_nonneg : 0 ≤ a.start
  start_le : a.start ≤ Position.top
  target_nonneg : 0 ≤ a.target
  target_le : a.target ≤ Position.top
  immediate : a.kind = .immediate → a.param = 0 ∧ a.start = a.target
  timed : a.kind ≠ .immediate → 1 ≤ a.param ∧ a.param ≤ maxParam

end Axis

/-- A state of motion in a word. -/
def AxisState.name : AxisState → String
  | .idle => "idle"
  | .moving => "moving"

end MotionEmulator
