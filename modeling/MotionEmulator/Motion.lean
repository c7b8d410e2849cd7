/-!
# Kinds of motion

A channel goes to its target at once, in a given time, or at a given speed. The time and the
speed are the *parameter* of the motion: milliseconds, or units per speed period. Parameters
saturate at `maxParam`.
-/

namespace MotionEmulator

/-- How a channel travels to its target. -/
inductive MoveKind where
  /-- At once. -/
  | immediate
  /-- In a straight line, arriving after the parameter's milliseconds. -/
  | interpolate
  /-- In a straight line, the parameter's units in each speed period. -/
  | speed
  deriving DecidableEq

namespace MoveKind

def name : MoveKind → String
  | immediate => "IMMEDIATE"
  | interpolate => "INTERPOLATE"
  | speed => "SPEED"

/-- The letter that announces a parameter of this kind; an immediate move has none. -/
def letters : MoveKind → List Char
  | immediate => []
  | interpolate => ['I']
  | speed => ['S']

/-- The kind of a letter. -/
def ofLetter? : Char → Option MoveKind
  | 'I' => some interpolate
  | 'S' => some speed
  | _ => none

theorem ofLetter?_ne_immediate {c : Char} {kind : MoveKind} (h : ofLetter? c = some kind) :
    kind ≠ immediate := by
  unfold ofLetter? at h
  split at h <;> simp_all <;> subst h <;> decide

end MoveKind

/-- The number of decimal digits of the largest parameter. -/
def paramDigits : Nat :=
  9

/-- The largest parameter of a motion. -/
def maxParam : Nat :=
  999999999

end MotionEmulator
