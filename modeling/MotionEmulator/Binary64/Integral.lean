import MotionEmulator.Binary64.Arithmetic

/-!
# Doubles and whole numbers

The integer nearest to a double (`nearestInt`), its integer part (`truncate`), and its value to
a set number of decimal places (`roundedTo`). All three start from the exact value; a half goes
to the even neighbour. NaN and the infinities have no integer, and `NonFinite` says which of the
two stood in the way.
-/

namespace MotionEmulator

/-- Why a double has no integer near it. -/
inductive NonFinite where
  | nan
  | infinite
  deriving DecidableEq

namespace Binary64

/-- An integer from its sign and its absolute value. -/
def signedInt (negative : Bool) (n : Nat) : Int :=
  if negative then -(n : Int) else n

/-- The integer nearest to a number. -/
def nearestInt : Binary64 → Except NonFinite Int
  | .finite s m => .ok (signedInt s (nearestQuotient m.quanta one))
  | .infinite _ => .error .infinite
  | .nan => .error .nan

/-- The integer part of a number, its fraction dropped. -/
def truncate : Binary64 → Except NonFinite Int
  | .finite s m => .ok (signedInt s (m.quanta / one))
  | .infinite _ => .error .infinite
  | .nan => .error .nan

/-- The double nearest to a number's value at `places` decimal places. -/
def roundedTo (places : Nat) : Binary64 → Binary64
  | .finite s m =>
    ofQuanta s (nearestQuotient (m.quanta * Nat.pow 10 places) one * one) (Nat.pow 10 places)
  | x => x

/-- A number without its decimal places. -/
def wholeText : Binary64 → String
  | .finite s m => (if s then "-" else "") ++ toString (nearestQuotient m.quanta one)
  | .infinite s => if s then "-inf" else "inf"
  | .nan => "nan"

end Binary64

end MotionEmulator
