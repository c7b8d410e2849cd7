import MotionEmulator.Binary64.Basic

/-!
# The interchange encoding of doubles

`toBits` and `ofBits` are the 64-bit interchange format: a sign bit, eleven exponent bits and
52 fraction bits. Counted in quanta, a magnitude and its encoding agree below `2 ^ 53`; above,
each binade adds one to the exponent field.
-/

namespace MotionEmulator.Binary64

/-- The exponent field of the infinities and of NaN, in place. -/
def infinityBits : Nat :=
  0x7ff * twoPow 52

/-- The encoding of a magnitude, without the sign. -/
def magnitudeBits (m : Magnitude) : Nat :=
  let binade := m.quanta.log2 - 52
  binade * twoPow 52 + m.quanta / twoPow binade

/-- The encoding of a number; NaN has the quiet one without a payload. -/
def toBits : Binary64 → Nat
  | .finite s m => (if s then twoPow 63 else 0) + magnitudeBits m
  | .infinite s => (if s then twoPow 63 else 0) + infinityBits
  | .nan => infinityBits + twoPow 51

/-- The number that 64 bits encode. -/
def ofBits (bits : Nat) : Binary64 :=
  let negative := bits / twoPow 63 % 2 = 1
  let exponent := bits / twoPow 52 % twoPow 11
  let fraction := bits % twoPow 52
  if exponent = 0x7ff then
    if fraction = 0 then .infinite negative else .nan
  else if exponent = 0 then ofQuanta negative fraction 1
  else ofQuanta negative ((twoPow 52 + fraction) * twoPow (exponent - 1)) 1

end MotionEmulator.Binary64
