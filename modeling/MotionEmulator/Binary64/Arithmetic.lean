import MotionEmulator.Binary64.Basic

/-!
# Arithmetic on doubles

Sum, difference, product and quotient: each forms its exact result as a quotient of integers,
in quanta, and rounds it once with `ofQuanta`. A sum that cancels is a positive zero unless
both terms are negative. `ofDecimal` reads a decimal with the same single rounding.
-/

namespace MotionEmulator.Binary64

/-- The double nearest to a whole number of quanta. -/
def ofSigned (n : Int) : Binary64 :=
  ofQuanta (n < 0) n.natAbs 1

def neg (x : Binary64) : Binary64 :=
  x.withSign (!x.isNegative)

def add : Binary64 → Binary64 → Binary64
  | .nan, _ | _, .nan => .nan
  | .infinite s, .infinite t => if s = t then .infinite s else .nan
  | .infinite s, .finite _ _ => .infinite s
  | .finite _ _, .infinite t => .infinite t
  | .finite s a, .finite t b =>
    let sum := signed s a + signed t b
    if sum = 0 then .finite (s && t) .zero else ofSigned sum

def sub (x y : Binary64) : Binary64 :=
  add x (neg y)

def mul : Binary64 → Binary64 → Binary64
  | .nan, _ | _, .nan => .nan
  | .infinite s, .infinite t => .infinite (s != t)
  | .infinite s, .finite t b => if b.quanta = 0 then .nan else .infinite (s != t)
  | .finite s a, .infinite t => if a.quanta = 0 then .nan else .infinite (s != t)
  | .finite s a, .finite t b => ofQuanta (s != t) (a.quanta * b.quanta) one

/-- The quotient. A zero divisor gives an infinity, or NaN below a zero or a NaN. -/
def div : Binary64 → Binary64 → Binary64
  | .nan, _ | _, .nan => .nan
  | .infinite _, .infinite _ => .nan
  | .infinite s, .finite t _ => .infinite (s != t)
  | .finite s _, .infinite t => .finite (s != t) .zero
  | .finite s a, .finite t b =>
    if b.quanta = 0 then
      if a.quanta = 0 then .nan else .infinite (s != t)
    else ofQuanta (s != t) (a.quanta * one) b.quanta

instance : Neg Binary64 := ⟨neg⟩
instance : Add Binary64 := ⟨add⟩
instance : Sub Binary64 := ⟨sub⟩
instance : Mul Binary64 := ⟨mul⟩
instance : Div Binary64 := ⟨div⟩

/-- The double nearest to plus or minus `digits * 10 ^ exponent`. Exponents far outside the
range of doubles are answered without forming the power. -/
def ofDecimal (negative : Bool) (digits : Nat) (exponent : Int) : Binary64 :=
  if digits = 0 then .finite negative .zero
  else if 400 < exponent then .infinite negative
  else if exponent < -400 - (digits.log2 : Int) then .finite negative .zero
  else ofQuanta negative (digits * Nat.pow 10 exponent.toNat * one) (Nat.pow 10 (-exponent).toNat)

end MotionEmulator.Binary64
