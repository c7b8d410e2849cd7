import MotionEmulator.Binary64.Arithmetic

/-!
# The shortest decimal of a double

`Magnitude.shortest` is the decimal with the fewest digits that reads back as the same double,
and of those the nearest to it. `Binary64.text` writes that decimal positionally from `0.0001`
up to below `10 ^ 16` and with a signed exponent of at least two digits elsewhere; a whole
number keeps `.0`.
-/

namespace MotionEmulator

/-- The decimal `digits * 10 ^ exponent`. -/
structure Decimal where
  digits : Nat
  exponent : Int
  deriving DecidableEq

namespace Magnitude

/-- Whether a magnitude is less than `10 ^ k`. -/
def isBelowPowerOfTen (m : Magnitude) (k : Int) : Bool :=
  m.quanta * Nat.pow 10 (-k).toNat < Nat.pow 10 k.toNat * Binary64.one

/-- The least `k` with the magnitude below `10 ^ k`, found from its binary logarithm. -/
def decimalScale (m : Magnitude) : Int :=
  let guess := ((m.quanta.log2 : Int) - 1074) * 30103 / 100000
  if m.isBelowPowerOfTen guess then guess
  else if m.isBelowPowerOfTen (guess + 1) then guess + 1
  else guess + 2

/-- Whether a decimal reads back as this magnitude. -/
def readsBack (m : Magnitude) (d : Decimal) : Bool :=
  Binary64.ofDecimal false d.digits d.exponent = .finite false m

/-- The two decimals around a magnitude on the grid of `10 ^ exponent`, the nearer first. -/
def neighbours (m : Magnitude) (exponent : Int) : List Decimal :=
  let num := m.quanta * Nat.pow 10 (-exponent).toNat
  let den := Binary64.one * Nat.pow 10 exponent.toNat
  let near := nearestQuotient num den
  let far := if near = num / den then near + 1 else num / den
  [⟨near, exponent⟩, ⟨far, exponent⟩]

/-- The nearest decimal of at most `n` digits that reads back. -/
def withDigits? (m : Magnitude) (n : Nat) : Option Decimal :=
  (m.neighbours (m.decimalScale - n)).find? m.readsBack

/-- The decimal of fewest digits that reads back; seventeen digits always do. -/
def shortest (m : Magnitude) : Decimal :=
  ((List.range 17).findSome? fun n => m.withDigits? (n + 1)).getD
    ⟨nearestQuotient (m.quanta * Nat.pow 10 1074) Binary64.one, -1074⟩

end Magnitude

namespace Decimal

/-- A digit run without the zeros at its end. -/
def dropTrailingZeros (digits : List Char) : List Char :=
  (digits.reverse.dropWhile (· = '0')).reverse

/-- `ds` with the decimal point after its first `point` digits, zeros filling up on either
side; at least one digit stands on both sides of the point. -/
def positional (ds : List Char) (point : Int) : List Char :=
  if point ≤ 0 then
    '0' :: '.' :: (List.replicate (-point).toNat '0' ++ ds)
  else
    let whole := (ds ++ List.replicate (point.toNat - ds.length) '0').take point.toNat
    let fraction := ds.drop point.toNat
    whole ++ '.' :: (if fraction = [] then ['0'] else fraction)

/-- The digits of a number, filled up with zeros on the left to a width. -/
def padded (width n : Nat) : List Char :=
  let ds := Nat.toDigits 10 n
  List.replicate (width - ds.length) '0' ++ ds

/-- One digit before the point and a signed power of ten after the rest. -/
def scientific (ds : List Char) (exponent : Int) : List Char :=
  let mantissa :=
    match ds with
    | [] => ['0']
    | [d] => [d]
    | d :: rest => d :: '.' :: rest
  mantissa ++ ['e', if exponent < 0 then '-' else '+'] ++ padded 2 exponent.natAbs

/-- A decimal in its usual notation. -/
def text (d : Decimal) : List Char :=
  let ds := Nat.toDigits 10 d.digits
  let point := ds.length + d.exponent
  if -4 < point ∧ point ≤ 16 then positional (dropTrailingZeros ds) point
  else scientific (dropTrailingZeros ds) (point - 1)

end Decimal

/-- A number as text: the fewest digits that identify it. -/
def Binary64.text : Binary64 → String
  | .finite s m =>
    let digits := if m.quanta = 0 then "0.0" else String.ofList m.shortest.text
    (if s then "-" else "") ++ digits
  | .infinite s => if s then "-inf" else "inf"
  | .nan => "nan"

end MotionEmulator
