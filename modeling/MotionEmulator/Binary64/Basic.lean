import MotionEmulator.Quotient

/-!
# Double-precision numbers

Times, rates and scales are IEEE 754 binary64 numbers. A finite one is held as a sign and a
whole number of *quanta*, the quantum being `2 ^ -1074`, the least positive double; so
comparison and addition are comparison and addition of integers, and no exponent is ever
unpacked. `Magnitude` carries the proof that its quanta lie on the grid of the format.
`Magnitude.nearest?` rounds an exact quotient onto that grid, and every arithmetic operation
is one exact quotient followed by this one rounding.

Order is by `level?`: every number but NaN has a level, an integer, and the infinities stand
at the first level that no finite number reaches. Both zeros have level 0.
-/

namespace MotionEmulator

/-- The power of two of an exponent. -/
def twoPow (k : Nat) : Nat :=
  Nat.pow 2 k

theorem twoPow_pos (k : Nat) : 0 < twoPow k :=
  Nat.two_pow_pos k

theorem twoPow_add (j k : Nat) : twoPow (j + k) = twoPow j * twoPow k :=
  Nat.pow_add 2 j k

theorem twoPow_lt {j k : Nat} (h : j < k) : twoPow j < twoPow k :=
  Nat.pow_lt_pow_right (by decide) h

theorem twoPow_dvd {j k : Nat} (h : j ≤ k) : twoPow j ∣ twoPow k :=
  Nat.pow_dvd_pow 2 h

/-- The bound up to which every whole number is a double, `2 ^ 53`. -/
def wholeLimit : Nat :=
  0x20000000000000

/-- The distance, in quanta, between neighbouring doubles around `n` quanta: one below
`2 ^ 53`, and twice as much in each binade above. -/
def spacing (n : Nat) : Nat :=
  twoPow (n.log2 - 52)

/-- The number of quanta at which finite doubles end. -/
@[irreducible] def overflowQuanta : Nat :=
  twoPow 2098

theorem overflowQuanta_pos : 0 < overflowQuanta := by
  unfold overflowQuanta
  exact twoPow_pos 2098

/-- The absolute value of a finite double, in quanta. -/
structure Magnitude where
  quanta : Nat
  /-- Only 53 binary digits are kept. -/
  onGrid : quanta % spacing quanta = 0
  inRange : quanta < overflowQuanta
  deriving DecidableEq

/-! ## Rounding onto the grid -/

/-- `num / den` quanta, rounded to the nearest point of the grid around it. -/
def nearestQuanta (num den : Nat) : Nat :=
  let step := spacing (num / den)
  nearestQuotient num (den * step) * step

theorem quotient_div_spacing_lt (n : Nat) : n / spacing n < wholeLimit := by
  unfold spacing
  rw [Nat.div_lt_iff_lt_mul (twoPow_pos _)]
  calc n < 2 ^ (n.log2 + 1) := Nat.lt_log2_self
    _ ≤ 2 ^ (53 + (n.log2 - 52)) := Nat.pow_le_pow_right (by decide) (by omega)
    _ = wholeLimit * twoPow (n.log2 - 52) := twoPow_add 53 _

theorem log2_mul_twoPow {m : Nat} (k : Nat) (h : m ≠ 0) :
    (m * twoPow k).log2 = m.log2 + k := by
  have hpos : m * twoPow k ≠ 0 := Nat.mul_ne_zero h (Nat.ne_of_gt (twoPow_pos k))
  rw [Nat.log2_eq_iff hpos]
  constructor
  · rw [Nat.pow_add]
    exact Nat.mul_le_mul_right _ (Nat.log2_self_le h)
  · rw [Nat.add_right_comm, Nat.pow_add]
    exact Nat.mul_lt_mul_of_pos_right Nat.lt_log2_self (twoPow_pos k)

theorem mul_twoPow_lt {n k l : Nat} (h : n ≤ wholeLimit) (room : 53 + k < l) :
    n * twoPow k < twoPow l := by
  calc n * twoPow k ≤ twoPow 53 * twoPow k := Nat.mul_le_mul_right _ h
    _ = twoPow (53 + k) := (twoPow_add 53 k).symm
    _ < twoPow l := twoPow_lt room

/-- Up to `2 ^ 53` grid steps of a binade are again a point of the grid. -/
theorem mul_twoPow_mod_spacing {m : Nat} (k : Nat) (h : m ≤ wholeLimit) :
    (m * twoPow k) % spacing (m * twoPow k) = 0 := by
  unfold spacing
  by_cases hm : m = 0
  · rw [hm, Nat.zero_mul, Nat.zero_mod]
  · rw [log2_mul_twoPow k hm]
    apply Nat.mod_eq_zero_of_dvd
    by_cases hb : m = wholeLimit
    · have log2_eq : wholeLimit.log2 = 53 := Nat.log2_two_pow (n := 53)
      rw [hb, log2_eq]
      calc twoPow (53 + k - 52) ∣ twoPow (53 + k) := twoPow_dvd (Nat.sub_le _ _)
        _ = wholeLimit * twoPow k := twoPow_add 53 k
    · have hlt : m.log2 < 53 := (Nat.log2_lt hm).2 (Nat.lt_of_le_of_ne h hb)
      exact Nat.dvd_trans (twoPow_dvd (by omega)) (Nat.dvd_mul_left (twoPow k) m)

theorem nearestQuanta_mod_spacing (num den : Nat) :
    nearestQuanta num den % spacing (nearestQuanta num den) = 0 := by
  have hle := nearestQuotient_le num (den * spacing (num / den))
  have hlt := quotient_div_spacing_lt (num / den)
  rw [Nat.div_div_eq_div_mul] at hlt
  exact mul_twoPow_mod_spacing _ (Nat.le_trans hle hlt)

/-- The magnitude nearest to `num / den` quanta, or none when that overflows. -/
def Magnitude.nearest? (num den : Nat) : Option Magnitude :=
  if h : nearestQuanta num den < overflowQuanta then
    some ⟨nearestQuanta num den, nearestQuanta_mod_spacing num den, h⟩
  else none

/-- The magnitude of both zeros. -/
def Magnitude.zero : Magnitude :=
  ⟨0, Nat.zero_mod _, overflowQuanta_pos⟩

/-! ## Numbers -/

/-- A double. -/
inductive Binary64 where
  | finite (negative : Bool) (magnitude : Magnitude)
  | infinite (negative : Bool)
  | nan
  deriving DecidableEq

namespace Binary64

/-- The double nearest to plus or minus `num / den` quanta; too large a one is infinite. -/
def ofQuanta (negative : Bool) (num den : Nat) : Binary64 :=
  match Magnitude.nearest? num den with
  | some m => .finite negative m
  | none => .infinite negative

/-- The number of quanta in one. -/
@[irreducible] def one : Nat :=
  twoPow 1074

theorem mul_one_mod_spacing {n : Nat} (h : n ≤ wholeLimit) :
    (n * one) % spacing (n * one) = 0 := by
  unfold one
  exact mul_twoPow_mod_spacing 1074 h

theorem mul_one_lt_overflowQuanta {n : Nat} (h : n ≤ wholeLimit) : n * one < overflowQuanta := by
  unfold one overflowQuanta
  exact mul_twoPow_lt h (by decide)

/-- The double nearest to an integer. -/
def ofInt (n : Int) : Binary64 :=
  ofQuanta (n < 0) (n.natAbs * one) 1

instance (n : Nat) : OfNat Binary64 n where
  ofNat := ofInt n

instance : Inhabited Binary64 where
  default := 0

/-- The signed number of quanta of a sign and a magnitude. -/
def signed (negative : Bool) (m : Magnitude) : Int :=
  if negative then -(m.quanta : Int) else m.quanta

/-- The place of a number in the order of all numbers; NaN has none. -/
def level? : Binary64 → Option Int
  | .finite s m => some (signed s m)
  | .infinite s => some (if s then -(overflowQuanta : Int) else overflowQuanta)
  | .nan => none

/-- Whether a number is less than another; false when either is NaN. -/
def less (x y : Binary64) : Bool :=
  match x.level?, y.level? with
  | some a, some b => a < b
  | _, _ => false

/-- Whether a number is at most another; false when either is NaN. -/
def atMost (x y : Binary64) : Bool :=
  match x.level?, y.level? with
  | some a, some b => a ≤ b
  | _, _ => false

instance : LT Binary64 where
  lt x y := x.less y = true

instance : LE Binary64 where
  le x y := x.atMost y = true

instance (x y : Binary64) : Decidable (x < y) :=
  inferInstanceAs (Decidable (x.less y = true))

instance (x y : Binary64) : Decidable (x ≤ y) :=
  inferInstanceAs (Decidable (x.atMost y = true))

/-- Whether the sign bit of a number is set; NaN counts as positive. -/
def isNegative : Binary64 → Bool
  | .finite s _ => s
  | .infinite s => s
  | .nan => false

/-- A number with its sign replaced. -/
def withSign (negative : Bool) : Binary64 → Binary64
  | .finite _ m => .finite negative m
  | .infinite _ => .infinite negative
  | .nan => .nan

/-- The larger of zero and a number; zero when the number is NaN. -/
def atLeastZero (x : Binary64) : Binary64 :=
  if 0 < x then x else 0

end Binary64

end MotionEmulator
