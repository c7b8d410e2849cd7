import MotionEmulator.Proofs.Binary64.Bounds
import MotionEmulator.Stream

/-!
# Times that go on

A number other than NaN has a place in the order of all numbers, its `level`. `IsTime` are the
numbers that a clock can show, finite ones and positive infinity. A positive pause leads from a
time to one that is later or, where the pause is lost in rounding, to the same one
(`IsTime.add_cases`). What it leads to is `IsDue`: a time and no negative zero, so that of two
such numbers neither of which is before the other both are one (`IsDue.eq_of_level`).
-/

namespace MotionEmulator

theorem Magnitude.eq_of_quanta {a b : Magnitude} (same : a.quanta = b.quanta) : a = b := by
  cases a
  cases b
  cases same
  rfl

/-- The magnitude of the least positive double. -/
def Magnitude.least : Magnitude where
  quanta := 1
  onGrid := Nat.mod_one 1
  inRange := by
    unfold overflowQuanta
    exact twoPow_lt (j := 0) (by decide)

namespace Binary64

/-- The place of a number in the order of all numbers; zero for NaN. -/
def level (x : Binary64) : Int :=
  x.level?.getD 0

variable {x y : Binary64}

theorem lt_iff_level (hx : x ≠ .nan) (hy : y ≠ .nan) : x < y ↔ x.level < y.level := by
  cases x <;> cases y <;> first | contradiction | exact decide_eq_true_iff

theorem le_iff_level (hx : x ≠ .nan) (hy : y ≠ .nan) : x ≤ y ↔ x.level ≤ y.level := by
  cases x <;> cases y <;> first | contradiction | exact decide_eq_true_iff

theorem level_finite (s : Bool) (m : Magnitude) : (finite s m).level = signed s m := rfl

theorem level_infinite : (infinite false).level = overflowQuanta := rfl

theorem signed_lt_overflowQuanta (s : Bool) (m : Magnitude) : signed s m < overflowQuanta := by
  have inRange := m.inRange
  cases s <;> simp only [signed, Bool.false_eq_true, if_true, if_false] <;> omega

/-- A quotient that is at least a finite magnitude is rounded to at least that magnitude. -/
theorem le_ofQuanta {num den : Nat} {m : Magnitude} (negative : Bool) (pos : 0 < den)
    (h : m.quanta * den ≤ num) :
    ofQuanta negative num den = .infinite negative ∨
      ∃ n : Magnitude, ofQuanta negative num den = .finite negative n ∧ m.quanta ≤ n.quanta := by
  have ge := le_nearestQuanta pos m.isOnGrid h
  by_cases inRange : nearestQuanta num den < overflowQuanta
  · refine .inr ⟨⟨nearestQuanta num den, nearestQuanta_mod_spacing num den, inRange⟩, ?_, ge⟩
    simp only [ofQuanta, Magnitude.nearest?, dif_pos inRange]
  · left
    simp only [ofQuanta, Magnitude.nearest?, dif_neg inRange]

/-! ## Times -/

/-- A number that a clock can show. -/
def IsTime : Binary64 → Prop
  | .finite _ _ => True
  | .infinite s => s = false
  | .nan => False

/-- A time, and no negative zero. -/
def IsDue (x : Binary64) : Prop :=
  x.IsTime ∧ x ≠ .finite true .zero

theorem IsFinite.isTime (finite : x.IsFinite) : x.IsTime := by
  cases x with
  | finite s m => exact trivial
  | infinite s => exact finite.elim
  | nan => exact finite

theorem IsTime.ne_nan (time : x.IsTime) : x ≠ .nan := by
  rintro rfl
  exact time

theorem IsDue.ne_nan (due : x.IsDue) : x ≠ .nan :=
  due.1.ne_nan

/-- A due time is determined by its place in the order. -/
theorem IsDue.eq_of_level (hx : x.IsDue) (hy : y.IsDue) (same : x.level = y.level) : x = y := by
  obtain ⟨timeX, unsignedX⟩ := hx
  obtain ⟨timeY, unsignedY⟩ := hy
  cases x with
  | nan => exact timeX.elim
  | infinite s =>
    obtain rfl : s = false := timeX
    cases y with
    | nan => exact timeY.elim
    | infinite t =>
      obtain rfl : t = false := timeY
      rfl
    | finite t b =>
      have := signed_lt_overflowQuanta t b
      rw [level_infinite, level_finite] at same
      omega
  | finite s a =>
    cases y with
    | nan => exact timeY.elim
    | infinite t =>
      obtain rfl : t = false := timeY
      have := signed_lt_overflowQuanta s a
      rw [level_infinite, level_finite] at same
      omega
    | finite t b =>
      -- Opposite signs leave only zero, and a due zero has no sign.
      have quanta : a.quanta = b.quanta ∧ (s = t ∨ a.quanta = 0) := by
        rw [level_finite, level_finite] at same
        cases s <;> cases t <;> simp [signed] at same ⊢ <;> omega
      obtain ⟨magnitudes, signs⟩ := quanta
      obtain rfl := Magnitude.eq_of_quanta magnitudes
      rcases signs with rfl | zero
      · rfl
      · obtain rfl : a = .zero := Magnitude.eq_of_quanta zero
        cases s <;> cases t <;>
          first | rfl | exact absurd rfl unsignedX | exact absurd rfl unsignedY

theorem zero_ne_nan : (0 : Binary64) ≠ .nan := by
  rw [zero_eq]
  exact Binary64.noConfusion

theorem not_le_zero_of_pos (pos : 0 < y) : ¬ y ≤ 0 := by
  have number : y ≠ .nan := by
    rintro rfl
    exact isNonneg_of_pos pos
  rw [lt_iff_level zero_ne_nan number] at pos
  rw [le_iff_level number zero_ne_nan]
  omega

theorem pos_of_not_le_zero (number : y ≠ .nan) (later : ¬ y ≤ 0) : 0 < y := by
  rw [le_iff_level number zero_ne_nan] at later
  rw [lt_iff_level zero_ne_nan number]
  omega

/-- A positive number of quanta is rounded to a positive number, and to no less than any magnitude
that it is not less than. -/
theorem ofSigned_of_pos {n : Int} (pos : 0 < n) {m : Magnitude} (le : (m.quanta : Int) ≤ n) :
    (ofSigned n).IsDue ∧ 0 < (ofSigned n).level ∧ (m.quanta : Int) ≤ (ofSigned n).level := by
  have overflow := overflowQuanta_pos
  have inRange := m.inRange
  rw [ofSigned, decide_eq_false (by omega)]
  have one : Magnitude.least.quanta * 1 ≤ n.natAbs := by
    simp only [Magnitude.least]
    omega
  have bound : m.quanta * 1 ≤ n.natAbs := by omega
  rcases le_ofQuanta false Nat.one_pos one with eq | ⟨k, eq, least⟩
  · rw [eq, level_infinite]
    exact ⟨⟨rfl, Binary64.noConfusion⟩, by omega, by omega⟩
  · rcases le_ofQuanta false Nat.one_pos bound with eq' | ⟨k', eq', ge⟩
    · rw [eq] at eq'
      cases eq'
    · obtain rfl : k = k' := (finite.inj (eq.symm.trans eq')).2
      simp only [Magnitude.least] at least
      rw [eq, level_finite]
      simp only [signed, Bool.false_eq_true, if_false]
      exact ⟨⟨trivial, fun zero => by cases zero⟩, by omega, by omega⟩

/-- A negative number of quanta is rounded to a negative number, and to no less than any negated
magnitude that it is not less than. -/
theorem ofSigned_of_neg {n : Int} (neg : n < 0) {m : Magnitude} (le : -(m.quanta : Int) ≤ n) :
    (ofSigned n).IsDue ∧ (ofSigned n).level < 0 ∧ -(m.quanta : Int) ≤ (ofSigned n).level := by
  rw [ofSigned, decide_eq_true (by omega)]
  have one : Magnitude.least.quanta * 1 ≤ n.natAbs := by
    simp only [Magnitude.least]
    omega
  have bound : n.natAbs ≤ m.quanta * 1 := by omega
  obtain ⟨k, eq, below⟩ := ofQuanta_le true bound
  rcases le_ofQuanta true Nat.one_pos one with eq' | ⟨k', eq', least⟩
  · rw [eq] at eq'
    cases eq'
  · obtain rfl : k = k' := (finite.inj (eq.symm.trans eq')).2
    simp only [Magnitude.least] at least
    rw [eq, level_finite]
    simp only [signed, if_true]
    refine ⟨⟨trivial, fun zero => ?_⟩, by omega, by omega⟩
    have quanta : k.quanta = 0 := congrArg Magnitude.quanta (finite.inj zero).2
    omega

/-- What is at the same place as a time that is no zero, or beyond it, is later or the same. -/
theorem lt_or_eq_of_level_le {s : Bool} {a : Magnitude} (due : y.IsDue) (nonzero : y.level ≠ 0)
    (le : signed s a ≤ y.level) : finite s a < y ∨ y = finite s a := by
  rcases Int.lt_or_eq_of_le le with lt | same
  · exact .inl ((lt_iff_level Binary64.noConfusion due.ne_nan).2 lt)
  · refine .inr (due.eq_of_level ⟨trivial, ?_⟩ same.symm)
    intro zero
    rw [← level_finite, zero] at same
    exact nonzero same.symm

/-- A finite time and a positive finite pause. -/
theorem finite_add_cases (s : Bool) (a : Magnitude) {b : Magnitude} (pos : 0 < b.quanta) :
    (finite s a + finite false b).IsDue ∧
      (finite s a < finite s a + finite false b ∨ finite s a + finite false b = finite s a) := by
  change (Binary64.add (finite s a) (finite false b)).IsDue ∧
    (finite s a < Binary64.add (finite s a) (finite false b) ∨
      Binary64.add (finite s a) (finite false b) = finite s a)
  unfold Binary64.add
  dsimp only
  have later : signed s a < signed s a + signed false b := by
    simp only [signed, Bool.false_eq_true, if_false]
    omega
  generalize signed s a + signed false b = sum at later
  split
  · next zero =>
    have negative : s = true := by
      cases s with
      | true => rfl
      | false =>
        simp only [signed, Bool.false_eq_true, if_false] at later
        omega
    rw [negative, Bool.and_false]
    rw [negative] at later
    refine ⟨⟨trivial, fun zero => by cases zero⟩, .inl ?_⟩
    refine (lt_iff_level Binary64.noConfusion Binary64.noConfusion).2 ?_
    rw [level_finite, level_finite]
    rw [zero] at later
    exact later
  · next nonzero =>
    rcases Int.lt_or_gt_of_ne nonzero with neg | pos
    · -- Below zero the time has a sign, and rounding does not pass it.
      have negative : s = true := by
        cases s with
        | true => rfl
        | false =>
          simp only [signed, Bool.false_eq_true, if_false] at later
          omega
      rw [negative] at later ⊢
      have le : -(a.quanta : Int) ≤ sum := later.le
      obtain ⟨due, below, ge⟩ := ofSigned_of_neg neg le
      exact ⟨due, lt_or_eq_of_level_le due (by omega) ge⟩
    · cases s with
      | false =>
        have le : (a.quanta : Int) ≤ sum := later.le
        obtain ⟨due, above, ge⟩ := ofSigned_of_pos pos le
        exact ⟨due, lt_or_eq_of_level_le due (by omega) ge⟩
      | true =>
        obtain ⟨due, above, -⟩ := ofSigned_of_pos (m := .zero) pos (by simp [Magnitude.zero]; omega)
        refine ⟨due, lt_or_eq_of_level_le due (by omega) ?_⟩
        simp only [signed, if_true]
        omega

/-- From a finite time no pause leads to anything but a time. -/
theorem IsFinite.add_isTime (finite : x.IsFinite) (sign : y.IsNonneg) : (x + y).IsTime := by
  cases x with
  | infinite s => exact finite.elim
  | nan => exact finite.elim
  | finite s a =>
    cases y with
    | nan => exact sign.elim
    | infinite t => exact sign
    | finite t b =>
      obtain rfl : t = false := sign
      change (Binary64.add (.finite s a) (.finite false b)).IsTime
      unfold Binary64.add
      dsimp only
      have later : -(a.quanta : Int) ≤ signed s a + signed false b := by
        cases s <;> simp only [signed, Bool.false_eq_true, if_true, if_false] <;> omega
      split
      · exact trivial
      · next nonzero =>
        rcases Int.lt_or_gt_of_ne nonzero with neg | pos
        · exact (ofSigned_of_neg neg later).1.1
        · exact (ofSigned_of_pos (m := .zero) pos (by simp only [Magnitude.zero]; omega)).1.1

/-- **A positive pause leads to a later time or, lost in rounding, to the same one.** -/
theorem IsTime.add_cases (time : x.IsTime) (pos : 0 < y) :
    (x + y).IsDue ∧ (x < x + y ∨ x + y = x) := by
  have sign := isNonneg_of_pos pos
  cases x with
  | nan => exact time.elim
  | infinite s =>
    obtain rfl : s = false := time
    have same : infinite false + y = infinite false := by
      cases y with
      | nan => exact sign.elim
      | infinite t =>
        obtain rfl : t = false := sign
        rfl
      | finite t b => rfl
    rw [same]
    exact ⟨⟨rfl, Binary64.noConfusion⟩, .inr rfl⟩
  | finite s a =>
    cases y with
    | nan => exact sign.elim
    | infinite t =>
      obtain rfl : t = false := sign
      exact ⟨⟨rfl, Binary64.noConfusion⟩,
        .inl ((lt_iff_level Binary64.noConfusion Binary64.noConfusion).2
          (signed_lt_overflowQuanta s a))⟩
    | finite t b =>
      obtain ⟨m, eq, quanta⟩ := IsFinite.eq_finite_of_pos (x := .finite t b) trivial pos
      rw [eq]
      exact finite_add_cases s a quanta

end Binary64

open Binary64

/-- A clock that goes on to a time that it does not lie behind shows that time. -/
theorem laterOf_eq {time due : Binary64} (onward : time < due ∨ time = due) :
    laterOf time due = due := by
  rw [laterOf]
  rcases onward with later | rfl
  · rw [if_pos later]
  · split <;> rfl

theorem afterPause_of_le_zero {time seconds : Binary64} (none : seconds ≤ 0) :
    afterPause time seconds = time :=
  if_pos none

theorem afterPause_of_pos {time seconds : Binary64} (isTime : time.IsTime) (pos : 0 < seconds) :
    afterPause time seconds = time + seconds := by
  obtain ⟨-, later | same⟩ := isTime.add_cases pos
  · rw [afterPause, if_neg (not_le_zero_of_pos pos), laterOf_eq (.inl later)]
  · rw [afterPause, if_neg (not_le_zero_of_pos pos), laterOf_eq (.inr same.symm)]

end MotionEmulator
