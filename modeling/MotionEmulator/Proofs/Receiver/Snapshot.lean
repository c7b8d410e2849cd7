import MotionEmulator.Proofs.Receiver.Stream

/-!
# Snapshots

A snapshot is the read-out of all channels at one time. `Receiver.Unbreakable period` says that
nothing which is written to a fresh receiver with that speed period ever faults and that every
snapshot of it holds a fraction from zero to one for each channel.

The check of a speed period lets NaN and infinity pass. `unbreakable_iff_isFinite` says what
follows: of the periods that pass, exactly the finite ones are unbreakable. A period that is NaN
breaks the first snapshot of a move by speed (`nan_period_breaks`), an infinite one breaks the
snapshot at an infinite time.
-/

namespace MotionEmulator

open Binary64

/-- A position is a fraction of the whole range. -/
theorem Position.fraction_bounds {p : Int} (nonneg : 0 ≤ p) (le : p ≤ top) :
    0 ≤ fraction p ∧ fraction p ≤ 1 := by
  obtain ⟨n, rfl⟩ := Int.eq_ofNat_of_zero_le nonneg
  have small : n ≤ 9999 := Int.ofNat_le.1 le
  have dividend : ofInt n = .finite false (wholeMagnitude n (small.trans (by decide))) :=
    ofInt_natCast _
  have divisor : ofInt top = .finite false (wholeMagnitude 9999 (by decide)) :=
    ofInt_natCast _
  have one_eq : (1 : Binary64) = .finite false (wholeMagnitude 1 (by decide)) :=
    ofInt_natCast _
  have part : n * one * one ≤ (wholeMagnitude 1 (by decide)).quanta * (9999 * one) := by
    calc n * one * one ≤ 9999 * one * one := by gcongr
      _ = 1 * one * (9999 * one) := by ring
  obtain ⟨m, eq, le_one⟩ := ofQuanta_le false part
  have value : fraction n = .finite false m := by
    rw [fraction, dividend, divisor, ← eq]
    exact if_neg (Nat.mul_ne_zero (by decide : 9999 ≠ 0) Binary64.one_pos.ne')
  rw [value, zero_eq, one_eq]
  exact ⟨finite_le_finite (Nat.zero_le _), finite_le_finite le_one⟩

/-- A period that is let pass and is finite is positive. -/
theorem pos_of_checkPeriod {period : Binary64} (accepted : checkPeriod period = .ok period)
    (finite : period.IsFinite) : 0 < period := by
  unfold checkPeriod at accepted
  split at accepted
  · cases accepted
  · next not_le =>
    cases period with
    | infinite s => exact finite.elim
    | nan => exact finite.elim
    | finite s m =>
      rw [zero_eq] at not_le ⊢
      refine decide_eq_true (Int.not_le.1 fun le => not_le ?_)
      exact decide_eq_true le

/-- A period that is let pass is finite, positive infinity or NaN. -/
theorem isFinite_or_of_checkPeriod {period : Binary64}
    (accepted : checkPeriod period = .ok period) :
    period.IsFinite ∨ period = .infinite false ∨ period = .nan := by
  cases period with
  | finite s m => exact .inl trivial
  | nan => exact .inr (.inr rfl)
  | infinite s =>
    cases s with
    | false => exact .inr (.inl rfl)
    | true => exact absurd accepted (by decide +kernel)

namespace Receiver

/-- The snapshot of a receiver with sound axes. -/
theorem Sound.fractions {r : Receiver} (sound : r.Sound) (now : Binary64) :
    ∃ snapshot, r.fractions now = .ok snapshot ∧
      ∀ c, 0 ≤ snapshot.get c ∧ snapshot.get c ≤ 1 := by
  have each (c : Channel) : ∃ x, (r.axes.get c).fraction now = .ok x ∧ 0 ≤ x ∧ x ≤ 1 := by
    obtain ⟨p, resolved, -⟩ := (sound.axes c).resolved now
    obtain ⟨nonneg, le⟩ := (sound.axes c).resolved_mem resolved
    refine ⟨Position.fraction p, ?_, Position.fraction_bounds nonneg le⟩
    rw [Axis.fraction, resolved]
    rfl
  choose read read_eq bounds using each
  refine ⟨PerChannel.ofFn read, PerChannel.mapM_eq_ok fun c => ?_, fun c => ?_⟩
  · rw [PerChannel.get_ofFn]
    exact read_eq c
  · rw [PerChannel.get_ofFn]
    exact bounds c

/-- Whatever is written to a fresh receiver of this speed period, at whatever times, nothing
faults, and at every time each channel is read as a fraction from zero to one. -/
def Unbreakable (period : Binary64) : Prop :=
  ∀ (logged : Bool) (pieces : List Piece),
    ((fresh period logged).writeAll pieces).result = .ok () ∧
      ∀ now, ∃ snapshot,
        ((fresh period logged).writeAll pieces).state.fractions now = .ok snapshot ∧
          ∀ c, 0 ≤ snapshot.get c ∧ snapshot.get c ≤ 1

theorem unbreakable_of_isFinite {period : Binary64} (finite : period.IsFinite)
    (pos : 0 < period) : Unbreakable period := by
  intro logged pieces
  obtain ⟨eq, last⟩ := (sound_fresh finite pos logged).writeAll pieces
  rw [eq]
  exact ⟨rfl, fun now => last.fractions now⟩

/-- A stream of one line that starts a move by speed. -/
def speedLine : List Piece :=
  [⟨.text ['L', '0', '5', 'S', '1', '\n'], 0⟩]

/-- A snapshot that faults breaks a period. -/
theorem not_unbreakable {period now : Binary64} {pieces : List Piece} {cause : Fault}
    (fault : ((fresh period false).writeAll pieces).state.fractions now = .error cause) :
    ¬ Unbreakable period := by
  intro unbreakable
  obtain ⟨-, read⟩ := unbreakable false pieces
  obtain ⟨snapshot, eq, -⟩ := read now
  rw [fault] at eq
  cases eq

theorem not_unbreakable_nan : ¬ Unbreakable .nan := by
  have fault : ((fresh .nan false).writeAll speedLine).state.fractions 0 =
      .error (.nonFinite .nan) := by
    decide +kernel
  exact not_unbreakable fault

theorem not_unbreakable_infinite : ¬ Unbreakable (.infinite false) := by
  have fault :
      ((fresh (.infinite false) false).writeAll speedLine).state.fractions (.infinite false) =
        .error (.nonFinite .nan) := by
    decide +kernel
  exact not_unbreakable fault

/-- **Of the speed periods that are let pass, exactly the finite ones are unbreakable.** -/
theorem unbreakable_iff_isFinite {period : Binary64}
    (accepted : checkPeriod period = .ok period) : Unbreakable period ↔ period.IsFinite := by
  constructor
  · intro unbreakable
    rcases isFinite_or_of_checkPeriod accepted with finite | rfl | rfl
    · exact finite
    · exact absurd unbreakable not_unbreakable_infinite
    · exact absurd unbreakable not_unbreakable_nan
  · intro finite
    exact unbreakable_of_isFinite finite (pos_of_checkPeriod accepted finite)

theorem unbreakable_iff_isFinite_default :
    checkPeriod defaultPeriod = .ok defaultPeriod ∧
      (Unbreakable defaultPeriod ↔ defaultPeriod.IsFinite) := by
  have accepted : checkPeriod defaultPeriod = .ok defaultPeriod := by decide +kernel
  exact ⟨accepted, unbreakable_iff_isFinite accepted⟩

/-- Not every period that is let pass is unbreakable: with NaN as its period, the snapshot right
after a move by speed has begun is refused. -/
theorem nan_period_breaks :
    ¬ ∀ period, checkPeriod period = .ok period → Unbreakable period := by
  intro all
  exact not_unbreakable_nan (all .nan (by decide +kernel))

end Receiver

end MotionEmulator
