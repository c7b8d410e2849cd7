import MotionEmulator.Proofs.Binary64.Order
import MotionEmulator.Startup

/-!
# The settings of a run

`Settings.Sound` is what an emulator relies on: a device at least, a positive frame rate, a
positive speed period, and with them a positive interval between frames. The environment's
settings are checked (`Settings.check_eq_ok_iff`), but the check lets NaN pass, an infinite frame
rate has an interval of zero, and a frame rate from the command line comes after the check.
`Startup.sound_settings_iff` says that nothing else can go wrong: the devices always suffice, and
of the settings that are made exactly those are sound whose frame rate is finite, was not given as
a number that is not positive, and whose period is a number.
-/

namespace MotionEmulator

namespace Binary64

variable {x : Binary64}

theorem ne_nan_of_pos (pos : 0 < x) : x ≠ .nan := by
  rintro rfl
  exact isNonneg_of_pos pos

/-- **The inverse of a positive finite number is positive.** It does not vanish in rounding, as
the largest number is far below the inverse of the least one. -/
theorem exists_inverse (finite : x.IsFinite) (pos : 0 < x) :
    ∃ y, Binary64.over 1 x = .ok y ∧ 0 < y := by
  obtain ⟨m, rfl, quanta⟩ := finite.eq_finite_of_pos pos
  refine ⟨_, over_eq_ok quanta 1, ?_⟩
  have unit : (1 : Binary64) = .finite false (wholeMagnitude 1 (by decide)) := ofInt_natCast _
  have least : Magnitude.least.quanta * m.quanta ≤ 1 * one * one := by
    have inRange := m.inRange
    have large : overflowQuanta ≤ 1 * one * one := by
      unfold overflowQuanta one
      rw [Nat.one_mul, ← twoPow_add]
      exact Nat.le_of_lt (twoPow_lt (by decide))
    exact (Nat.one_mul _).trans_le (inRange.le.trans large)
  have value : (1 : Binary64) / .finite false m = ofQuanta false (1 * one * one) m.quanta := by
    rw [unit]
    exact if_neg (Nat.pos_iff_ne_zero.1 quanta)
  rw [value, zero_eq]
  rcases le_ofQuanta false quanta least with infinite | ⟨n, finite, large⟩
  · rw [infinite]
    exact decide_eq_true (Int.natCast_pos.2 overflowQuanta_pos)
  · rw [finite]
    exact decide_eq_true (Int.natCast_pos.2 large)

end Binary64

namespace Settings

/-- What an emulator relies on. -/
structure Sound (s : Settings) : Prop where
  devices : 1 ≤ s.deviceCount
  rate : 0 < s.frameRate
  period : 0 < s.period
  interval : ∃ seconds, s.frameInterval = .ok seconds ∧ 0 < seconds

variable {s t : Settings}

/-- The check refuses numbers up to zero. NaN is not among them. -/
theorem check_eq_ok_iff :
    s.check = .ok t ↔
      ¬ s.period ≤ 0 ∧ 1 ≤ s.deviceCount ∧ ¬ s.frameRate ≤ 0 ∧ t = s := by
  unfold check checkPeriod
  by_cases period : s.period ≤ 0
  · simp [period, bind, Except.bind]
  by_cases devices : s.deviceCount < 1
  · simp [period, devices, bind, Except.bind]
  by_cases rate : s.frameRate ≤ 0
  · simp [period, devices, rate, bind, Except.bind]
  · have some : 1 ≤ s.deviceCount := by omega
    simp [period, devices, rate, some, bind, Except.bind, eq_comm]

/-- An infinite frame rate leaves no time between frames. -/
theorem frameInterval_of_infinite (infinite : s.frameRate = .infinite false) :
    s.frameInterval = .ok 0 := by
  rw [frameInterval, infinite]
  decide +kernel

end Settings

namespace Startup

open Binary64

variable {a : Arguments} {env : Environment} {s : Settings}

/-- What the settings of a run are made of: checked ones of the environment, with the command
line put over them. -/
theorem settings_eq_ok (made : settings a env = .ok s) :
    ∃ base : Settings, s = a.applyTo base ∧ ¬ base.period ≤ 0 ∧ 1 ≤ base.deviceCount ∧
      ¬ base.frameRate ≤ 0 := by
  unfold settings at made
  cases checked : env.settings with
  | error cause =>
    rw [checked] at made
    cases made
  | ok base =>
    rw [checked] at made
    obtain ⟨period, devices, rate, rfl⟩ := Settings.check_eq_ok_iff.1 checked
    exact ⟨_, (Except.ok.inj made).symm, period, devices, rate⟩

/-- **Which settings of a run are sound.** The settings that are made have a device and one for
each port. Whether an emulator can rely on the rest depends on numbers that are let pass: those
settings are sound whose frame rate, if the command line gives one, is positive, and is finite,
and whose speed period is not NaN. -/
theorem sound_settings_iff (made : settings a env = .ok s) :
    1 ≤ s.deviceCount ∧ (a.ports.length : Int) ≤ s.deviceCount ∧
      (s.Sound ↔ (∀ rate, a.fps = some rate → 0 < rate) ∧ s.frameRate.IsFinite ∧
        s.period ≠ .nan) := by
  obtain ⟨base, rfl, period, devices, rate⟩ := settings_eq_ok made
  have enough : 1 ≤ (a.applyTo base).deviceCount := le_max_of_le_left devices
  refine ⟨enough, le_max_right _ _, ?_, ?_⟩
  · intro sound
    refine ⟨?_, ?_, ne_nan_of_pos sound.period⟩
    · intro given eq
      have pos := sound.rate
      rw [Arguments.applyTo, eq] at pos
      exact pos
    · have pos := sound.rate
      cases value : (a.applyTo base).frameRate with
      | finite sign m => exact trivial
      | nan => exact absurd value (ne_nan_of_pos pos)
      | infinite sign =>
        obtain rfl : sign = false := by
          rw [value] at pos
          exact isNonneg_of_pos pos
        obtain ⟨seconds, eq, later⟩ := sound.interval
        rw [Settings.frameInterval_of_infinite value] at eq
        cases eq
        exact absurd later (by decide +kernel)
  · rintro ⟨given, finite, number⟩
    have pos : 0 < (a.applyTo base).frameRate := by
      cases asked : a.fps with
      | some given' =>
        have same : (a.applyTo base).frameRate = given' := by rw [Arguments.applyTo, asked]; rfl
        rw [same]
        exact given given' asked
      | none =>
        have same : (a.applyTo base).frameRate = base.frameRate := by
          rw [Arguments.applyTo, asked]
          rfl
        rw [same] at finite ⊢
        exact pos_of_not_le_zero finite.isTime.ne_nan rate
    exact ⟨enough, pos, pos_of_not_le_zero number period, exists_inverse finite pos⟩

/-- A frame rate from the command line, with more ports than the environment has devices. -/
theorem sound_settings_iff_three_ports :
    ∃ s : Settings,
      settings { ports := ["mock", "mock", "mock"], fps := some 24 } {} = .ok s ∧
        3 ≤ s.deviceCount ∧ s.Sound := by
  have made : settings { ports := ["mock", "mock", "mock"], fps := some 24 } {} =
      .ok { deviceCount := 3, frameRate := 24 } := by
    decide +kernel
  obtain ⟨-, ports, sound⟩ := sound_settings_iff made
  refine ⟨_, made, ports, sound.2 ⟨?_, ?_, ?_⟩⟩
  · rintro rate ⟨⟩
    decide +kernel
  · decide +kernel
  · decide +kernel

/-- Not all settings that the command line makes are sound: it may set the frame rate to zero. -/
theorem zero_rate_is_taken :
    ¬ ∀ words a env s, Arguments.read words = .ok a → settings a env = .ok s → s.Sound := by
  intro all
  have read : Arguments.read ["mock", "--fps", "0"] =
      .ok { ports := ["mock"], fps := some 0 } := by
    decide +kernel
  have made : settings { ports := ["mock"], fps := some 0 } {} = .ok { frameRate := 0 } := by
    decide +kernel
  have sound := all _ _ {} _ read made
  exact absurd sound.rate (by decide +kernel)

end Startup

end MotionEmulator
