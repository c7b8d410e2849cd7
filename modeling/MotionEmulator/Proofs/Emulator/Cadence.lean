import Mathlib.Algebra.Order.Floor.Div
import MotionEmulator.Proofs.Emulator.Frames

/-!
# The cadence of a logging renderer

A logging renderer counts the frames of every device name on its own (`counts_renderedAll`), so
what it does with a frame is decided by the number of earlier frames of that name and by nothing
else. It reports the first of every `N` frames of a name, where `N` is at least one whatever number
it was given: of `n` frames it has then reported `n / N`, rounded up (`every_keeps_cadence`).
-/

namespace MotionEmulator

/-- The number of frames of a device name. -/
def framesOf (device : String) (frames : List Frame) : Nat :=
  frames.countP (·.device = device)

theorem framesOf_concat (device : String) (frames : List Frame) (f : Frame) :
    framesOf device (frames ++ [f]) =
      framesOf device frames + if f.device = device then 1 else 0 := by
  rw [framesOf, List.countP_append, List.countP_singleton]
  simp only [decide_eq_true_eq]
  rfl

/-- One more frame of a name leaves the numbers of all others as they are. -/
theorem frameCountOf_countFrame (counts : List (String × Nat)) (device other : String) :
    frameCountOf (countFrame counts device) other =
      frameCountOf counts other + if device = other then 1 else 0 := by
  unfold frameCountOf
  induction counts with
  | nil =>
    by_cases own : device = other
    · simp [countFrame, own]
    · simp [countFrame, own]
  | cons entry rest ih =>
    by_cases first : entry.1 = device
    · by_cases own : device = other
      · simp [countFrame, first, own]
      · simp [countFrame, first, own]
    · by_cases found : entry.1 = other
      · have apart : other ≠ device := fun eq => first (found.trans eq)
        simp [countFrame, found, apart, apart.symm]
      · simpa [countFrame, first, found] using ih

/-- Of one number more, one multiple more lies below it if it is a multiple itself. -/
theorem ceilDiv_succ (n : Nat) {N : Nat} (pos : 0 < N) :
    (n + 1) ⌈/⌉ N = n ⌈/⌉ N + if n % N = 0 then 1 else 0 := by
  have step : n + N - 1 + 1 = n + N := by omega
  have step' : n + 1 + N - 1 = n + N := by omega
  rw [Nat.ceilDiv_eq_add_pred_div, Nat.ceilDiv_eq_add_pred_div, step', ← step, Nat.succ_div, step]
  simp only [Nat.dvd_iff_mod_eq_zero, Nat.add_mod_right]

namespace Renderer

/-- What a renderer reports of frames that it is shown one after the other. -/
def reports (r : Renderer) : List Frame → List Entry
  | [] => []
  | f :: rest => (r.render f).2 ++ (r.render f).1.reports rest

theorem renderedAll_concat (r : Renderer) (frames : List Frame) (f : Frame) :
    r.renderedAll (frames ++ [f]) = ((r.renderedAll frames).render f).1 := by
  rw [renderedAll, List.foldl_append]
  rfl

theorem reports_concat (r : Renderer) (frames : List Frame) (f : Frame) :
    r.reports (frames ++ [f]) = r.reports frames ++ ((r.renderedAll frames).render f).2 := by
  induction frames generalizing r with
  | nil => exact List.append_nil _
  | cons first rest ih =>
    rw [List.cons_append, reports, reports, ih, List.append_assoc]
    rfl

/-- **A logging renderer counts the frames of each name apart.** -/
theorem counts_renderedAll (n : Int) (frames : List Frame) :
    ∃ counts, (every n).renderedAll frames = .logging (max 1 n).toNat counts ∧
      ∀ device, frameCountOf counts device = framesOf device frames := by
  induction frames using List.reverseRecOn with
  | nil => exact ⟨[], rfl, fun _ => rfl⟩
  | append_singleton frames f ih =>
    obtain ⟨counts, eq, counted⟩ := ih
    refine ⟨countFrame counts f.device, ?_, fun device => ?_⟩
    · rw [renderedAll_concat, eq]
      rfl
    · rw [frameCountOf_countFrame, framesOf_concat, counted]

/-- What a renderer reports of a frame depends on the earlier frames of its device name only. -/
theorem render_every (n : Int) (shown : List Frame) (f : Frame) :
    (((every n).renderedAll shown).render f).2 =
      if framesOf f.device shown % (max 1 n).toNat = 0 then [entryOf f] else [] := by
  obtain ⟨counts, eq, counted⟩ := counts_renderedAll n shown
  rw [eq, ← counted]
  rfl

/-- The number of reports of a device name among entries. -/
def reportsOf (device : String) (entries : List Entry) : Nat :=
  entries.countP fun e => e.level = .axis ∧ e.message = device

theorem reportsOf_entryOf (device : String) (f : Frame) :
    reportsOf device [entryOf f] = if f.device = device then 1 else 0 := by
  rw [reportsOf, List.countP_singleton]
  simp [entryOf]

/-- **The cadence of a logging renderer.** Whatever frames of whatever devices it has been shown, it
reports the next frame of a device if the number of earlier ones of that device is a multiple of
`N`, and then once; so of `n` frames of a device it has reported `n / N`, rounded up. -/
theorem every_keeps_cadence (n : Int) (shown : List Frame) :
    (∀ f, (((every n).renderedAll shown).render f).2 =
        if framesOf f.device shown % (max 1 n).toNat = 0 then [entryOf f] else []) ∧
      ∀ device, reportsOf device ((every n).reports shown) =
        framesOf device shown ⌈/⌉ (max 1 n).toNat := by
  refine ⟨render_every n shown, fun device => ?_⟩
  have pos : 0 < (max 1 n).toNat := by omega
  induction shown using List.reverseRecOn with
  | nil => exact (zero_ceilDiv _).symm
  | append_singleton shown f ih =>
    rw [reports_concat, render_every, reportsOf, List.countP_append, ← reportsOf, ih,
      framesOf_concat]
    by_cases own : f.device = device
    · rw [if_pos own, own, ceilDiv_succ _ pos]
      split
      · rw [← reportsOf, reportsOf_entryOf, if_pos own]
      · rfl
    · rw [if_neg own]
      split
      · rw [← reportsOf, reportsOf_entryOf, if_neg own]
        rfl
      · rfl

/-- Two devices in turn, each frame of one among two of the other, every second one reported. -/
example :
    let f (device : String) : Frame := ⟨0, device, PerChannel.ofFn fun _ => 0, PerChannel.ofFn
      fun _ => 1⟩
    ((every 2).reports [f "a", f "b", f "b", f "a", f "b", f "b", f "a"]).map Entry.message =
      ["a", "b", "b", "a"] := by
  decide +kernel

end Renderer

end MotionEmulator
