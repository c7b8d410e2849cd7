import MotionEmulator.Emulator
import MotionEmulator.Proofs.Receiver.Snapshot

/-!
# What a frame changes

A frame changes the renderer and, if every device could be shown, the count of frames
(`frame_cases`). Devices whose axes are all sound can be shown at every time, and the renderer is
given the read-outs of all devices, in their order (`frame_sound`).
-/

namespace MotionEmulator

namespace Renderer

/-- The renderer after frames. -/
def renderedAll (r : Renderer) (frames : List Frame) : Renderer :=
  frames.foldl (fun r f => (r.render f).1) r

end Renderer

namespace Emulator

/-- **A frame changes the renderer and, if it succeeds, the count of frames.** -/
theorem frame_cases (e : Emulator) :
    ∃ renderer,
      (e.frame.result = .ok () ∧
          e.frame.state = { e with renderer, frameCount := e.frameCount + 1 }) ∨
        ∃ cause, e.frame.result = .error cause ∧ e.frame.state = { e with renderer } := by
  refine ⟨(renderAll e.time e.devices e.renderer).state, ?_⟩
  unfold frame Outcome.andThen Outcome.within
  cases h : (renderAll e.time e.devices e.renderer).result with
  | ok value => exact .inl ⟨rfl, rfl⟩
  | error cause => exact .inr ⟨cause, rfl, rfl⟩

theorem devices_frame (e : Emulator) : e.frame.state.devices = e.devices := by
  obtain ⟨renderer, ⟨-, eq⟩ | ⟨cause, -, eq⟩⟩ := e.frame_cases <;> rw [eq]

theorem settings_frame (e : Emulator) : e.frame.state.settings = e.settings := by
  obtain ⟨renderer, ⟨-, eq⟩ | ⟨cause, -, eq⟩⟩ := e.frame_cases <;> rw [eq]

theorem time_frame (e : Emulator) : e.frame.state.time = e.time := by
  obtain ⟨renderer, ⟨-, eq⟩ | ⟨cause, -, eq⟩⟩ := e.frame_cases <;> rw [eq]

theorem frameCount_frame {e : Emulator} (shown : e.frame.result = .ok ()) :
    e.frame.state.frameCount = e.frameCount + 1 := by
  obtain ⟨renderer, ⟨-, eq⟩ | ⟨cause, fault, -⟩⟩ := e.frame_cases
  · rw [eq]
  · rw [shown] at fault
    cases fault

theorem frameCount_frame_of_error {e : Emulator} {cause : Fault}
    (fault : e.frame.result = .error cause) : e.frame.state.frameCount = e.frameCount := by
  obtain ⟨renderer, ⟨shown, -⟩ | ⟨_, -, eq⟩⟩ := e.frame_cases
  · rw [fault] at shown
    cases shown
  · rw [eq]

end Emulator

/-- A device whose axes are all sound has a read-out at every time. -/
theorem Device.exists_frame {d : Device} (sound : d.receiver.Sound) (time : Binary64) :
    ∃ f, d.frame time = .ok f := by
  obtain ⟨snapshot, eq, -⟩ := sound.fractions (clock time)
  refine ⟨⟨time, d.name, snapshot, d.scale⟩, ?_⟩
  rw [Device.frame, Device.fractions, eq]
  rfl

namespace Emulator

/-- The renderer is given the read-outs of devices with sound axes, one by one. -/
theorem renderAll_sound {time : Binary64} {devices : List Device}
    (sound : ∀ d ∈ devices, d.receiver.Sound) (r : Renderer) :
    ∃ frames, devices.map (Device.frame · time) = frames.map .ok ∧
      (renderAll time devices r).result = .ok () ∧
      (renderAll time devices r).state = r.renderedAll frames := by
  induction devices generalizing r with
  | nil => exact ⟨[], rfl, rfl, rfl⟩
  | cons d rest ih =>
    obtain ⟨own, others⟩ := List.forall_mem_cons.1 sound
    obtain ⟨f, read⟩ := Device.exists_frame own time
    obtain ⟨frames, reads, result, state⟩ := ih others (r.render f).1
    refine ⟨f :: frames, ?_, ?_, ?_⟩
    · rw [List.map_cons, List.map_cons, read, reads]
    · simp only [renderAll, read]
      exact result
    · simp only [renderAll, read]
      exact state

/-- **Devices with sound axes are all shown.** -/
theorem frame_sound {e : Emulator} (sound : ∀ d ∈ e.devices, d.receiver.Sound) :
    ∃ frames, e.devices.map (Device.frame · e.time) = frames.map .ok ∧
      e.frame.result = .ok () ∧ e.frame.state.renderer = e.renderer.renderedAll frames := by
  obtain ⟨frames, reads, result, state⟩ := renderAll_sound sound e.renderer
  refine ⟨frames, reads, ?_⟩
  unfold frame Outcome.andThen Outcome.within
  dsimp only
  rw [result]
  exact ⟨rfl, state⟩

end Emulator

end MotionEmulator
