import MotionEmulator.Proofs.Service.Closing

/-!
# How many frames a service shows

While a service with a limit goes on, it has shown no more frames than that (`Counts`). The last
frame, shown once every read loop is over, is not counted against the limit: a service `Overruns`
where the frame loop has its turn with as many frames shown as there may be and finds every read
loop over. `serve_exceeds_iff` says that no other service shows more than its limit, and by how
much this one does.
-/

namespace MotionEmulator

namespace Service

variable {s t : Service} {made : List Entry} {past : List Service} {turn : Turn} {e : Emulator}
  {n : Nat}

/-- As many frames have been shown as there may be, and one more is. -/
structure Overruns (s : Service) : Prop where
  head : ∃ rest, s.round = .turn .frames :: rest
  allOver : s.allOver = true
  reached : s.isLimitReached = true
  frame : s.emulator.frame.result = .ok ()

/-- What a service that goes on has shown of its limit. -/
structure Counts (e : Emulator) (n : Nat) (s : Service) : Prop where
  limit : s.limit = some (n : Int)
  shown : s.shown ≤ n
  count : s.emulator.frameCount = e.frameCount + s.shown

theorem isLimitReached_iff (limit : s.limit = some (n : Int)) :
    s.isLimitReached = true ↔ n ≤ s.shown := by
  rw [isLimitReached, limit, Option.any_some, decide_eq_true_iff]
  exact Int.ofNat_le

theorem counts_start (e : Emulator) (n : Nat) : Counts e n (start e (some n)) :=
  ⟨rfl, Nat.zero_le n, rfl⟩

/-- Only a turn of the frame loop shows a frame, and only below the limit. -/
theorem Goes.counts (goes : Goes s t made) (counts : Counts e n s) : Counts e n t := by
  obtain ⟨limit, shown, count⟩ := counts
  have limit' := goes.limit.trans limit
  cases goes with
  | @shown rest seconds head going free frame interval =>
    have below : ¬ n ≤ s.shown := fun reached =>
      Bool.false_ne_true (free.symm.trans ((isLimitReached_iff limit).2 reached))
    refine ⟨limit', ?_, ?_⟩
    · rw [shown_sleep]
      change s.shown + 1 ≤ n
      omega
    · rw [emulator_sleep, shown_sleep]
      change s.emulator.frame.state.frameCount = e.frameCount + (s.shown + 1)
      rw [Emulator.frameCount_frame frame, count]
      rfl
  | idle => exact ⟨limit', shown, count⟩
  | running => exact ⟨limit', shown, count⟩
  | asleep =>
    refine ⟨limit', ?_, ?_⟩
    · rw [shown_sleep]
      exact shown
    · rw [emulator_sleep, shown_sleep]
      exact count
  | ended => exact ⟨limit', shown, count⟩
  | alarm => exact ⟨limit', shown, count⟩
  | began => exact ⟨limit', shown, count⟩

theorem Reaches.counts (way : Reaches (Service.start e (some n)) past t) :
    Counts e n t ∧ t.Orderly :=
  way.keeps (fun _ t => Counts e n t ∧ t.Orderly)
    ⟨counts_start e n, orderly_start e (some n)⟩
    fun _ _ _ _ goes old => ⟨goes.counts old.1, goes.orderly old.2⟩

theorem frameCount_finish (seated : s.Seated) {entries : List Entry} {result : Except Fault Unit}
    (readers : t.readers = s.readers) (devices : t.emulator.devices = s.emulator.devices) :
    (t.finish entries result).service.emulator.frameCount = t.emulator.frameCount := by
  have seated' : t.Seated := seated.of_eq (by rw [readers]) (by rw [devices])
  rw [emulator_finish seated']

/-- The last turn shows no frame, or one below the limit, or the service overruns the limit. -/
theorem Ends.frameCount_cases (ends : Ends s turn) (seated : s.Seated) :
    (¬ s.Overruns ∧ turn.service.emulator.frameCount = s.emulator.frameCount) ∨
      (s.isLimitReached = false ∧
        turn.service.emulator.frameCount = s.emulator.frameCount + 1) ∨
      (s.Overruns ∧ turn.service.emulator.frameCount = s.emulator.frameCount + 1) := by
  have devices := s.emulator.devices_frame
  cases ends with
  | limited head going =>
    refine .inl ⟨fun overruns => ?_, frameCount_finish seated rfl rfl⟩
    exact Bool.false_ne_true (going.symm.trans overruns.allOver)
  | unshown head due frame =>
    have same := Emulator.frameCount_frame_of_error frame
    refine .inl ⟨fun overruns => ?_, Eq.trans (frameCount_finish seated rfl devices) same⟩
    cases frame.symm.trans overruns.frame
  | @lastShown rest head allOver frame =>
    have one_more := Emulator.frameCount_frame frame
    cases reached : s.isLimitReached with
    | false => exact .inr (.inl ⟨rfl, Eq.trans (frameCount_finish seated rfl devices) one_more⟩)
    | true =>
      refine .inr (.inr ⟨⟨⟨rest, head⟩, allOver, reached, frame⟩, ?_⟩)
      exact Eq.trans (frameCount_finish seated rfl devices) one_more
  | unpaused head going free frame =>
    have one_more := Emulator.frameCount_frame frame
    exact .inr (.inl ⟨free, Eq.trans (frameCount_finish seated rfl devices) one_more⟩)
  | deserted empty =>
    refine .inl ⟨fun overruns => ?_, frameCount_finish seated rfl rfl⟩
    obtain ⟨rest, head⟩ := overruns.head
    cases empty.symm.trans head

/-- **A service stays within its limit or overruns it, by one frame.** -/
theorem Reaches.frameCount_last (way : Reaches (Service.start e (some n)) past t)
    (ends : Ends t turn) :
    (¬ t.Overruns ∧ turn.service.emulator.frameCount ≤ e.frameCount + n) ∨
      (t.Overruns ∧ turn.service.emulator.frameCount = e.frameCount + n + 1) := by
  obtain ⟨⟨limit, shown, count⟩, orderly⟩ := way.counts
  have reached_iff := isLimitReached_iff limit
  rcases ends.frameCount_cases orderly.toSeated with
    ⟨within, same⟩ | ⟨free, one_more⟩ | ⟨overruns, one_more⟩
  · exact .inl ⟨within, by omega⟩
  · rw [← Bool.not_eq_true, reached_iff] at free
    refine .inl ⟨fun overruns => free (reached_iff.1 overruns.reached), by omega⟩
  · have full := reached_iff.1 overruns.reached
    exact .inr ⟨overruns, by omega⟩

/-- A service that overruns its limit ends with the next turn. -/
theorem Overruns.exists_result (overruns : s.Overruns) :
    ∃ result, s.step.result = some result := by
  obtain ⟨⟨rest, head⟩, allOver, -, -⟩ := overruns
  refine Option.ne_none_iff_exists'.1 fun going => ?_
  have goes := goes_of_result going
  generalize s.step.service = t, s.step.entries = made at goes
  cases goes with
  | shown _ going => exact Bool.false_ne_true (going.symm.trans allOver)
  | idle head' => cases head.symm.trans head'
  | running head' => cases head.symm.trans head'
  | asleep head' => cases head.symm.trans head'
  | ended head' => cases head.symm.trans head'
  | alarm head' => cases head.symm.trans head'
  | began empty => cases head.symm.trans empty

end Service

open Service

/-- **A limited service shows more frames than its limit exactly where it overruns it, and then one
more.** -/
theorem Emulator.serve_exceeds_iff (e : Emulator) (n : Nat) :
    (∀ fuel, (e.serve (some n) fuel).state.frameCount ≤ e.frameCount + n + 1) ∧
      ((∀ fuel, (e.serve (some n) fuel).state.frameCount ≤ e.frameCount + n) ↔
        ∀ past s, Reaches (start e (some n)) past s → ¬ s.Overruns) := by
  have bound (fuel : Nat) :
      (e.serve (some n) fuel).state.frameCount ≤ e.frameCount + n ∨
        (e.serve (some n) fuel).state.frameCount = e.frameCount + n + 1 ∧
          ∃ past s, Reaches (start e (some n)) past s ∧ s.Overruns := by
    obtain ⟨t, past, way, ⟨-, state⟩ | ⟨result, ended, -, state, -⟩⟩ :=
      e.serve_cases (some n) fuel
    · obtain ⟨⟨-, shown, count⟩, -⟩ := way.counts
      rw [state, count]
      exact .inl (by omega)
    · rw [state]
      rcases way.frameCount_last (ends_of_result ended) with ⟨-, within⟩ | ⟨overruns, exceeds⟩
      · exact .inl within
      · exact .inr ⟨exceeds, past, t, way, overruns⟩
  refine ⟨fun fuel => ?_, fun within past s way overruns => ?_, fun never fuel => ?_⟩
  · rcases bound fuel with within | ⟨exceeds, -⟩ <;> omega
  · obtain ⟨result, ended⟩ := overruns.exists_result
    obtain ⟨fuel, -, state⟩ := way.serve_eq ended
    have within' := within fuel
    rw [state] at within'
    rcases way.frameCount_last (ends_of_result ended) with ⟨not, -⟩ | ⟨-, exceeds⟩
    · exact not overruns
    · omega
  · rcases bound fuel with within | ⟨-, past, s, way, overruns⟩
    · exact within
    · exact absurd overruns (never past s way)

/-- Limited to one frame, a service shows two where its one stream ends within the first pause. -/
theorem Emulator.serve_one_shows_two :
    ∃ (e : Emulator) (fuel : Nat), (e.serve (some 1) fuel).result = .ok (some ()) ∧
      (e.serve (some 1) fuel).state.frameCount = e.frameCount + 2 :=
  ⟨(Emulator.fresh {} (.recording #[]) 0).attachDevice 0
    (.scripted { scripted := [['L', '0', '5', '\n']] }), 12, by decide +kernel⟩

end MotionEmulator
