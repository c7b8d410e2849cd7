import MotionEmulator.Proofs.Service.Orderly

/-!
# The clock of a service

While pauses are numbers the clock of a service is `Timed`: it lies behind no timer. So a pause ends
exactly when it is over: a loop that sleeps goes on at the time that the pause leads to
(`sleep_cases`), and a timer that is taken out when a round begins is due at the time of that round
(`Timed.popDue`). Every turn keeps a service timed (`Goes.timed`).
-/

namespace MotionEmulator

namespace Service

open Binary64

variable {s t : Service} {made : List Entry} {who : Runner} {seconds : Binary64}

/-- The clock lies behind no timer. -/
structure Timed (s : Service) : Prop where
  time : s.emulator.time.IsTime
  due : Timers.AllDue s.timers
  heap : Timers.IsHeap s.timers
  onward : ∀ u ∈ s.timers, s.emulator.time < u.due ∨ s.emulator.time = u.due

/-- The pauses that a turn can make are numbers. -/
structure Paced (s : Service) : Prop where
  frames : ∀ seconds, s.emulator.settings.frameInterval = .ok seconds → seconds ≠ .nan
  loops : ∀ place r d seconds, s.HasTurn place → s.readers[place]? = some r →
    s.emulator.devices[r.device]? = some d →
    (r.loop.step d s.emulator.time).status = .asleep seconds → seconds ≠ .nan

theorem timed_start {e : Emulator} (time : e.time.IsTime) (limit : Option Int) :
    (start e limit).Timed where
  time := time
  due _ mem := absurd mem (Array.not_mem_empty _)
  heap := Timers.isHeap_empty
  onward _ mem := absurd mem (Array.not_mem_empty _)

theorem Timed.of_eq (timed : s.Timed) (time : t.emulator.time = s.emulator.time)
    (timers : t.timers = s.timers) : t.Timed where
  time := time ▸ timed.time
  due := timers ▸ timed.due
  heap := timers ▸ timed.heap
  onward := by
    rw [time, timers]
    exact timed.onward

/-! ## Pauses -/

/-- A pause sends a loop to the next round, where no time passes, or to the time after it. -/
theorem sleep_cases (time : s.emulator.time.IsTime) (number : seconds ≠ .nan) (who : Runner) :
    ((s.sleep who seconds).next = s.next ++ [.turn who] ∧
        (s.sleep who seconds).timers = s.timers ∧
        afterPause s.emulator.time seconds = s.emulator.time) ∨
      ((s.sleep who seconds).next = s.next ∧
        0 < seconds ∧
        ∃ order, (s.sleep who seconds).timers =
          s.timers.push ⟨afterPause s.emulator.time seconds, order, who⟩) := by
  unfold sleep
  split
  · next none => exact .inl ⟨rfl, rfl, afterPause_of_le_zero none⟩
  · next some =>
    have pos := pos_of_not_le_zero number some
    rw [afterPause_of_pos time pos]
    exact .inr ⟨rfl, pos, _, rfl⟩

theorem Timed.sleep (timed : s.Timed) (number : seconds ≠ .nan) (who : Runner) :
    (s.sleep who seconds).Timed := by
  rcases sleep_cases timed.time number who with ⟨-, timers, -⟩ | ⟨-, pos, order, timers⟩
  · exact timed.of_eq (congrArg Emulator.time (emulator_sleep ..)) timers
  · obtain ⟨due, onward⟩ := timed.time.add_cases pos
    rw [afterPause_of_pos timed.time pos] at timers
    constructor
    · rw [emulator_sleep]
      exact timed.time
    · rw [timers]
      exact Timers.allDue_push timed.due due
    · rw [timers]
      exact Timers.isHeap_push timed.due timed.heap due
    · intro u mem
      rw [timers, ← Array.mem_toList_iff, (Timers.push_perm _ _).mem_iff] at mem
      rw [emulator_sleep]
      rcases List.mem_cons.1 mem with rfl | old
      · exact onward.imp_right Eq.symm
      · exact timed.onward u (Array.mem_toList_iff.1 old)

/-! ## Rounds -/

/-- Time goes on to the first timer, and only if nothing else is ready. -/
theorem Timed.roundTime (timed : s.Timed) :
    s.roundTime.IsTime ∧ (s.next ≠ [] → s.roundTime = s.emulator.time) ∧
      ∀ u ∈ s.timers, s.roundTime < u.due ∨ s.roundTime = u.due := by
  unfold Service.roundTime
  split
  · next first none found =>
    have mem : first ∈ s.timers := Array.mem_of_getElem? found
    rw [laterOf_eq (timed.onward first mem)]
    refine ⟨(timed.due first mem).1, fun some => absurd none some, fun u other => ?_⟩
    have le := timed.heap.first_le found other
    have due := timed.due first mem
    have due' := timed.due u other
    rcases Int.lt_or_eq_of_le le with lt | eq
    · exact .inl ((lt_iff_level due.ne_nan due'.ne_nan).2 lt)
    · exact .inr (due.eq_of_level due' eq)
  · exact ⟨timed.time, fun _ => rfl, timed.onward⟩

/-- A timer that is taken out at a time that lies behind none is due then. -/
theorem Timed.popDue (timed : s.Timed) :
    (∀ u ∈ (s.timers.popDue s.roundTime).2, u ∈ s.timers) ∧
      ∀ who ∈ (s.timers.popDue s.roundTime).1,
        ∃ u ∈ s.timers, u.owner = who ∧ u.due = s.roundTime := by
  obtain ⟨-, -, onward⟩ := timed.roundTime
  obtain ⟨taken, owners, perm, due⟩ := Timers.popDue_perm s.timers s.roundTime
  refine ⟨fun u mem => ?_, fun who mem => ?_⟩
  · have mem' := perm.mem_iff.1 (List.mem_append_right _ (Array.mem_toList_iff.2 mem))
    exact Array.mem_toList_iff.1 mem'
  · rw [owners] at mem
    obtain ⟨u, mem', rfl⟩ := List.mem_map.1 mem
    have set : u ∈ s.timers :=
      Array.mem_toList_iff.1 (perm.mem_iff.1 (List.mem_append_left _ mem'))
    exact ⟨u, set, rfl, ((onward u set).resolve_left (due u mem')).symm⟩

theorem Timed.beginRound (timed : s.Timed) : s.beginRound.Timed := by
  obtain ⟨time, -, onward⟩ := timed.roundTime
  obtain ⟨kept, -⟩ := timed.popDue
  rw [beginRound_eq]
  exact ⟨time, fun u mem => timed.due u (kept u mem),
    Timers.isHeap_popDue timed.due timed.heap _, fun u mem => onward u (kept u mem)⟩

/-- **Every turn keeps the clock behind no timer.** -/
theorem Goes.timed (goes : Goes s t made) (timed : s.Timed) (paced : s.Paced) : t.Timed := by
  cases goes with
  | @shown rest seconds head going free frame interval =>
    rw [s.emulator.settings_frame] at interval
    have framed : ({ s.framed with round := rest, shown := s.shown + 1 } : Service).Timed :=
      timed.of_eq s.emulator.time_frame rfl
    exact framed.sleep (paced.frames seconds interval) .frames
  | idle => exact timed.of_eq rfl rfl
  | running => exact timed.of_eq rfl rfl
  | @asleep rest place r d seconds head reader device status =>
    have stepped : ({ s.stepped place r (r.loop.step d s.emulator.time) with
        round := rest } : Service).Timed :=
      timed.of_eq rfl rfl
    exact stepped.sleep (paced.loops place r d seconds ⟨rest, head⟩ reader device status) _
  | ended => exact timed.of_eq rfl rfl
  | alarm => exact timed.of_eq rfl rfl
  | began => exact timed.beginRound

end Service

end MotionEmulator
