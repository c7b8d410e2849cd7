import MotionEmulator.Proofs.ReadLoop.Scripted
import MotionEmulator.Proofs.Service.Isolation

/-!
# What a service delivers

An emulator is `Ready` if each of its devices has sound axes and either no link or a fresh script,
and if its frame rate is positive and finite. `serve_relays` says what serving it leaves behind
(`Emulator.Relays`): each device was given the chunks that its own link counts as delivered, once
each and in the order of the script, whatever the limit and whatever the other devices are given.
Without a limit a device ends as it does when its loop is run alone, and the last thing shown is how
the devices are left.
-/

namespace MotionEmulator

open ReadLoop

/-- A positive and finite frame rate has a number as its interval. -/
theorem Settings.exists_frameInterval (s : Settings) (finite : s.frameRate.IsFinite)
    (pos : 0 < s.frameRate) : ∃ seconds, s.frameInterval = .ok seconds ∧ seconds ≠ .nan := by
  obtain ⟨m, rate, pos⟩ := Binary64.IsFinite.eq_finite_of_pos finite pos
  have one : (1 : Binary64).IsNonneg := Binary64.isNonneg_of_pos (by decide +kernel)
  obtain ⟨seconds, eq, nonneg⟩ := one.over pos
  refine ⟨seconds, ?_, ?_⟩
  · rw [Settings.frameInterval, rate, eq]
  · rintro rfl
    exact nonneg

namespace Emulator

/-- The devices of an emulator are at rest or in motion, and their links are fresh scripts. -/
structure Ready (e : Emulator) : Prop where
  time : e.time.IsTime
  rate_finite : e.settings.frameRate.IsFinite
  rate_pos : 0 < e.settings.frameRate
  sound : ∀ d ∈ e.devices, d.receiver.Sound
  links : ∀ d ∈ e.devices, d.attached = none ∨ ∃ place link,
    d.attached = some place ∧ d.links[place]? = some (.scripted link) ∧ link.IsFresh

/-- A new emulator with settings that it can run on is ready. -/
theorem ready_fresh {settings : Settings} (rate_finite : settings.frameRate.IsFinite)
    (rate_pos : 0 < settings.frameRate) (period_finite : settings.period.IsFinite)
    (period_pos : 0 < settings.period) {time : Binary64} (isTime : time.IsTime)
    (renderer : Renderer) : (fresh settings renderer time).Ready where
  time := isTime
  rate_finite := rate_finite
  rate_pos := rate_pos
  sound d mem := by
    obtain ⟨i, -, rfl⟩ := List.mem_map.1 mem
    exact Receiver.sound_fresh period_finite period_pos _
  links d mem := by
    obtain ⟨i, -, rfl⟩ := List.mem_map.1 mem
    exact .inl rfl

theorem exists_of_mem_attachDevice {e : Emulator} {i : Nat} {link : Link} {d : Device}
    (mem : d ∈ (e.attachDevice i link).devices) :
    ∃ d' ∈ e.devices, d = d' ∨ d = d'.attach link := by
  obtain ⟨j, found⟩ := List.mem_iff_getElem?.1 mem
  rw [attachDevice, List.getElem?_modify] at found
  obtain ⟨d', old, rfl⟩ := Option.map_eq_some_iff.1 found
  refine ⟨d', List.mem_of_getElem? old, ?_⟩
  split
  · exact .inr rfl
  · exact .inl rfl

/-- A ready emulator may be given fresh scripts. -/
theorem Ready.attach {e : Emulator} (ready : e.Ready) {link : ScriptedLink} (fresh : link.IsFresh)
    (i : Nat) : (e.attachDevice i (.scripted link)).Ready where
  time := ready.time
  rate_finite := ready.rate_finite
  rate_pos := ready.rate_pos
  sound d mem := by
    obtain ⟨d', old, rfl | rfl⟩ := exists_of_mem_attachDevice mem
    · exact ready.sound d old
    · exact ready.sound d' old
  links d mem := by
    obtain ⟨d', old, rfl | rfl⟩ := exists_of_mem_attachDevice mem
    · exact ready.links d old
    · exact .inr ⟨d'.links.length, link, rfl, List.getElem?_concat_length, fresh⟩

variable {e : Emulator} {i place : Nat} {d d₀ : Device} {link : ScriptedLink} {r₀ : Reader}
  {limit : Option Int} {fuel : Nat}

theorem Ready.interval (ready : e.Ready) :
    ∃ seconds, e.settings.frameInterval = .ok seconds ∧ seconds ≠ .nan :=
  e.settings.exists_frameInterval ready.rate_finite ready.rate_pos

theorem Ready.scripted (ready : e.Ready) (device : e.devices[i]? = some d₀)
    (attached : d₀.attached = some place) (found : d₀.links[place]? = some (.scripted link)) :
    Scripted d₀ place link where
  attached := attached
  found := found
  fresh := by
    rcases ready.links d₀ (List.mem_of_getElem? device) with
      free | ⟨place', link', attached', found', fresh⟩
    · cases attached.symm.trans free
    · cases attached.symm.trans attached'
      cases found.symm.trans found'
      exact fresh
  sound := ready.sound d₀ (List.mem_of_getElem? device)

/-- Every read loop of a ready emulator drains a fresh script. -/
theorem Ready.exists_scripted (ready : e.Ready) (mem : r₀ ∈ Service.readersOf e.devices)
    (device : e.devices[r₀.device]? = some d₀) :
    ∃ place link, r₀.loop = ofLink place .looking ∧ Scripted d₀ place link := by
  obtain ⟨i, d, place, device', -, attached, rfl⟩ := Service.mem_readersOf.1 mem
  cases device.symm.trans device'
  rcases ready.links d₀ (List.mem_of_getElem? device) with
    free | ⟨place', link, attached', found, fresh⟩
  · cases attached.symm.trans free
  · cases attached.symm.trans attached'
    exact ⟨place, link, rfl, ready.scripted device attached found⟩

/-- A device with a fresh script is connected, and so it is drained. -/
theorem exists_reader (device : e.devices[i]? = some d₀) (scripted : Scripted d₀ place link) :
    ∃ p : Nat, (Service.readersOf e.devices)[p]? = some (Service.readerAt i place) := by
  have connected : d₀.isConnected = true := by
    rw [Device.isConnected, Device.link?, scripted.attached, Option.bind_some, scripted.found]
    exact scripted.fresh.connected
  exact List.mem_iff_getElem?.1
    (Service.mem_readersOf.2 ⟨i, d₀, place, device, connected, scripted.attached, rfl⟩)

theorem Ready.paced (ready : e.Ready) : Service.PacedFrom e where
  frames seconds interval := by
    obtain ⟨seconds', eq, number⟩ := ready.interval
    cases interval.symm.trans eq
    exact number
  loops r₀ mem d₀ device d l time wrote seconds way status := by
    obtain ⟨place, link, loop, scripted⟩ := ready.exists_scripted mem device
    rw [loop] at way
    rw [way.seconds_eq scripted status]
    exact scripted.fresh.finite.isTime.ne_nan

end Emulator

namespace Service

open Emulator

variable {e : Emulator} {s : Service} {past : List Service} {turn : Turn} {i place : Nat}
  {d d₀ : Device} {link : ScriptedLink} {limit : Option Int}

/-- Every device of a service has sound axes at every time. -/
theorem Isolated.sound (isolated : Isolated e past s) (ready : e.Ready) :
    ∀ d ∈ s.emulator.devices, d.receiver.Sound := by
  intro d mem
  obtain ⟨i, device⟩ := List.mem_iff_getElem?.1 mem
  by_cases drained : i ∈ (readersOf e.devices).map Reader.device
  · obtain ⟨r₀, mem₀, rfl⟩ := List.mem_map.1 drained
    obtain ⟨p, reader₀⟩ := List.mem_iff_getElem?.1 mem₀
    obtain ⟨d₀, device₀⟩ : ∃ d₀, e.devices[r₀.device]? = some d₀ := by
      obtain ⟨i, d₀, k, device₀, -, -, rfl⟩ := mem_readersOf.1 mem₀
      exact ⟨d₀, device₀⟩
    obtain ⟨place, link, loop, scripted⟩ := ready.exists_scripted mem₀ device₀
    obtain ⟨r, d', -, -, device', state⟩ :=
      (isolated.follows p r₀ d₀ reader₀ device₀).cases isolated.orderly
    cases device.symm.trans device'
    rw [loop] at state
    have receiver : ∃ wrote, d.receiver = (d₀.receiver.writeAll wrote).state := by
      rcases state with ⟨-, result, finishes⟩ | ⟨-, time, way⟩
      · obtain ⟨-, played, -⟩ := finishes.played scripted
        exact ⟨_, (played.relayed scripted.inside).receiver⟩
      · exact ⟨_, ((way.plays scripted).relayed scripted.inside).receiver⟩
    obtain ⟨wrote, eq⟩ := receiver
    rw [eq]
    exact scripted.sound.state_writeAll wrote
  · rw [(isolated.unread i drained).1] at device
    exact ready.sound d (List.mem_of_getElem? device)

/-- A ready emulator ends without a fault. -/
theorem Ends.result_eq (ends : Ends s turn) (isolated : Isolated e past s) (ready : e.Ready) :
    turn.result = some (.ok ()) := by
  obtain ⟨frames, -, shown, -⟩ := frame_sound (isolated.sound ready)
  obtain ⟨seconds, interval, -⟩ := ready.interval
  exact ends.result_of_shown shown (isolated.settings ▸ interval)

/-- What was written to a device is what its link delivered, also if the loop is cancelled. -/
theorem Ends.relayed (ends : Ends s turn) (isolated : Isolated e past s)
    (device : e.devices[i]? = some d₀) (scripted : Scripted d₀ place link) :
    ∃ d, turn.service.emulator.devices[i]? = some d ∧
      Relayed d₀ d place link e.time (past.flatMap (·.writesTo i)) ∧
      (s.allOver = true → ∃ result, Finishes d₀ (ofLink place .looking) e.time result d
        (past.flatMap (·.writesTo i))) := by
  obtain ⟨p, reader⟩ := exists_reader device scripted
  obtain ⟨d, last, state⟩ := ends.follows isolated reader device
  refine ⟨d, last, ?_⟩
  change (∃ result, Finishes d₀ (ofLink place .looking) e.time result d
    (past.flatMap (·.writesTo i))) ∨ _ at state
  rcases state with ⟨result, finishes⟩ | ⟨going, before, l, time, way, rfl | rfl⟩
  · obtain ⟨-, played, all⟩ := finishes.played scripted
    rw [all]
    refine ⟨played.relayed scripted.inside, fun _ => ⟨result, all ▸ finishes⟩⟩
  · refine ⟨(way.plays scripted).relayed scripted.inside, fun allOver => ?_⟩
    cases going.symm.trans allOver
  · refine ⟨(way.plays scripted).relayed_cancel scripted, fun allOver => ?_⟩
    cases going.symm.trans allOver

/-- Below its limit a ready emulator ends with a frame, once every loop is over. -/
theorem Ends.shows_last (ends : Ends s turn) (isolated : Isolated e past s) (ready : e.Ready)
    (free : s.isLimitReached = false) :
    s.allOver = true ∧ turn.service.emulator = s.emulator.frame.state := by
  obtain ⟨frames, -, shown, -⟩ := frame_sound (isolated.sound ready)
  have devices := s.emulator.devices_frame
  cases ends with
  | limited _ _ reached => cases free.symm.trans reached
  | unshown _ _ frame => cases shown.symm.trans frame
  | @lastShown rest head allOver =>
    have seated : ({ s.framed with round := rest } : Service).Seated :=
      isolated.orderly.of_eq rfl (congrArg List.length devices)
    exact ⟨allOver, emulator_finish_of_allOver seated allOver _ _⟩
  | unpaused _ _ _ _ interval =>
    obtain ⟨seconds, eq, -⟩ := ready.interval
    rw [s.emulator.settings_frame, isolated.settings, eq] at interval
    cases interval
  | deserted empty nobody silent =>
    have frames := isolated.orderly.frames
    rw [pending, empty, nobody, silent] at frames
    cases frames

end Service

/-! ## The result -/

namespace Emulator

open Service

/-- The last that was done is to show every device as it is. -/
def ShowsItself (e : Emulator) : Prop :=
  ∃ (before : Emulator) (frames : List Frame), before.devices = e.devices ∧
    before.time = e.time ∧ e = before.frame.state ∧
    e.devices.map (Device.frame · e.time) = frames.map .ok ∧
    e.renderer = before.renderer.renderedAll frames

/-- What serving an emulator whose links are fresh scripts leaves behind. -/
structure Relays (e : Emulator) (limit : Option Int) (fuel : Nat) : Prop where
  result : (e.serve limit fuel).result = .ok (some ())
  /-- A device without a link is left alone, and no device is added. -/
  unattached : ∀ i : Nat, (∀ d₀, e.devices[i]? = some d₀ → d₀.attached = none) →
    (e.serve limit fuel).state.devices[i]? = e.devices[i]? ∧ e.writesTo limit fuel i = []
  /-- What was written to a device is what its link delivered. -/
  attached : ∀ (i : Nat) (d₀ : Device) (place : Nat) (link : ScriptedLink),
    e.devices[i]? = some d₀ → d₀.attached = some place →
    d₀.links[place]? = some (.scripted link) →
    ∃ d, (e.serve limit fuel).state.devices[i]? = some d ∧
      Relayed d₀ d place link e.time (e.writesTo limit fuel i) ∧
      (limit = none → AsAlone d₀ d place link e.time (e.writesTo limit fuel i))
  shown : limit = none → (e.serve limit fuel).state.ShowsItself

/-- **Serving an emulator from scripts loses, repeats and mixes up nothing.** -/
theorem serve_relays (e : Emulator) (ready : e.Ready) (limit : Option Int) (fuel : Nat)
    (ended : (e.serve limit fuel).result ≠ .ok none) : e.Relays limit fuel := by
  obtain ⟨s, past, way, ⟨none, -⟩ | ⟨result, last, eq, state, had⟩⟩ := e.serve_cases limit fuel
  · exact absurd none ended
  have ends := ends_of_result last
  have isolated := way.isolated ready.time ready.paced
  have wrote (i : Nat) : e.writesTo limit fuel i = past.flatMap (·.writesTo i) := by
    rw [writesTo, had, List.flatMap_append, List.flatMap_singleton, ends.writesTo,
      List.append_nil]
  have free (unlimited : limit = Option.none) : s.isLimitReached = false := by
    rw [isLimitReached, way.limit, unlimited]
    rfl
  constructor
  · rw [eq, Option.some.inj (last.symm.trans (ends.result_eq isolated ready))]
    rfl
  · intro i unattached
    have unread : i ∉ (readersOf e.devices).map Reader.device := by
      intro mem
      obtain ⟨r, mem', rfl⟩ := List.mem_map.1 mem
      obtain ⟨i, d, place, device', -, attached, rfl⟩ := mem_readersOf.1 mem'
      cases (unattached d device').symm.trans attached
    obtain ⟨same, silent⟩ := isolated.unread i unread
    rw [state, wrote, silent]
    rw [← isolated.places] at unread
    exact ⟨(ends.device_of_unread isolated.orderly.toSeated unread).trans same, rfl⟩
  · intro i d₀ place link device attached found
    have scripted := ready.scripted device attached found
    obtain ⟨d, device', relayed, finishes⟩ := ends.relayed isolated device scripted
    rw [state, wrote]
    refine ⟨d, device', relayed, fun unlimited => ?_⟩
    obtain ⟨result, finishes⟩ := finishes (ends.shows_last isolated ready (free unlimited)).1
    exact finishes.asAlone scripted
  · intro unlimited
    obtain ⟨-, shows⟩ := ends.shows_last isolated ready (free unlimited)
    obtain ⟨frames, reads, -, renderer⟩ := frame_sound (isolated.sound ready)
    rw [state, shows]
    refine ⟨s.emulator, frames, s.emulator.devices_frame.symm, s.emulator.time_frame.symm, rfl, ?_,
      renderer⟩
    rw [s.emulator.devices_frame, s.emulator.time_frame]
    exact reads

/-- Two streams, a device without one between them: the first breaks with a line unfinished, and the
second wakes whenever a frame is due. -/
theorem serve_relays_mixed :
    ∃ (e : Emulator) (fuel : Nat), e.Ready ∧ (e.serve none fuel).result ≠ .ok none ∧
      e.Relays none fuel := by
  let breaks : ScriptedLink :=
    { scripted := ["L05\n".toList, "R0".toList, "5\n".toList], failAfter := some 2 }
  let ticks : ScriptedLink := { scripted := ["L19\nR1".toList, "9\n".toList], interval := 1 }
  let e := ((fresh { deviceCount := 3, frameRate := 1 } (.recording #[]) 0).attachDevice 0
    (.scripted breaks)).attachDevice 2 (.scripted ticks)
  have breaks_fresh : breaks.IsFresh := ⟨rfl, rfl, by decide +kernel⟩
  have ticks_fresh : ticks.IsFresh := ⟨rfl, rfl, by decide +kernel⟩
  have new : (fresh { deviceCount := 3, frameRate := 1 } (.recording #[]) 0).Ready :=
    ready_fresh (by decide +kernel) (by decide +kernel) Axis.defaultPeriod_isFinite
      Axis.defaultPeriod_pos (Binary64.IsFinite.isTime (by decide +kernel)) _
  have ready : e.Ready := (new.attach breaks_fresh 0).attach ticks_fresh 2
  have ended : (e.serve none 28).result ≠ .ok none := by decide +kernel
  exact ⟨e, 28, ready, ended, e.serve_relays ready none 28 ended⟩

end Emulator

end MotionEmulator
