import MotionEmulator.Proofs.Service.Orderly

/-!
# How a service ends

The turn that ends a service cancels the read loops that are under way. Each of them does to its
own device what `ReadLoop.cancel` does, once, and nothing else about the emulator changes: not the
devices of loops that are over or that have not had their first turn (`Ends.device`), nor those
that no loop drains (`Ends.device_of_unread`).
-/

namespace MotionEmulator

namespace Service

variable {s t : Service} {made : List Entry} {place : Nat} {r : Reader} {d : Device} {turn : Turn}

/-- The read loop at a place, if there is one, is not under way. -/
def Quiet (s : Service) (place : Nat) : Prop :=
  ∀ r, s.readers[place]? = some r → r.status ≠ .underway

/-- A service in which some of the loops that were under way are cancelled. -/
structure Cancels (s t : Service) : Prop where
  emulator : t.emulator = { s.emulator with devices := t.emulator.devices }
  length : t.emulator.devices.length = s.emulator.devices.length
  places : t.readers.map Reader.device = s.readers.map Reader.device
  each : ∀ (place : Nat) (r : Reader) (d : Device), s.readers[place]? = some r →
    s.emulator.devices[r.device]? = some d →
    ∃ r', t.readers[place]? = some r' ∧ r'.device = r.device ∧
      ((r' = r ∧ t.emulator.devices[r.device]? = some d) ∨
        (r.status = .underway ∧ r'.status = .over ∧
          t.emulator.devices[r.device]? = some (r.loop.cancel d).state))
  unread : ∀ i, i ∉ s.readers.map Reader.device →
    t.emulator.devices[i]? = s.emulator.devices[i]?

theorem Cancels.refl (s : Service) : Cancels s s where
  emulator := rfl
  length := rfl
  places := rfl
  each _ r _ reader device := ⟨r, reader, rfl, .inl ⟨rfl, device⟩⟩
  unread _ _ := rfl

theorem Cancels.seated (cancels : Cancels s t) (seated : s.Seated) : t.Seated :=
  seated.of_eq cancels.places cancels.length

/-- Cancelling never fails; what is not under way it leaves alone. -/
theorem cancelReader_cases (seated : s.Seated) (place : Nat) :
    (s.cancelReader place).result = .ok () ∧
      (((s.cancelReader place).state = s ∧ s.Quiet place) ∨
        ∃ r d, s.readers[place]? = some r ∧ s.emulator.devices[r.device]? = some d ∧
          r.status = .underway ∧
          (s.cancelReader place).state =
            s.put place { r with status := .over } (r.loop.cancel d).state) := by
  unfold cancelReader
  split
  · next none =>
    refine ⟨rfl, .inl ⟨rfl, fun r found => ?_⟩⟩
    cases none.symm.trans found
  · next r reader =>
    split
    · next underway =>
      obtain ⟨d, device⟩ := seated.device_of_reader reader
      unfold Emulator.onDevice
      rw [device]
      exact ⟨ReadLoop.result_release d r.loop, .inr ⟨r, d, reader, device, underway, rfl⟩⟩
    · next quiet =>
      refine ⟨rfl, .inl ⟨rfl, fun r' found => ?_⟩⟩
      obtain rfl : r = r' := Option.some.inj (reader.symm.trans found)
      exact quiet

theorem quiet_put (reader : s.readers[place]? = some r) (d : Device) :
    (s.put place { r with status := .over } d).Quiet place := by
  intro r' found
  rw [reader_put reader] at found
  cases found
  exact ReaderStatus.noConfusion

theorem Quiet.put {q : Nat} (quiet : s.Quiet q) (reader : s.readers[place]? = some r)
    (d : Device) : (s.put place { r with status := .over } d).Quiet q := by
  by_cases own : q = place
  · subst own
    exact quiet_put reader d
  · intro r' found
    exact quiet r' ((reader_put_of_ne own _).symm.trans found)

/-- One more loop is cancelled. -/
theorem Cancels.put (cancels : Cancels s t) (seated : s.Seated)
    (reader : t.readers[place]? = some r) (device : t.emulator.devices[r.device]? = some d)
    (underway : r.status = .underway) :
    Cancels s (t.put place { r with status := .over } (r.loop.cancel d).state) where
  emulator := by
    rw [Service.put, cancels.emulator]
  length := (length_devices_put ..).trans cancels.length
  places := by
    have same : (t.put place { r with status := .over } (r.loop.cancel d).state).readers.map
        Reader.device = t.readers.map Reader.device :=
      map_device_put reader rfl
    exact same.trans cancels.places
  each q r₀ d₀ reader₀ device₀ := by
    obtain ⟨r', reader', same, made⟩ := cancels.each q r₀ d₀ reader₀ device₀
    by_cases own : q = place
    · subst own
      obtain rfl : r = r' := Option.some.inj (reader.symm.trans reader')
      refine ⟨_, reader_put reader _, same, .inr ?_⟩
      rcases made with ⟨rfl, device'⟩ | ⟨-, ended, -⟩
      · obtain rfl : d = d₀ := Option.some.inj (device.symm.trans device')
        exact ⟨underway, rfl, device_put device⟩
      · cases underway.symm.trans ended
    · have ne : r₀.device ≠ r.device := same ▸ (cancels.seated seated).device_ne reader' reader own
      refine ⟨r', (reader_put_of_ne own _).trans reader', same, ?_⟩
      rw [device_put_of_ne (r := { r with status := .over }) ne]
      exact made
  unread i free := by
    have ne : i ≠ r.device := by
      rintro rfl
      rw [← cancels.places] at free
      exact free (List.mem_map_of_mem (List.mem_of_getElem? reader))
    rw [device_put_of_ne (r := { r with status := .over }) ne]
    exact cancels.unread i free

/-- All loops of a list of places are cancelled, whatever came before. -/
theorem cancels_cancelAll (places : List Nat) (seated : s.Seated) (cancels : Cancels s t) :
    Cancels s (cancelAll places t).state ∧
      ∀ q, q ∈ places ∨ t.Quiet q → (cancelAll places t).state.Quiet q := by
  induction places generalizing t with
  | nil =>
    refine ⟨cancels, fun q quiet => ?_⟩
    exact quiet.resolve_left List.not_mem_nil
  | cons place rest ih =>
    obtain ⟨result, made⟩ := cancelReader_cases (cancels.seated seated) place
    have goes_on : (cancelAll (place :: rest) t).state =
        (cancelAll rest (t.cancelReader place).state).state := by
      rw [cancelAll, Outcome.andThen, result]
    rw [goes_on]
    rcases made with ⟨same, quiet⟩ | ⟨r, d, reader, device, underway, eq⟩
    · rw [same]
      obtain ⟨later, quiet'⟩ := ih cancels
      refine ⟨later, fun q old => quiet' q ?_⟩
      rcases old with mem | old
      · rcases List.mem_cons.1 mem with rfl | mem'
        · exact .inr quiet
        · exact .inl mem'
      · exact .inr old
    · rw [eq]
      obtain ⟨later, quiet'⟩ := ih (cancels.put seated reader device underway)
      refine ⟨later, fun q old => quiet' q ?_⟩
      rcases old with mem | old
      · rcases List.mem_cons.1 mem with rfl | mem'
        · exact .inr (quiet_put reader _)
        · exact .inl mem'
      · exact .inr (old.put reader _)

/-! ## The last turn -/

theorem cancels_finish (seated : s.Seated) :
    Cancels s (cancelAll s.cancelOrder s).state ∧
      ∀ q < s.readers.length, (cancelAll s.cancelOrder s).state.Quiet q := by
  obtain ⟨cancels, quiet⟩ := cancels_cancelAll s.cancelOrder seated (.refl s)
  refine ⟨cancels, fun q inside => quiet q (.inl ?_)⟩
  exact List.mem_append_right _ (List.mem_range.2 inside)

/-- The end of a service changes nothing but devices. -/
theorem emulator_finish (seated : s.Seated) (entries : List Entry) (result : Except Fault Unit) :
    (s.finish entries result).service.emulator =
      { s.emulator with devices := (s.finish entries result).service.emulator.devices } :=
  (cancels_finish seated).1.emulator

/-- A device whose loop is under way is left as the loop leaves it when it is cancelled. -/
theorem device_finish (seated : s.Seated) (entries : List Entry) (result : Except Fault Unit)
    (reader : s.readers[place]? = some r) (device : s.emulator.devices[r.device]? = some d) :
    (s.finish entries result).service.emulator.devices[r.device]? =
      some (if r.status = .underway then (r.loop.cancel d).state else d) := by
  obtain ⟨cancels, quiet⟩ := cancels_finish seated
  obtain ⟨r', reader', -, made⟩ := cancels.each place r d reader device
  have quiet' := quiet place (List.getElem?_eq_some_iff.1 reader).1 r' reader'
  rcases made with ⟨rfl, same⟩ | ⟨underway, -, cancelled⟩
  · rw [if_neg quiet']
    exact same
  · rw [if_pos underway]
    exact cancelled

/-- Where every loop is over the end of a service changes nothing. -/
theorem emulator_finish_of_allOver (seated : s.Seated) (allOver : s.allOver = true)
    (entries : List Entry) (result : Except Fault Unit) :
    (s.finish entries result).service.emulator = s.emulator := by
  have devices : (s.finish entries result).service.emulator.devices = s.emulator.devices := by
    apply List.ext_getElem?
    intro i
    by_cases drained : i ∈ s.readers.map Reader.device
    · obtain ⟨r, mem, rfl⟩ := List.mem_map.1 drained
      obtain ⟨place, reader⟩ := List.mem_iff_getElem?.1 mem
      obtain ⟨d, device⟩ := seated.device_of_reader reader
      have status : r.status = .over := of_decide_eq_true (List.all_eq_true.1 allOver r mem)
      rw [device_finish seated entries result reader device, device, if_neg]
      rw [status]
      exact ReaderStatus.noConfusion
    · exact (cancels_finish seated).1.unread i drained
  rw [emulator_finish seated, devices]

/-- What the last turn has done before it cancels the loops. -/
theorem Ends.exists_finish (ends : Ends s turn) :
    ∃ u entries result, turn = finish u entries result ∧ u.readers = s.readers ∧
      u.emulator.devices = s.emulator.devices := by
  cases ends with
  | limited => exact ⟨_, _, _, rfl, rfl, rfl⟩
  | unshown => exact ⟨_, _, _, rfl, rfl, s.emulator.devices_frame⟩
  | lastShown => exact ⟨_, _, _, rfl, rfl, s.emulator.devices_frame⟩
  | unpaused => exact ⟨_, _, _, rfl, rfl, s.emulator.devices_frame⟩
  | deserted => exact ⟨_, _, _, rfl, rfl, rfl⟩

/-- A service whose frames can be shown and whose pauses can be computed ends without a fault. -/
theorem Ends.result_of_shown (ends : Ends s turn) (shown : s.emulator.frame.result = .ok ())
    {seconds : Binary64} (paused : s.emulator.settings.frameInterval = .ok seconds) :
    turn.result = some (.ok ()) := by
  cases ends with
  | limited => rfl
  | unshown _ _ frame => cases shown.symm.trans frame
  | lastShown => rfl
  | unpaused _ _ _ _ interval =>
    rw [s.emulator.settings_frame, paused] at interval
    cases interval
  | deserted => rfl

/-- **What the end of a service does to a device that is drained.** -/
theorem Ends.device (ends : Ends s turn) (seated : s.Seated)
    (reader : s.readers[place]? = some r) (device : s.emulator.devices[r.device]? = some d) :
    turn.service.emulator.devices[r.device]? =
      some (if r.status = .underway then (r.loop.cancel d).state else d) := by
  obtain ⟨u, entries, result, rfl, readers, devices⟩ := ends.exists_finish
  have seated' : u.Seated := seated.of_eq (by rw [readers]) (by rw [devices])
  rw [← readers] at reader
  rw [← devices] at device
  exact device_finish seated' entries result reader device

/-- **The end of a service leaves devices that no loop drains alone.** -/
theorem Ends.device_of_unread (ends : Ends s turn) (seated : s.Seated) {i : Nat}
    (free : i ∉ s.readers.map Reader.device) :
    turn.service.emulator.devices[i]? = s.emulator.devices[i]? := by
  obtain ⟨u, entries, result, rfl, readers, devices⟩ := ends.exists_finish
  rw [← readers] at free
  have seated' : u.Seated := seated.of_eq (by rw [readers]) (by rw [devices])
  exact ((cancels_finish seated').1.unread i free).trans (by rw [devices])

end Service

end MotionEmulator
