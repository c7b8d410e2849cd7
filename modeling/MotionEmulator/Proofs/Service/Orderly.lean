import Mathlib.Data.List.Nodup
import Mathlib.Data.List.Sigma
import MotionEmulator.Proofs.Emulator.Frames
import MotionEmulator.Proofs.ReadLoop.Course
import MotionEmulator.Proofs.Service.Turns
import MotionEmulator.Proofs.Timers.Heap

/-!
# Orderly services

The readers of a service are `Seated` if each drains a device of its own. A service is `Orderly`
if they are and if who has something to come, a turn, an alarm or a timer (`Service.pending`), is
the frame loop, once, and every read loop that is not over, once. A service is orderly at its start
(`orderly_start`), and every turn keeps that (`Goes.orderly`), so a loop that is over never has
another turn.
-/

namespace MotionEmulator

/-- The loop that a call is for. -/
def Call.who : Call → Runner
  | .turn who => who
  | .alarm who => who

namespace Service

/-- The loops that have something to come, once for each thing. -/
def pending (s : Service) : List Runner :=
  (s.round ++ s.next).map Call.who ++ s.timers.toList.map Timer.owner

/-- The read loop at a place is not over. -/
def Live (s : Service) (place : Nat) : Prop :=
  ∃ r, s.readers[place]? = some r ∧ r.status ≠ .over

/-- Each reader drains a device of its own. -/
structure Seated (s : Service) : Prop where
  inside : ∀ r ∈ s.readers, r.device < s.emulator.devices.length
  distinct : (s.readers.map Reader.device).Nodup

structure Orderly (s : Service) : Prop extends Seated s where
  nodup : s.pending.Nodup
  frames : .frames ∈ s.pending
  live : ∀ place, .reader place ∈ s.pending ↔ s.Live place

variable {s t : Service} {made : List Entry} {rest : List Call} {place : Nat} {r : Reader}
  {d : Device}

/-! ## Readers and their devices -/

theorem Seated.device_of_reader (seated : s.Seated) (reader : s.readers[place]? = some r) :
    ∃ d, s.emulator.devices[r.device]? = some d :=
  ⟨_, List.getElem?_eq_getElem (seated.inside r (List.mem_of_getElem? reader))⟩

/-- Two places have two devices. -/
theorem Seated.device_ne (seated : s.Seated) {place' : Nat} {r' : Reader}
    (reader : s.readers[place]? = some r) (reader' : s.readers[place']? = some r')
    (ne : place ≠ place') : r.device ≠ r'.device := by
  intro same
  have inside : place < (s.readers.map Reader.device).length := by
    rw [List.length_map]
    exact (List.getElem?_eq_some_iff.1 reader).1
  refine ne ((List.getElem?_inj inside seated.distinct).1 ?_)
  rw [List.getElem?_map, List.getElem?_map, reader, reader', Option.map_some, Option.map_some, same]

/-- Readers stay seated while their devices are what they were. -/
theorem Seated.of_eq (seated : s.Seated)
    (devices : t.readers.map Reader.device = s.readers.map Reader.device)
    (length : t.emulator.devices.length = s.emulator.devices.length) : t.Seated where
  inside r mem := by
    have mem' : r.device ∈ s.readers.map Reader.device := devices ▸ List.mem_map_of_mem mem
    obtain ⟨r', mem'', same⟩ := List.mem_map.1 mem'
    rw [length, ← same]
    exact seated.inside r' mem''
  distinct := devices ▸ seated.distinct

theorem map_device_put (reader : s.readers[place]? = some r) {r' : Reader}
    (same : r'.device = r.device) :
    (s.put place r' d).readers.map Reader.device = s.readers.map Reader.device := by
  obtain ⟨inside, rfl⟩ := List.getElem?_eq_some_iff.1 reader
  apply List.ext_getElem?
  intro q
  simp only [put, List.map_set, List.getElem?_set, List.length_map]
  split
  · next eq =>
    subst eq
    rw [List.getElem?_map, reader, Option.map_some, same]
  · rfl

theorem reader_put (reader : s.readers[place]? = some r) (r' : Reader) :
    (s.put place r' d).readers[place]? = some r' :=
  List.getElem?_set_self (List.getElem?_eq_some_iff.1 reader).1

theorem reader_put_of_ne {q : Nat} (ne : q ≠ place) (r' : Reader) :
    (s.put place r' d).readers[q]? = s.readers[q]? :=
  List.getElem?_set_ne ne.symm

theorem device_put {old : Device} (device : s.emulator.devices[r.device]? = some old) :
    (s.put place r d).emulator.devices[r.device]? = some d :=
  List.getElem?_set_self (List.getElem?_eq_some_iff.1 device).1

theorem device_put_of_ne {i : Nat} (ne : i ≠ r.device) :
    (s.put place r d).emulator.devices[i]? = s.emulator.devices[i]? :=
  List.getElem?_set_ne ne.symm

theorem length_devices_put (s : Service) (place : Nat) (r : Reader) (d : Device) :
    (s.put place r d).emulator.devices.length = s.emulator.devices.length :=
  List.length_set

/-! ## What a turn does to one loop -/

/-- The turn is that of the read loop at a place. -/
def HasTurn (s : Service) (place : Nat) : Prop :=
  ∃ rest, s.round = .turn (.reader place) :: rest

theorem HasTurn.of_head {call : Call} (turn : s.HasTurn place) (head : s.round = call :: rest) :
    call = .turn (.reader place) := by
  obtain ⟨rest', head'⟩ := turn
  exact (List.cons.inj (head.symm.trans head')).1

/-- A step of one loop leaves the other loops and their devices alone. -/
theorem Seated.stepped_cases (seated : s.Seated) {q : Nat} {r' : Reader} {d' : Device}
    (reader : s.readers[place]? = some r) (device : s.emulator.devices[r.device]? = some d)
    (reader' : s.readers[q]? = some r') (device' : s.emulator.devices[r'.device]? = some d')
    (head : s.round = .turn (.reader q) :: rest) :
    (¬ s.HasTurn place ∧
        (s.stepped q r' (r'.loop.step d' s.emulator.time)).readers[place]? = some r ∧
        (s.stepped q r' (r'.loop.step d' s.emulator.time)).emulator.devices[r.device]? =
          some d) ∨
      (s.HasTurn place ∧
        (s.stepped q r' (r'.loop.step d' s.emulator.time)).readers[place]? =
          some (r.after (r.loop.step d s.emulator.time)) ∧
        (s.stepped q r' (r'.loop.step d' s.emulator.time)).emulator.devices[r.device]? =
          some (r.loop.step d s.emulator.time).device) := by
  by_cases own : q = place
  · subst own
    obtain rfl : r = r' := Option.some.inj (reader.symm.trans reader')
    obtain rfl : d = d' := Option.some.inj (device.symm.trans device')
    refine .inr ⟨⟨rest, head⟩, reader_put reader _, ?_⟩
    exact device_put (r := r.after (r.loop.step d s.emulator.time)) device
  · have ne : r.device ≠ r'.device := seated.device_ne reader reader' (Ne.symm own)
    refine .inl ⟨fun turn => ?_, (reader_put_of_ne (Ne.symm own) _).trans reader, ?_⟩
    · cases turn.of_head head
      exact own rfl
    · exact (device_put_of_ne (r := r'.after (r'.loop.step d' s.emulator.time)) ne).trans device

/-- **A turn does nothing to a loop and its device, or it is the loop's own.** -/
theorem Goes.reader_cases (goes : Goes s t made) (seated : s.Seated)
    (reader : s.readers[place]? = some r) (device : s.emulator.devices[r.device]? = some d) :
    (¬ s.HasTurn place ∧ t.readers[place]? = some r ∧
        t.emulator.devices[r.device]? = some d) ∨
      (s.HasTurn place ∧ t.readers[place]? = some (r.after (r.loop.step d s.emulator.time)) ∧
        t.emulator.devices[r.device]? = some (r.loop.step d s.emulator.time).device) := by
  cases goes with
  | shown head =>
    rw [readers_sleep, emulator_sleep]
    refine .inl ⟨fun turn => ?_, reader, ?_⟩
    · cases turn.of_head head
    · exact (congrArg (·[r.device]?) s.emulator.devices_frame).trans device
  | idle head nobody =>
    refine .inl ⟨fun turn => ?_, reader, device⟩
    cases turn.of_head head
    cases (nobody r reader).symm.trans device
  | running head reader' device' =>
    exact seated.stepped_cases reader device reader' device' head
  | asleep head reader' device' =>
    rw [readers_sleep, emulator_sleep]
    exact seated.stepped_cases reader device reader' device' head
  | ended head reader' device' => exact seated.stepped_cases reader device reader' device' head
  | alarm head =>
    refine .inl ⟨fun turn => ?_, reader, device⟩
    cases turn.of_head head
  | began empty =>
    refine .inl ⟨fun turn => ?_, reader, device⟩
    obtain ⟨rest, head⟩ := turn
    cases empty.symm.trans head

theorem map_device_stepped (reader : s.readers[place]? = some r) (step : LoopStep) :
    (s.stepped place r step).readers.map Reader.device = s.readers.map Reader.device :=
  map_device_put reader rfl

/-- A turn keeps the devices that are drained what they were. -/
theorem Goes.places (goes : Goes s t made) :
    t.readers.map Reader.device = s.readers.map Reader.device := by
  cases goes with
  | shown =>
    rw [readers_sleep]
    rfl
  | idle => rfl
  | running head reader => exact map_device_stepped reader _
  | asleep head reader =>
    rw [readers_sleep]
    exact map_device_stepped reader _
  | ended head reader => exact map_device_stepped reader _
  | alarm => rfl
  | began => rfl

/-- A turn leaves devices that no loop drains alone. -/
theorem Goes.device_of_unread (goes : Goes s t made) {i : Nat}
    (free : i ∉ s.readers.map Reader.device) :
    t.emulator.devices[i]? = s.emulator.devices[i]? := by
  have own {q : Nat} {r' : Reader} (reader : s.readers[q]? = some r') (step : LoopStep) :
      (s.stepped q r' step).emulator.devices[i]? = s.emulator.devices[i]? := by
    have ne : i ≠ r'.device := by
      rintro rfl
      exact free (List.mem_map_of_mem (List.mem_of_getElem? reader))
    exact device_put_of_ne (r := r'.after step) ne
  cases goes with
  | shown =>
    rw [emulator_sleep]
    exact congrArg (·[i]?) s.emulator.devices_frame
  | idle => rfl
  | running head reader => exact own reader _
  | asleep head reader =>
    rw [emulator_sleep]
    exact own reader _
  | ended head reader => exact own reader _
  | alarm => rfl
  | began => rfl

theorem Goes.length_devices (goes : Goes s t made) :
    t.emulator.devices.length = s.emulator.devices.length := by
  cases goes with
  | shown =>
    rw [emulator_sleep]
    exact congrArg List.length s.emulator.devices_frame
  | idle => rfl
  | running => exact List.length_set
  | asleep =>
    rw [emulator_sleep]
    exact List.length_set
  | ended => exact List.length_set
  | alarm => rfl
  | began => rfl

/-! ## Who has something to come -/

theorem pending_of_round {call : Call} (head : s.round = call :: rest) :
    s.pending = call.who :: { s with round := rest }.pending := by
  rw [pending, head]
  rfl

theorem perm_pending_sleep (s : Service) (who : Runner) (seconds : Binary64) :
    (s.sleep who seconds).pending.Perm (who :: s.pending) := by
  unfold sleep
  split
  · have split : (s.round ++ (s.next ++ [Call.turn who])).map Call.who ++
        s.timers.toList.map Timer.owner =
          (s.round ++ s.next).map Call.who ++ who :: s.timers.toList.map Timer.owner := by
      simp [Call.who]
    rw [pending, split]
    exact List.perm_middle
  · rw [pending]
    refine (List.Perm.append_left _ ((Timers.push_perm _ _).map Timer.owner)).trans ?_
    exact List.perm_middle

theorem perm_pending_beginRound (empty : s.round = []) : s.beginRound.pending.Perm s.pending := by
  obtain ⟨taken, owners, perm, -⟩ := Timers.popDue_perm s.timers s.roundTime
  have calls : (s.next ++ (taken.map Timer.owner).map Call.alarm).map Call.who =
      s.next.map Call.who ++ taken.map Timer.owner := by
    simp [Function.comp_def, Call.who]
  rw [beginRound_eq, pending, pending, empty]
  dsimp only
  rw [owners, List.append_nil, List.nil_append, calls, List.append_assoc, ← List.map_append]
  exact List.Perm.append_left _ (perm.map Timer.owner)

/-- Whoever reorders what is to come and ends no loop keeps a service orderly. -/
theorem Orderly.of_perm (orderly : s.Orderly) (perm : t.pending.Perm s.pending)
    (devices : t.readers.map Reader.device = s.readers.map Reader.device)
    (length : t.emulator.devices.length = s.emulator.devices.length)
    (live : ∀ place, t.Live place ↔ s.Live place) : t.Orderly where
  toSeated := orderly.of_eq devices length
  nodup := perm.nodup_iff.2 orderly.nodup
  frames := perm.mem_iff.2 orderly.frames
  live place := (perm.mem_iff.trans (orderly.live place)).trans (live place).symm

/-- A loop whose turn it is exists and is not over. -/
theorem Orderly.live_of_turn (orderly : s.Orderly)
    (head : s.round = .turn (.reader place) :: rest) : s.Live place := by
  refine (orderly.live place).1 ?_
  rw [pending_of_round head]
  exact List.mem_cons_self

theorem live_put_iff (reader : s.readers[place]? = some r) {r' : Reader} (q : Nat) :
    (s.put place r' d).Live q ↔ (q = place ∧ r'.status ≠ .over) ∨ (q ≠ place ∧ s.Live q) := by
  unfold Live
  by_cases own : q = place
  · subst own
    rw [reader_put reader]
    simp
  · rw [reader_put_of_ne own]
    simp [own]

/-- **Every turn keeps a service orderly.** -/
theorem Goes.orderly (goes : Goes s t made) (orderly : s.Orderly) : t.Orderly := by
  have places := goes.places
  have length := goes.length_devices
  cases goes with
  | shown head =>
    refine orderly.of_perm ?_ places length fun place => ?_
    · refine (perm_pending_sleep _ _ _).trans ?_
      rw [pending_of_round head]
      exact .refl _
    · unfold Live
      rw [readers_sleep]
      rfl
  | idle head nobody =>
    obtain ⟨r, reader, -⟩ := orderly.live_of_turn head
    obtain ⟨d, device⟩ := orderly.device_of_reader reader
    cases (nobody r reader).symm.trans device
  | @running rest place r d head reader device status =>
    refine orderly.of_perm (.refl _) places length fun q => ?_
    have live := orderly.live_of_turn head
    rw [stepped, live_put_iff reader, Reader.after, status]
    by_cases own : q = place
    · subst own
      simp [LoopStatus.reached, live]
    · simp [own]
  | @asleep rest place r d seconds head reader device status =>
    refine orderly.of_perm ?_ places length fun q => ?_
    · refine (perm_pending_sleep _ _ _).trans ?_
      rw [pending_of_round head]
      exact .refl _
    · have live := orderly.live_of_turn head
      unfold Live
      rw [readers_sleep]
      change (s.stepped place r (r.loop.step d s.emulator.time)).Live q ↔ s.Live q
      rw [stepped, live_put_iff reader, Reader.after, status]
      by_cases own : q = place
      · subst own
        simp [LoopStatus.reached, live]
      · simp [own]
  | @ended rest place r d result head reader device status =>
    -- The loop that is over has had the one thing that it had to come.
    have split := pending_of_round head
    have nodup := orderly.nodup
    rw [split] at nodup
    obtain ⟨gone, nodup'⟩ := List.nodup_cons.1 nodup
    refine ⟨orderly.of_eq places length, nodup', ?_, fun q => ?_⟩
    · have frames := orderly.frames
      rw [split] at frames
      rcases List.mem_cons.1 frames with eq | mem
      · cases eq
      · exact mem
    · change .reader q ∈ ({ s with round := rest } : Service).pending ↔
        (s.stepped place r (r.loop.step d s.emulator.time)).Live q
      rw [stepped, live_put_iff reader, Reader.after, status, ← orderly.live q, split,
        List.mem_cons]
      by_cases own : q = place
      · subst own
        simpa [LoopStatus.reached, Call.who] using gone
      · simp [own, Call.who]
  | @alarm rest who head =>
    refine orderly.of_perm ?_ places length fun _ => .rfl
    have split : ({ s with round := rest, next := s.next ++ [.turn who] } : Service).pending =
        (rest ++ s.next).map Call.who ++ who :: s.timers.toList.map Timer.owner := by
      simp [pending, Call.who]
    rw [split, pending_of_round head]
    exact List.perm_middle
  | began empty ready =>
    exact orderly.of_perm (perm_pending_beginRound empty) places length fun _ => .rfl

/-! ## The start -/

theorem exists_attached_of_isConnected (connected : d.isConnected = true) :
    ∃ place, d.attached = some place ∧ place < d.links.length := by
  unfold Device.isConnected Device.link? at connected
  cases attached : d.attached with
  | none =>
    rw [attached] at connected
    cases connected
  | some place =>
    refine ⟨place, rfl, Nat.lt_of_not_le fun beyond => ?_⟩
    rw [attached, Option.bind_some, List.getElem?_eq_none beyond] at connected
    cases connected

/-- The reader of a device that is attached to the link at a place. -/
def readerAt (i place : Nat) : Reader :=
  { device := i, loop := { source := .link place, owned := true } }

theorem readersOf_eq (devices : List Device) :
    readersOf devices = devices.zipIdx.filterMap fun entry =>
      if entry.1.isConnected then entry.1.attached.map (readerAt entry.2) else none := by
  unfold readersOf
  congr 1
  funext ⟨d, i⟩
  dsimp only
  split
  · cases attached : d.attached <;> simp [ReadLoop.start, attached, readerAt]
  · rfl

/-- There is a reader for every device that is connected, and no other one. -/
theorem mem_readersOf {devices : List Device} :
    r ∈ readersOf devices ↔ ∃ i d place, devices[i]? = some d ∧ d.isConnected = true ∧
      d.attached = some place ∧ r = readerAt i place := by
  rw [readersOf_eq]
  simp only [List.mem_filterMap, Prod.exists, List.mem_zipIdx_iff_getElem?]
  constructor
  · rintro ⟨d, i, device, read⟩
    split at read
    · next connected =>
      obtain ⟨place, attached, rfl⟩ := Option.map_eq_some_iff.1 read
      exact ⟨i, d, place, device, connected, attached, rfl⟩
    · cases read
  · rintro ⟨i, d, place, device, connected, attached, rfl⟩
    refine ⟨d, i, device, ?_⟩
    rw [if_pos connected, attached, Option.map_some]

theorem nodup_map_device_readersOf (devices : List Device) :
    ((readersOf devices).map Reader.device).Nodup := by
  rw [readersOf_eq, List.Nodup, List.pairwise_map, List.pairwise_filterMap]
  refine (List.pairwise_map.1 (List.nodup_zipIdx_map_snd devices)).imp ?_
  rintro ⟨d, i⟩ ⟨d', i'⟩ ne r read r' read'
  have own {d : Device} {i : Nat} {r : Reader}
      (read : (if d.isConnected then d.attached.map (readerAt i) else none) = some r) :
      r.device = i := by
    split at read
    · obtain ⟨place, -, rfl⟩ := Option.map_eq_some_iff.1 read
      rfl
    · cases read
  rw [own read, own read']
  exact ne

theorem pending_start (e : Emulator) (limit : Option Int) :
    (start e limit).pending =
      .frames :: (List.range (start e limit).readers.length).map .reader := by
  simp [Service.pending, start, Function.comp_def, Call.who]

/-- **A service is orderly at its start.** -/
theorem orderly_start (e : Emulator) (limit : Option Int) : (start e limit).Orderly where
  inside r mem := by
    obtain ⟨i, d, place, device, -, -, rfl⟩ := mem_readersOf.1 mem
    exact (List.getElem?_eq_some_iff.1 device).1
  distinct := nodup_map_device_readersOf e.devices
  nodup := by
    rw [pending_start]
    refine List.nodup_cons.2 ⟨by simp, ?_⟩
    exact List.nodup_range.map fun _ _ => Runner.reader.inj
  frames := List.mem_cons_self
  live place := by
    rw [pending_start]
    constructor
    · intro mem
      have inside : place < (start e limit).readers.length := by simpa using mem
      have found := List.getElem?_eq_getElem inside
      obtain ⟨i, d, at', -, -, -, eq⟩ := mem_readersOf.1 (List.mem_of_getElem? found)
      refine ⟨_, found, ?_⟩
      rw [eq]
      exact ReaderStatus.noConfusion
    · rintro ⟨r, found, -⟩
      have inside := (List.getElem?_eq_some_iff.1 found).1
      simpa using inside

end Service

end MotionEmulator
