import MotionEmulator.Proofs.Service.Clock
import MotionEmulator.Proofs.Service.Closing

/-!
# Loops do not notice each other

A loop in a service `Follows` the loop that starts from the same device at the same time and runs
alone: it has come to a state of that loop, and its next turn is at the time at which that loop
takes its next step. `Goes.follows` is the simulation, one turn of the service against at most one
step of the loop, for every loop of the service at once (`Isolated`). `Service.writesTo` are the
pieces that turns write to a device; they are those that the loop writes alone.

So what `Ends.follows` says of the devices when a service ends speaks of one loop at a time.
-/

namespace MotionEmulator

namespace Service

open ReadLoop

variable {s t : Service} {made : List Entry} {past : List Service} {rest : List Call}
  {place i : Nat} {r : Reader} {d d₀ : Device} {l₀ : ReadLoop} {t₀ : Binary64}
  {wrote : List Piece} {turn : Turn} {e : Emulator} {limit : Option Int}

/-! ## What is written -/

/-- The pieces that the turn of a service writes to the device at a place. -/
def writesTo (s : Service) (i : Nat) : List Piece :=
  match s.round with
  | .turn (.reader place) :: _ =>
    match s.readers[place]? with
    | some r =>
      if r.device = i then
        (s.emulator.devices[i]?).elim [] fun d => r.loop.writes d s.emulator.time
      else []
    | none => []
  | _ => []

theorem writesTo_of_hasTurn (turn : s.HasTurn place) (reader : s.readers[place]? = some r)
    (device : s.emulator.devices[r.device]? = some d) :
    s.writesTo r.device = r.loop.writes d s.emulator.time := by
  obtain ⟨rest, head⟩ := turn
  unfold writesTo
  rw [head]
  dsimp only
  rw [reader]
  dsimp only
  rw [if_pos rfl, device, Option.elim_some]

/-- A turn writes to no device but the one that its loop drains. -/
theorem writesTo_of_ne (other : ∀ place r, s.HasTurn place → s.readers[place]? = some r →
    r.device ≠ i) : s.writesTo i = [] := by
  unfold writesTo
  split
  · next place rest head =>
    split
    · next r reader => rw [if_neg (other place r ⟨rest, head⟩ reader)]
    · rfl
  · rfl

theorem writesTo_of_waits (seated : s.Seated) (reader : s.readers[place]? = some r)
    (waits : ¬ s.HasTurn place) : s.writesTo r.device = [] := by
  refine writesTo_of_ne fun q r' turn reader' => ?_
  refine seated.device_ne reader' reader ?_
  rintro rfl
  exact waits turn

theorem writesTo_of_unread (free : i ∉ s.readers.map Reader.device) : s.writesTo i = [] := by
  refine writesTo_of_ne fun place r _ reader => ?_
  rintro rfl
  exact free (List.mem_map_of_mem (List.mem_of_getElem? reader))

/-! ## Who waits for what -/

/-- The loop at a place has a call in this round or the next. -/
def Called (s : Service) (place : Nat) : Prop :=
  ∃ call ∈ s.round ++ s.next, call.who = .reader place

/-- The loop at a place has a timer that is due at a time. -/
def Asleep (s : Service) (place : Nat) (time : Binary64) : Prop :=
  ∃ u ∈ s.timers, u.owner = .reader place ∧ u.due = time

theorem Called.of_tail {call : Call} (head : s.round = call :: rest)
    (called : ({ s with round := rest } : Service).Called place) : s.Called place := by
  obtain ⟨call', mem, own⟩ := called
  refine ⟨call', ?_, own⟩
  rw [head]
  exact List.mem_cons_of_mem _ mem

/-- The sleep of one loop calls no other. -/
theorem Called.of_sleep {who : Runner} {seconds : Binary64}
    (called : (s.sleep who seconds).Called place) (other : who ≠ .reader place) :
    s.Called place := by
  obtain ⟨call, mem, own⟩ := called
  refine ⟨call, ?_, own⟩
  unfold sleep at mem
  split at mem
  · rw [← List.append_assoc] at mem
    rcases List.mem_append.1 mem with old | new
    · exact old
    · obtain rfl := List.mem_singleton.1 new
      exact absurd own other
  · exact mem

theorem Asleep.of_sleep {who : Runner} {seconds time : Binary64}
    (asleep : (s.sleep who seconds).Asleep place time) (other : who ≠ .reader place) :
    s.Asleep place time := by
  obtain ⟨u, mem, own, due⟩ := asleep
  refine ⟨u, ?_, own, due⟩
  unfold sleep at mem
  split at mem
  · exact mem
  · rw [← Array.mem_toList_iff, (Timers.push_perm _ _).mem_iff] at mem
    rcases List.mem_cons.1 mem with rfl | old
    · exact absurd own other
    · exact Array.mem_toList_iff.1 old

/-- While others have their turns, a loop waits as before: for a call at the same time, or for a
timer, which is followed by a call at the time at which it was due. -/
theorem Goes.waits (goes : Goes s t made) (timed : s.Timed) (waits : ¬ s.HasTurn place) :
    (t.Called place → (s.Called place ∧ t.emulator.time = s.emulator.time) ∨
        s.Asleep place t.emulator.time) ∧
      ∀ time, t.Asleep place time → s.Asleep place time := by
  cases goes with
  | shown head =>
    refine ⟨fun called => .inl ⟨?_, ?_⟩, fun time asleep => asleep.of_sleep Runner.noConfusion⟩
    · exact Called.of_tail head (called.of_sleep Runner.noConfusion)
    · rw [emulator_sleep]
      exact s.emulator.time_frame
  | idle head => exact ⟨fun called => .inl ⟨called.of_tail head, rfl⟩, fun _ asleep => asleep⟩
  | running => exact ⟨fun called => .inl ⟨called, rfl⟩, fun _ asleep => asleep⟩
  | @asleep rest q r d seconds head =>
    have other : Runner.reader q ≠ .reader place := by
      rintro ⟨⟩
      exact waits ⟨rest, head⟩
    refine ⟨fun called => .inl ⟨?_, ?_⟩, fun time asleep => asleep.of_sleep other⟩
    · exact Called.of_tail head (called.of_sleep other)
    · rw [emulator_sleep]
      rfl
  | ended head => exact ⟨fun called => .inl ⟨called.of_tail head, rfl⟩, fun _ asleep => asleep⟩
  | @alarm rest who head =>
    refine ⟨fun called => .inl ⟨?_, rfl⟩, fun _ asleep => asleep⟩
    obtain ⟨call, mem, own⟩ := called
    rw [← List.append_assoc] at mem
    rcases List.mem_append.1 mem with old | new
    · exact Called.of_tail head ⟨call, old, own⟩
    · obtain rfl := List.mem_singleton.1 new
      refine ⟨.alarm who, ?_, own⟩
      rw [head]
      exact List.mem_cons_self
  | began empty =>
    obtain ⟨kept, due⟩ := timed.popDue
    obtain ⟨-, still, -⟩ := timed.roundTime
    refine ⟨fun called => ?_, fun time asleep => ?_⟩
    · obtain ⟨call, mem, own⟩ := called
      rw [beginRound_eq, List.append_nil] at mem
      rcases List.mem_append.1 mem with old | alarm
      · refine .inl ⟨⟨call, List.mem_append_right _ old, own⟩, still ?_⟩
        exact List.ne_nil_of_mem old
      · obtain ⟨who, taken, rfl⟩ := List.mem_map.1 alarm
        obtain ⟨u, set, owner, now⟩ := due who taken
        exact .inr ⟨u, set, owner.trans own, now⟩
    · obtain ⟨u, mem, own, at'⟩ := asleep
      exact ⟨u, kept u mem, own, at'⟩

/-- A loop that has its turn waits for nothing else. -/
theorem Orderly.waits_once (orderly : s.Orderly)
    (head : s.round = .turn (.reader place) :: rest) :
    ¬ ({ s with round := rest } : Service).Called place ∧ ∀ time, ¬ s.Asleep place time := by
  have nodup := orderly.nodup
  rw [pending_of_round head] at nodup
  obtain ⟨gone, -⟩ := List.nodup_cons.1 nodup
  refine ⟨fun called => gone ?_, fun time asleep => gone ?_⟩
  · obtain ⟨call, mem, own⟩ := called
    exact List.mem_append_left _ (List.mem_map.2 ⟨call, mem, own⟩)
  · obtain ⟨u, mem, own, -⟩ := asleep
    exact List.mem_append_right _ (List.mem_map.2 ⟨u, Array.mem_toList_iff.2 mem, own⟩)

/-- A loop that goes to sleep waits for one thing, at the time that the pause leads to. -/
theorem sleep_waits {seconds : Binary64} (time : s.emulator.time.IsTime)
    (number : seconds ≠ .nan) (once : ¬ s.Called place) (awake : ∀ time, ¬ s.Asleep place time) :
    ((s.sleep (.reader place) seconds).Called place →
        afterPause s.emulator.time seconds = s.emulator.time) ∧
      ∀ time', (s.sleep (.reader place) seconds).Asleep place time' →
        afterPause s.emulator.time seconds = time' := by
  rcases sleep_cases time number (.reader place) with
    ⟨-, timers, still⟩ | ⟨next, -, order, timers⟩
  · refine ⟨fun _ => still, fun time' asleep => ?_⟩
    obtain ⟨u, mem, own, due⟩ := asleep
    rw [timers] at mem
    exact absurd ⟨u, mem, own, due⟩ (awake time')
  · refine ⟨fun called => ?_, fun time' asleep => ?_⟩
    · obtain ⟨call, mem, own⟩ := called
      rw [round_sleep, next] at mem
      exact absurd ⟨call, mem, own⟩ once
    · obtain ⟨u, mem, own, due⟩ := asleep
      rw [timers, ← Array.mem_toList_iff, (Timers.push_perm _ _).mem_iff] at mem
      rcases List.mem_cons.1 mem with rfl | old
      · exact due
      · exact absurd ⟨u, Array.mem_toList_iff.1 old, own, due⟩ (awake time')

/-! ## The simulation -/

/-- The loop at a place, which drains a device, has come to where the loop that started from a
device at a time comes alone, and goes on at the same time. -/
inductive Follows (s : Service) (place i : Nat) (d₀ : Device) (l₀ : ReadLoop) (t₀ : Binary64)
    (wrote : List Piece) : Prop
  | going {r : Reader} {d : Device} (reader : s.readers[place]? = some r) (drains : r.device = i)
      (device : s.emulator.devices[i]? = some d) (live : r.status ≠ .over)
      (called : s.Called place → Alone d₀ l₀ t₀ d r.loop s.emulator.time wrote)
      (asleep : ∀ time, s.Asleep place time → Alone d₀ l₀ t₀ d r.loop time wrote)
  | ended {r : Reader} {d : Device} {result : Except Fault Unit}
      (reader : s.readers[place]? = some r) (drains : r.device = i)
      (device : s.emulator.devices[i]? = some d) (ended : r.status = .over)
      (finishes : Finishes d₀ l₀ t₀ result d wrote)

/-- A turn of its own takes a loop one step further. -/
theorem Goes.follows_own (goes : Goes s t made) (orderly : s.Orderly) (timed : s.Timed)
    (paced : s.Paced) (turn : s.HasTurn place) (reader : s.readers[place]? = some r)
    (device : s.emulator.devices[r.device]? = some d)
    (way : Alone d₀ l₀ t₀ d r.loop s.emulator.time wrote)
    (after : t.readers[place]? = some (r.after (r.loop.step d s.emulator.time)))
    (drained : t.emulator.devices[r.device]? = some (r.loop.step d s.emulator.time).device) :
    t.Follows place r.device d₀ l₀ t₀ (wrote ++ s.writesTo r.device) := by
  rw [writesTo_of_hasTurn turn reader device]
  cases goes with
  | shown head => cases turn.of_head head
  | idle head nobody =>
    cases turn.of_head head
    cases (nobody r reader).symm.trans device
  | running head reader' device' status =>
    cases turn.of_head head
    cases reader.symm.trans reader'
    cases device.symm.trans device'
    obtain ⟨-, awake⟩ := orderly.waits_once head
    refine .going after rfl drained ?_ (fun _ => way.running status) fun time asleep =>
      absurd asleep (awake time)
    rw [Reader.after, status]
    exact ReaderStatus.noConfusion
  | @asleep rest _ _ _ seconds head reader' device' status =>
    cases turn.of_head head
    cases reader.symm.trans reader'
    cases device.symm.trans device'
    obtain ⟨once, awake⟩ := orderly.waits_once head
    have number := paced.loops place r d seconds turn reader device status
    have later := way.asleep status
    obtain ⟨called, asleep⟩ := sleep_waits
      (s := { s.stepped place r (r.loop.step d s.emulator.time) with round := rest })
      timed.time number once awake
    refine .going after rfl drained ?_ (fun mem => ?_) fun time mem => ?_
    · rw [Reader.after, status]
      exact ReaderStatus.noConfusion
    · have still : afterPause s.emulator.time seconds = s.emulator.time := called mem
      rw [still] at later
      rw [emulator_sleep]
      exact later
    · have due : afterPause s.emulator.time seconds = time := asleep time mem
      rw [due] at later
      exact later
  | ended head reader' device' status =>
    cases turn.of_head head
    cases reader.symm.trans reader'
    cases device.symm.trans device'
    refine .ended after rfl drained ?_ ⟨d, r.loop, _, wrote, way, status, rfl, rfl⟩
    rw [Reader.after, status]
    rfl
  | alarm head => cases turn.of_head head
  | began empty =>
    obtain ⟨rest, head⟩ := turn
    cases empty.symm.trans head

/-- **Every turn takes every loop where it comes alone.** -/
theorem Goes.follows (goes : Goes s t made) (orderly : s.Orderly) (timed : s.Timed)
    (paced : s.Paced) (follows : s.Follows place i d₀ l₀ t₀ wrote) :
    t.Follows place i d₀ l₀ t₀ (wrote ++ s.writesTo i) := by
  cases follows with
  | ended reader drains device ended finishes =>
    subst drains
    have waits : ¬ s.HasTurn place := by
      rintro ⟨rest, head⟩
      obtain ⟨r', reader', live⟩ := orderly.live_of_turn head
      cases reader.symm.trans reader'
      exact live ended
    rw [writesTo_of_waits orderly.toSeated reader waits, List.append_nil]
    rcases goes.reader_cases orderly.toSeated reader device with
      ⟨-, reader', device'⟩ | ⟨turn, -⟩
    · exact .ended reader' rfl device' ended finishes
    · exact absurd turn waits
  | going reader drains device live called asleep =>
    subst drains
    rcases goes.reader_cases orderly.toSeated reader device with
      ⟨waits, reader', device'⟩ | ⟨turn, after, drained⟩
    · obtain ⟨called', asleep'⟩ := goes.waits timed waits
      rw [writesTo_of_waits orderly.toSeated reader waits, List.append_nil]
      refine .going reader' rfl device' live (fun mem => ?_) fun time mem =>
        asleep time (asleep' time mem)
      rcases called' mem with ⟨old, same⟩ | woken
      · rw [same]
        exact called old
      · exact asleep _ woken
    · refine goes.follows_own orderly timed paced turn reader device (called ?_) after drained
      obtain ⟨rest, head⟩ := turn
      refine ⟨.turn (.reader place), ?_, rfl⟩
      rw [head]
      exact List.mem_cons_self

/-! ## All loops at once -/

/-- The pauses of the frame loop and of every loop that runs alone are numbers. -/
structure PacedFrom (e : Emulator) : Prop where
  frames : ∀ seconds, e.settings.frameInterval = .ok seconds → seconds ≠ .nan
  loops : ∀ r₀ ∈ readersOf e.devices, ∀ d₀, e.devices[r₀.device]? = some d₀ →
    ∀ d l time wrote seconds, Alone d₀ r₀.loop e.time d l time wrote →
      (l.step d time).status = .asleep seconds → seconds ≠ .nan

/-- What a service has come to, with the services that had a turn before. -/
structure Isolated (e : Emulator) (past : List Service) (s : Service) : Prop where
  orderly : s.Orderly
  timed : s.Timed
  settings : s.emulator.settings = e.settings
  places : s.readers.map Reader.device = (readersOf e.devices).map Reader.device
  follows : ∀ (place : Nat) (r₀ : Reader) (d₀ : Device), (readersOf e.devices)[place]? = some r₀ →
    e.devices[r₀.device]? = some d₀ →
    s.Follows place r₀.device d₀ r₀.loop e.time (past.flatMap (·.writesTo r₀.device))
  unread : ∀ i, i ∉ (readersOf e.devices).map Reader.device →
    s.emulator.devices[i]? = e.devices[i]? ∧ past.flatMap (·.writesTo i) = []

theorem isolated_start (time : e.time.IsTime) (limit : Option Int) :
    Isolated e [] (start e limit) where
  orderly := orderly_start e limit
  timed := timed_start time limit
  settings := rfl
  places := rfl
  follows place r₀ d₀ reader device := by
    obtain ⟨i, d, k, -, -, -, rfl⟩ := mem_readersOf.1 (List.mem_of_getElem? reader)
    refine .going reader rfl device ReaderStatus.noConfusion (fun _ => .start) fun time asleep => ?_
    obtain ⟨u, mem, -⟩ := asleep
    exact absurd mem (Array.not_mem_empty u)
  unread _ _ := ⟨rfl, rfl⟩

/-- The readers are where they were at the start. -/
theorem Isolated.exists_reader (isolated : Isolated e past s)
    (reader : s.readers[place]? = some r) :
    ∃ r₀ d₀, (readersOf e.devices)[place]? = some r₀ ∧ r.device = r₀.device ∧
      e.devices[r₀.device]? = some d₀ := by
  have same : (readersOf e.devices)[place]?.map Reader.device = some r.device := by
    rw [← List.getElem?_map, ← isolated.places, List.getElem?_map, reader, Option.map_some]
  obtain ⟨r₀, reader₀, drains⟩ := Option.map_eq_some_iff.1 same
  obtain ⟨i, d₀, k, device, -, -, rfl⟩ := mem_readersOf.1 (List.mem_of_getElem? reader₀)
  exact ⟨_, d₀, reader₀, drains.symm, device⟩

theorem Isolated.paced (isolated : Isolated e past s) (paced : PacedFrom e) : s.Paced where
  frames seconds interval := paced.frames seconds (isolated.settings ▸ interval)
  loops place r d seconds turn reader device status := by
    obtain ⟨rest, head⟩ := turn
    obtain ⟨r₀, d₀, reader₀, drains, device₀⟩ := isolated.exists_reader reader
    rw [drains] at device
    cases isolated.follows place r₀ d₀ reader₀ device₀ with
    | ended reader' _ _ ended =>
      obtain ⟨r'', reader'', live⟩ := isolated.orderly.live_of_turn head
      cases reader'.symm.trans reader''
      exact absurd ended live
    | going reader' _ device' _ called =>
      cases reader.symm.trans reader'
      cases device.symm.trans device'
      refine paced.loops r₀ (List.mem_of_getElem? reader₀) d₀ device₀ d r.loop _ _ seconds
        (called ⟨.turn (.reader place), ?_, rfl⟩) status
      rw [head]
      exact List.mem_cons_self

theorem Goes.settings (goes : Goes s t made) :
    t.emulator.settings = s.emulator.settings := by
  cases goes with
  | shown =>
    rw [emulator_sleep]
    exact s.emulator.settings_frame
  | idle => rfl
  | running => rfl
  | asleep =>
    rw [emulator_sleep]
    rfl
  | ended => rfl
  | alarm => rfl
  | began => rfl

/-- **Every turn keeps the loops isolated.** -/
theorem Goes.isolated (goes : Goes s t made) (paced : PacedFrom e)
    (isolated : Isolated e past s) : Isolated e (past ++ [s]) t where
  orderly := goes.orderly isolated.orderly
  timed := goes.timed isolated.timed (isolated.paced paced)
  settings := goes.settings.trans isolated.settings
  places := goes.places.trans isolated.places
  follows place r₀ d₀ reader₀ device₀ := by
    rw [List.flatMap_append, List.flatMap_singleton]
    exact goes.follows isolated.orderly isolated.timed (isolated.paced paced)
      (isolated.follows place r₀ d₀ reader₀ device₀)
  unread i free := by
    obtain ⟨device, silent⟩ := isolated.unread i free
    rw [← isolated.places] at free
    rw [List.flatMap_append, List.flatMap_singleton, silent, writesTo_of_unread free]
    exact ⟨(goes.device_of_unread free).trans device, rfl⟩

/-- **The loops of every service that is reached are isolated.** -/
theorem Reaches.isolated (way : Reaches (Service.start e limit) past t) (time : e.time.IsTime)
    (paced : PacedFrom e) : Isolated e past t :=
  way.keeps (Isolated e) (isolated_start time limit) fun _ _ _ _ goes isolated =>
    goes.isolated paced isolated

/-! ## The end -/

/-- What became of a device whose loop came to its end, or is somewhere on its way. -/
theorem Follows.cases (follows : s.Follows place i d₀ l₀ t₀ wrote) (orderly : s.Orderly) :
    ∃ r d, s.readers[place]? = some r ∧ r.device = i ∧ s.emulator.devices[i]? = some d ∧
      ((r.status = .over ∧ ∃ result, Finishes d₀ l₀ t₀ result d wrote) ∨
        (r.status ≠ .over ∧ ∃ time, Alone d₀ l₀ t₀ d r.loop time wrote)) := by
  cases follows with
  | @ended r d result reader drains device ended finishes =>
    exact ⟨r, d, reader, drains, device, .inl ⟨ended, result, finishes⟩⟩
  | @going r d reader drains device live called asleep =>
    refine ⟨r, d, reader, drains, device, .inr ⟨live, ?_⟩⟩
    -- A loop that is not over has something to come.
    rcases List.mem_append.1 ((orderly.live place).2 ⟨r, reader, live⟩) with call | timer
    · obtain ⟨call, mem, own⟩ := List.mem_map.1 call
      exact ⟨_, called ⟨call, mem, own⟩⟩
    · obtain ⟨u, mem, own⟩ := List.mem_map.1 timer
      exact ⟨_, asleep u.due ⟨u, Array.mem_toList_iff.1 mem, own, rfl⟩⟩

/-- **What the end of a service makes of a device that is drained.** -/
theorem Ends.follows (ends : Ends s turn) (isolated : Isolated e past s) {r₀ : Reader}
    (reader₀ : (readersOf e.devices)[place]? = some r₀)
    (device₀ : e.devices[r₀.device]? = some d₀) :
    ∃ d, turn.service.emulator.devices[r₀.device]? = some d ∧
      ((∃ result, Finishes d₀ r₀.loop e.time result d
            (past.flatMap (·.writesTo r₀.device))) ∨
        (s.allOver = false ∧ ∃ before l time,
          Alone d₀ r₀.loop e.time before l time (past.flatMap (·.writesTo r₀.device)) ∧
            (d = before ∨ d = (l.cancel before).state))) := by
  obtain ⟨r, d, reader, drains, device, state⟩ :=
    (isolated.follows place r₀ d₀ reader₀ device₀).cases isolated.orderly
  have last := ends.device isolated.orderly.toSeated reader (drains ▸ device)
  rw [drains] at last
  refine ⟨_, last, ?_⟩
  rcases state with ⟨ended, finishes⟩ | ⟨live, time, way⟩
  · rw [if_neg (by rw [ended]; exact ReaderStatus.noConfusion)]
    exact .inl finishes
  · have going : s.allOver = false := by
      refine List.all_eq_false.2 ⟨r, List.mem_of_getElem? reader, ?_⟩
      rw [decide_eq_true_iff]
      exact live
    refine .inr ⟨going, d, r.loop, time, way, ?_⟩
    split
    · exact .inr rfl
    · exact .inl rfl

/-- The last turn of a service writes to no device. -/
theorem Ends.writesTo (ends : Ends s turn) (i : Nat) : s.writesTo i = [] := by
  refine writesTo_of_ne fun place r turn _ => ?_
  cases ends with
  | limited head => cases turn.of_head head
  | unshown head => cases turn.of_head head
  | lastShown head => cases turn.of_head head
  | unpaused head => cases turn.of_head head
  | deserted empty =>
    obtain ⟨rest, head⟩ := turn
    cases empty.symm.trans head

end Service

/-- The pieces that a service writes to the device at a place. -/
def Emulator.writesTo (e : Emulator) (limit : Option Int) (fuel i : Nat) : List Piece :=
  (Service.turns fuel (Service.start e limit)).flatMap (·.writesTo i)

end MotionEmulator
