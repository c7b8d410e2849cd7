import MotionEmulator.Proofs.Service.Closing

/-!
# What a service lets go of

A read loop that has had a turn lets go of its link in the end, whether its stream ends, its device
refuses a piece or it is cancelled (`Tended`). A loop that has had none is dropped, and then its
device keeps the link. Once the frame loop has come to its first pause, every loop has its first
turn before the frame loop has its second (`Manned`), so links are kept exactly by services that
end before that pause (`serve_releases_iff`): those with a limit below one, those whose first frame
cannot be shown and those whose pause cannot be computed.
-/

namespace MotionEmulator

/-- The frame loop, served with a limit, comes to its first pause. -/
structure Emulator.Opens (e : Emulator) (limit : Option Int) : Prop where
  limit : ∀ n, limit = some n → 1 ≤ n
  frame : e.frame.result = .ok ()
  interval : ∃ seconds, e.settings.frameInterval = .ok seconds

namespace Service

variable {s t : Service} {made : List Entry} {past : List Service} {rest : List Call} {place : Nat}
  {r : Reader} {d d₀ : Device} {turn : Turn} {e : Emulator} {limit : Option Int} {i k : Nat}

/-! ## First turns -/

/-- The loop at a place has a turn to come before the frame loop has one. -/
def AheadOfFrames (s : Service) (place : Nat) : Prop :=
  ∃ before after, s.round ++ s.next = before ++ .turn (.reader place) :: after ∧
    .turn .frames ∉ before

/-- Every loop has its first turn before the frame loop has another one. -/
def Manned (s : Service) : Prop :=
  ∀ (place : Nat) (r : Reader), s.readers[place]? = some r → r.status = .unstarted →
    s.AheadOfFrames place

theorem AheadOfFrames.of_append (ahead : s.AheadOfFrames place) (more : List Call)
    (calls : t.round ++ t.next = s.round ++ s.next ++ more) : t.AheadOfFrames place := by
  obtain ⟨before, after, split, free⟩ := ahead
  refine ⟨before, after ++ more, ?_, free⟩
  rw [calls, split, List.append_assoc, List.cons_append]

/-- The turn of a loop other than the one at the place leaves it ahead. -/
theorem AheadOfFrames.of_tail (ahead : s.AheadOfFrames place) (waits : ¬ s.HasTurn place)
    {call : Call} (head : s.round = call :: rest) (more : List Call)
    (calls : t.round ++ t.next = rest ++ s.next ++ more) : t.AheadOfFrames place := by
  obtain ⟨before, after, split, free⟩ := ahead
  rw [head, List.cons_append] at split
  cases before with
  | nil =>
    obtain ⟨rfl, -⟩ := List.cons.inj split
    exact absurd ⟨rest, head⟩ waits
  | cons first before =>
    have split' : rest ++ s.next = before ++ .turn (.reader place) :: after :=
      (List.cons.inj split).2
    refine ⟨before, after ++ more, ?_, fun mem => free (List.mem_cons_of_mem _ mem)⟩
    rw [calls, split', List.append_assoc, List.cons_append]

theorem AheadOfFrames.not_turn (ahead : s.AheadOfFrames place) :
    s.round ≠ .turn .frames :: rest := by
  intro head
  obtain ⟨before, after, split, free⟩ := ahead
  rw [head, List.cons_append] at split
  cases before with
  | nil => cases (List.cons.inj split).1
  | cons first before =>
    obtain ⟨own, -⟩ := List.cons.inj split
    exact free (own ▸ List.mem_cons_self)

theorem exists_next_sleep (s : Service) (who : Runner) (seconds : Binary64) :
    ∃ more, (s.sleep who seconds).next = s.next ++ more := by
  unfold sleep
  split
  · exact ⟨_, rfl⟩
  · exact ⟨[], (List.append_nil _).symm⟩

/-- A loop that a turn leaves without a first turn had none before, and the turn was not its own. -/
theorem Goes.unstarted (goes : Goes s t made) (seated : s.Seated)
    (reader : t.readers[place]? = some r) (unstarted : r.status = .unstarted) :
    s.readers[place]? = some r ∧ ¬ s.HasTurn place := by
  have inside : place < s.readers.length := by
    have length := congrArg List.length goes.places
    rw [List.length_map, List.length_map] at length
    exact length ▸ (List.getElem?_eq_some_iff.1 reader).1
  have reader' := List.getElem?_eq_getElem inside
  obtain ⟨d, device⟩ := seated.device_of_reader reader'
  rcases goes.reader_cases seated reader' device with ⟨waits, same, -⟩ | ⟨-, after, -⟩
  · exact ⟨reader'.trans (same.symm.trans reader), waits⟩
  · rw [after] at reader
    cases reader
    rw [Reader.after] at unstarted
    revert unstarted
    cases (ReadLoop.step d _ s.emulator.time).status <;> rintro ⟨⟩

/-- **Every loop has its first turn before the frame loop has its second.** -/
theorem Goes.manned (goes : Goes s t made) (seated : s.Seated) (manned : s.Manned) :
    t.Manned := by
  intro place r reader unstarted
  obtain ⟨reader', waits⟩ := goes.unstarted seated reader unstarted
  have ahead := manned place r reader' unstarted
  cases goes with
  | shown head => exact absurd head ahead.not_turn
  | idle head => exact ahead.of_tail waits head [] (List.append_nil _).symm
  | running => exact ahead.of_append [] (List.append_nil _).symm
  | @asleep rest q r' d' seconds head =>
    obtain ⟨more, next⟩ := exists_next_sleep
      { s.stepped q r' (r'.loop.step d' s.emulator.time) with round := rest } (.reader q) seconds
    refine ahead.of_tail waits head more ?_
    rw [round_sleep, next, ← List.append_assoc]
    rfl
  | ended head => exact ahead.of_tail waits head [] (List.append_nil _).symm
  | alarm head => exact ahead.of_tail waits head _ (List.append_assoc ..).symm
  | began empty =>
    refine ahead.of_append ((s.timers.popDue s.roundTime).1.map .alarm) ?_
    rw [beginRound_eq, empty, List.append_nil, List.nil_append]

/-- Where every loop has had its turn first, a service ends with none that had no turn. -/
theorem Ends.started (ends : Ends s turn) (manned : s.Manned)
    (reader : s.readers[place]? = some r) : r.status ≠ .unstarted := by
  intro unstarted
  have ahead := manned place r reader unstarted
  cases ends with
  | limited head => exact ahead.not_turn head
  | unshown head => exact ahead.not_turn head
  | lastShown head => exact ahead.not_turn head
  | unpaused head => exact ahead.not_turn head
  | deserted empty nobody =>
    obtain ⟨before, after, split, -⟩ := ahead
    rw [empty, nobody] at split
    cases List.append_eq_nil_iff.1 split.symm with
    | intro _ absurd => cases absurd

/-! ## The first pause -/

/-- With the first pause every loop has its first turn to come. -/
theorem Goes.opens (goes : Goes (Service.start e limit) t made) : e.Opens limit ∧ t.Manned := by
  cases goes with
  | @shown rest seconds head going free frame interval =>
    refine ⟨⟨fun n eq => ?_, frame, seconds, ?_⟩, fun place r reader _ => ?_⟩
    · subst eq
      have unreached : ¬ n ≤ 0 := by simpa [isLimitReached, Service.start] using free
      omega
    · rw [← e.settings_frame]
      exact interval
    · obtain ⟨-, rfl⟩ := List.cons.inj head
      rw [readers_sleep] at reader
      have inside : place < (readersOf e.devices).length := (List.getElem?_eq_some_iff.1 reader).1
      obtain ⟨before, after, split⟩ := List.append_of_mem
        (List.mem_map_of_mem (f := fun place => Call.turn (.reader place))
          (List.mem_range.2 inside))
      obtain ⟨more, next⟩ := exists_next_sleep
        { (Service.start e limit).framed with
          round := [], shown := (Service.start e limit).shown + 1 }
        .frames seconds
      refine ⟨before, after ++ more, ?_, fun mem => ?_⟩
      · rw [round_sleep, next]
        change (List.range (readersOf e.devices).length).map _ ++ more = _
        rw [split, List.append_assoc, List.cons_append]
      · have mem' := split ▸ List.mem_append_left (Call.turn (.reader place) :: after) mem
        obtain ⟨q, -, eq⟩ := List.mem_map.1 mem'
        cases eq
  | idle head => cases head
  | running head => cases head
  | asleep head => cases head
  | ended head => cases head
  | alarm head => cases head
  | began empty => cases empty

/-- A service that goes beyond its first turn has come to the first pause. -/
theorem Reaches.start_or (way : Reaches (Service.start e limit) past t) :
    t.Orderly ∧ (t = Service.start e limit ∨ (e.Opens limit ∧ t.Manned)) := by
  induction way with
  | start => exact ⟨orderly_start e limit, .inl rfl⟩
  | step way going ih =>
    obtain ⟨orderly, rfl | ⟨opens, manned⟩⟩ := ih
    · exact ⟨(goes_of_result going).orderly orderly, .inr (goes_of_result going).opens⟩
    · have goes := goes_of_result going
      exact ⟨goes.orderly orderly, .inr ⟨opens, goes.manned orderly.toSeated manned⟩⟩

/-! ## Links -/

/-- The device at a place among the devices is being drained of its link, or has been. -/
def Tended (s : Service) (i k : Nat) : Prop :=
  ∃ (place : Nat) (r : Reader) (d : Device), s.readers[place]? = some r ∧ r.device = i ∧
    s.emulator.devices[i]? = some d ∧
    ((r.status = .over ∧ d.Released k) ∨ (r.status ≠ .over ∧ ReadLoop.Engaged d k r.loop))

theorem tended_start (device : e.devices[i]? = some d) (connected : d.isConnected = true)
    (attached : d.attached = some k) : (Service.start e limit).Tended i k := by
  have mem : readerAt i k ∈ readersOf e.devices :=
    mem_readersOf.2 ⟨i, d, k, device, connected, attached, rfl⟩
  obtain ⟨place, reader⟩ := List.mem_iff_getElem?.1 mem
  obtain ⟨k', attached', inside⟩ := exists_attached_of_isConnected connected
  obtain rfl : k = k' := Option.some.inj (attached.symm.trans attached')
  refine ⟨place, _, d, reader, rfl, device, .inr ⟨ReaderStatus.noConfusion, ?_⟩⟩
  exact ⟨attached, inside, rfl, rfl⟩

/-- **Every turn goes on draining a link or lets go of it.** -/
theorem Goes.tended (goes : Goes s t made) (orderly : s.Orderly) (tended : s.Tended i k) :
    t.Tended i k := by
  obtain ⟨place, r, d, reader, rfl, device, held⟩ := tended
  rcases goes.reader_cases orderly.toSeated reader device with
    ⟨-, reader', device'⟩ | ⟨turn, reader', device'⟩
  · exact ⟨place, r, d, reader', rfl, device', held⟩
  · obtain ⟨rest, head⟩ := turn
    obtain ⟨r', found, live⟩ := orderly.live_of_turn head
    obtain rfl : r = r' := Option.some.inj (reader.symm.trans found)
    have engaged := (held.resolve_left fun ended => live ended.1).2
    refine ⟨place, _, _, reader', rfl, device', ?_⟩
    rcases engaged.step s.emulator.time with
      ⟨running | ⟨seconds, asleep⟩, engaged'⟩ | ⟨⟨result, ended⟩, released⟩
    · refine .inr ⟨?_, engaged'⟩
      rw [Reader.after, running]
      exact ReaderStatus.noConfusion
    · refine .inr ⟨?_, engaged'⟩
      rw [Reader.after, asleep]
      exact ReaderStatus.noConfusion
    · refine .inl ⟨?_, released⟩
      rw [Reader.after, ended]
      rfl

/-- The end of a service lets go of every link whose loop has had a turn. -/
theorem Ends.released (ends : Ends s turn) (seated : s.Seated) (manned : s.Manned)
    (tended : s.Tended i k) : ∃ d, turn.service.emulator.devices[i]? = some d ∧ d.Released k := by
  obtain ⟨place, r, d, reader, rfl, device, held⟩ := tended
  refine ⟨_, ends.device seated reader device, ?_⟩
  rcases held with ⟨ended, released⟩ | ⟨live, engaged⟩
  · rw [if_neg (by rw [ended]; exact ReaderStatus.noConfusion)]
    exact released
  · have started := ends.started manned reader
    have underway : r.status = .underway := by
      rcases status : r.status with _ | _ | _
      · exact absurd status started
      · rfl
      · exact absurd status live
    rw [if_pos underway]
    exact engaged.cancel

/-- A service that ends with its first turn leaves every device as it was. -/
theorem Ends.device_of_start (ends : Ends (Service.start e limit) turn)
    (device : e.devices[i]? = some d) :
    turn.service.emulator.devices[i]? = some d := by
  have seated := (orderly_start e limit).toSeated
  by_cases drained : i ∈ (readersOf e.devices).map Reader.device
  · obtain ⟨r, mem, rfl⟩ := List.mem_map.1 drained
    obtain ⟨place, reader⟩ := List.mem_iff_getElem?.1 mem
    obtain ⟨i, d', k, -, -, -, rfl⟩ := mem_readersOf.1 mem
    exact ends.device seated reader device
  · exact (ends.device_of_unread seated drained).trans device

/-- A service with a loop that ends with its first turn does not come to the first pause. -/
theorem Ends.not_opens (ends : Ends (Service.start e limit) turn)
    (connected : ∃ d ∈ e.devices, d.isConnected = true) : ¬ e.Opens limit := by
  intro opens
  cases ends with
  | limited _ _ reached =>
    cases limit with
    | none => cases reached
    | some n =>
      have positive := opens.limit n rfl
      have reached' : n ≤ 0 := by simpa [isLimitReached, Service.start] using reached
      omega
  | unshown _ _ frame => cases frame.symm.trans opens.frame
  | lastShown _ allOver =>
    obtain ⟨d, mem, connected⟩ := connected
    obtain ⟨i, device⟩ := List.mem_iff_getElem?.1 mem
    obtain ⟨k, attached, -⟩ := exists_attached_of_isConnected connected
    have reader : readerAt i k ∈ readersOf e.devices :=
      mem_readersOf.2 ⟨i, d, k, device, connected, attached, rfl⟩
    cases of_decide_eq_true (List.all_eq_true.1 allOver _ reader)
  | unpaused _ _ _ _ interval =>
    obtain ⟨seconds, interval'⟩ := opens.interval
    rw [show (Service.start e limit).emulator = e from rfl, e.settings_frame, interval'] at interval
    cases interval
  | deserted empty => cases empty

end Service

open Service

/-- **A service lets go of every link that it began to drain, unless it ends before its first
pause.** -/
theorem Emulator.serve_releases_iff (e : Emulator) (limit : Option Int) (fuel : Nat)
    (ended : (e.serve limit fuel).result ≠ .ok none) :
    (∀ (i : Nat) (d : Device) (k : Nat), e.devices[i]? = some d → d.isConnected = true →
        d.attached = some k → ∃ d' : Device, (e.serve limit fuel).state.devices[i]? = some d' ∧
          d'.Released k) ↔
      (∀ d ∈ e.devices, d.isConnected = false) ∨ e.Opens limit := by
  obtain ⟨t, past, way, ⟨none, -⟩ | ⟨result, last, -, state, -⟩⟩ := e.serve_cases limit fuel
  · exact absurd none ended
  have ends := ends_of_result last
  rw [state]
  obtain ⟨orderly, first | ⟨opens, manned⟩⟩ := way.start_or
  · -- The first turn was the last one: no device is touched, so a connected one keeps its link.
    subst first
    constructor
    · intro released
      refine .inl fun d mem => Bool.eq_false_iff.2 fun connected => ?_
      obtain ⟨i, device⟩ := List.mem_iff_getElem?.1 mem
      obtain ⟨k, attached, -⟩ := exists_attached_of_isConnected connected
      obtain ⟨d', device', free, -⟩ := released i d k device connected attached
      cases device'.symm.trans (ends.device_of_start device)
      cases attached.symm.trans free
    · rintro (none | opens) i d k device connected attached
      · cases connected.symm.trans (none d (List.mem_of_getElem? device))
      · exact absurd opens (ends.not_opens ⟨d, List.mem_of_getElem? device, connected⟩)
  · refine ⟨fun _ => .inr opens, fun _ i d k device connected attached => ?_⟩
    have tended : t.Tended i k :=
      (way.keeps (fun _ t => t.Orderly ∧ t.Tended i k)
        ⟨orderly_start e limit, tended_start device connected attached⟩
        fun _ _ _ _ goes old => ⟨goes.orderly old.1, goes.tended old.1 old.2⟩).2
    exact ends.released orderly.toSeated manned tended

/-- Of two streams one ends and one is cancelled in a pause of its own; both links are let go of. -/
theorem Emulator.serve_releases_iff_cancelled :
    ∃ (e : Emulator) (fuel : Nat), (e.serve (some 1) fuel).result ≠ .ok none ∧
      e.Opens (some 1) ∧
      ∀ (i : Nat) (d : Device) (k : Nat), e.devices[i]? = some d → d.isConnected = true →
        d.attached = some k → ∃ d' : Device, (e.serve (some 1) fuel).state.devices[i]? = some d' ∧
          d'.Released k := by
  let e := ((Emulator.fresh {} (.recording #[]) 0).attachDevice 0
    (.scripted { scripted := [['L', '0', '5', '\n']] })).attachDevice 1
    (.scripted { scripted := [['L', '1', '5', '\n']], interval := 1 })
  have ended : (e.serve (some 1) 14).result ≠ .ok none := by decide +kernel
  have opens : e.Opens (some 1) :=
    ⟨fun n eq => (Option.some.inj eq).le, by decide +kernel, 1 / 60, by decide +kernel⟩
  exact ⟨e, 14, ended, opens, (e.serve_releases_iff (some 1) 14 ended).2 (.inr opens)⟩

/-- A service without frames drops the loop that it began, and the device stays connected. -/
theorem Emulator.serve_zero_keeps_link :
    ∃ (e : Emulator) (fuel : Nat), e.devices[0]?.any Device.isConnected = true ∧
      (e.serve (some 0) fuel).result = .ok (some ()) ∧
      (e.serve (some 0) fuel).state.devices[0]?.any Device.isConnected = true :=
  ⟨(Emulator.fresh {} (.recording #[]) 0).attachDevice 0
    (.scripted { scripted := [['L', '0', '5', '\n']], interval := 1 }), 1, by decide +kernel⟩

end MotionEmulator
