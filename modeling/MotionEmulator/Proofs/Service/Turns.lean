import MotionEmulator.Service

/-!
# What a turn can do

`Service.Goes` has one constructor for each thing that a turn of a service that goes on can do,
and `Service.Ends` one for each way in which a turn ends the service; `takes_step` says that there
is nothing else. `Service.Reaches` are the services that a service becomes turn by turn, with all
those that it was before, and `run_cases` says what `Service.run` gives back: a service that is
reached, or the last turn of one.
-/

namespace MotionEmulator

/-- How far a read loop has come with a step of this status. -/
def LoopStatus.reached : LoopStatus → ReaderStatus
  | .over _ => .over
  | _ => .underway

/-- A reader after a step of its loop. -/
def Reader.after (r : Reader) (step : LoopStep) : Reader :=
  { r with loop := step.loop, status := step.status.reached }

namespace Service

/-- The service with a reader at a place, and with the device that the reader drains. -/
def put (s : Service) (place : Nat) (r : Reader) (d : Device) : Service :=
  { s with
    emulator := { s.emulator with devices := s.emulator.devices.set r.device d }
    readers := s.readers.set place r }

/-- The service after a step of the read loop at a place. -/
def stepped (s : Service) (place : Nat) (r : Reader) (step : LoopStep) : Service :=
  s.put place (r.after step) step.device

/-- The service after a frame. -/
def framed (s : Service) : Service :=
  { s with emulator := s.emulator.frame.state }

section Sleep

variable (s : Service) (who : Runner) (seconds : Binary64)

@[simp] theorem readers_sleep : (s.sleep who seconds).readers = s.readers := by
  unfold sleep
  split <;> rfl

@[simp] theorem emulator_sleep : (s.sleep who seconds).emulator = s.emulator := by
  unfold sleep
  split <;> rfl

@[simp] theorem limit_sleep : (s.sleep who seconds).limit = s.limit := by
  unfold sleep
  split <;> rfl

@[simp] theorem shown_sleep : (s.sleep who seconds).shown = s.shown := by
  unfold sleep
  split <;> rfl

@[simp] theorem round_sleep : (s.sleep who seconds).round = s.round := by
  unfold sleep
  split <;> rfl

end Sleep

/-- The time of the next round. -/
def roundTime (s : Service) : Binary64 :=
  match s.next, s.timers[0]? with
  | [], some first => laterOf s.emulator.time first.due
  | _, _ => s.emulator.time

theorem beginRound_eq (s : Service) :
    s.beginRound =
      { s with
        emulator := { s.emulator with time := s.roundTime }
        round := s.next ++ (s.timers.popDue s.roundTime).1.map .alarm
        next := []
        timers := (s.timers.popDue s.roundTime).2 } := rfl

/-- A turn after which the service goes on, with the entries it makes. -/
inductive Goes (s : Service) : Service → List Entry → Prop
  | shown {rest : List Call} {seconds : Binary64} (head : s.round = .turn .frames :: rest)
      (going : s.allOver = false) (free : s.isLimitReached = false)
      (frame : s.emulator.frame.result = .ok ())
      (interval : s.emulator.frame.state.settings.frameInterval = .ok seconds) :
      Goes s ({ s.framed with round := rest, shown := s.shown + 1 }.sleep .frames seconds)
        s.emulator.frame.entries
  | idle {rest : List Call} {place : Nat} (head : s.round = .turn (.reader place) :: rest)
      (nobody : ∀ r, s.readers[place]? = some r → s.emulator.devices[r.device]? = none) :
      Goes s { s with round := rest } []
  | running {rest : List Call} {place : Nat} {r : Reader} {d : Device}
      (head : s.round = .turn (.reader place) :: rest) (reader : s.readers[place]? = some r)
      (device : s.emulator.devices[r.device]? = some d)
      (status : (r.loop.step d s.emulator.time).status = .running) :
      Goes s (s.stepped place r (r.loop.step d s.emulator.time))
        (r.loop.step d s.emulator.time).entries
  | asleep {rest : List Call} {place : Nat} {r : Reader} {d : Device} {seconds : Binary64}
      (head : s.round = .turn (.reader place) :: rest) (reader : s.readers[place]? = some r)
      (device : s.emulator.devices[r.device]? = some d)
      (status : (r.loop.step d s.emulator.time).status = .asleep seconds) :
      Goes s
        ({ s.stepped place r (r.loop.step d s.emulator.time) with round := rest }.sleep
          (.reader place) seconds)
        (r.loop.step d s.emulator.time).entries
  | ended {rest : List Call} {place : Nat} {r : Reader} {d : Device} {result : Except Fault Unit}
      (head : s.round = .turn (.reader place) :: rest) (reader : s.readers[place]? = some r)
      (device : s.emulator.devices[r.device]? = some d)
      (status : (r.loop.step d s.emulator.time).status = .over result) :
      Goes s { s.stepped place r (r.loop.step d s.emulator.time) with round := rest }
        (r.loop.step d s.emulator.time).entries
  | alarm {rest : List Call} {who : Runner} (head : s.round = .alarm who :: rest) :
      Goes s { s with round := rest, next := s.next ++ [.turn who] } []
  | began (empty : s.round = []) (ready : s.next ≠ [] ∨ s.timers ≠ #[]) : Goes s s.beginRound []

/-- A turn that ends the service. -/
inductive Ends (s : Service) : Turn → Prop
  | limited {rest : List Call} (head : s.round = .turn .frames :: rest)
      (going : s.allOver = false) (reached : s.isLimitReached = true) :
      Ends s ({ s with round := rest }.finish [] (.ok ()))
  | unshown {rest : List Call} {cause : Fault} (head : s.round = .turn .frames :: rest)
      (due : s.allOver = true ∨ s.isLimitReached = false)
      (frame : s.emulator.frame.result = .error cause) :
      Ends s ({ s.framed with round := rest }.finish s.emulator.frame.entries (.error cause))
  | lastShown {rest : List Call} (head : s.round = .turn .frames :: rest)
      (allOver : s.allOver = true) (frame : s.emulator.frame.result = .ok ()) :
      Ends s ({ s.framed with round := rest }.finish s.emulator.frame.entries (.ok ()))
  | unpaused {rest : List Call} {cause : Fault} (head : s.round = .turn .frames :: rest)
      (going : s.allOver = false) (free : s.isLimitReached = false)
      (frame : s.emulator.frame.result = .ok ())
      (interval : s.emulator.frame.state.settings.frameInterval = .error cause) :
      Ends s
        ({ s.framed with round := rest, shown := s.shown + 1 }.finish s.emulator.frame.entries
          (.error cause))
  | deserted (empty : s.round = []) (nobody : s.next = []) (silent : s.timers = #[]) :
      Ends s (s.finish [] (.ok ()))

/-- A turn that can be taken: the service goes on after it or it ends. -/
def Takes (s : Service) (turn : Turn) : Prop :=
  (turn.result = none ∧ Goes s turn.service turn.entries) ∨ Ends s turn

variable {s t u : Service} {made later : List Entry} {rest : List Call}

theorem takes_frameTurn (head : s.round = .turn .frames :: rest) :
    s.Takes { s with round := rest }.frameTurn := by
  unfold frameTurn
  split
  · next stop =>
    obtain ⟨going, reached⟩ : s.allOver = false ∧ s.isLimitReached = true := by
      simpa [allOver, isLimitReached] using stop
    exact .inr (.limited head going reached)
  · next free =>
    have due : s.allOver = true ∨ s.isLimitReached = false := by
      rw [Bool.not_eq_true, Bool.and_eq_false_iff, Bool.not_eq_false'] at free
      exact free
    dsimp only
    split
    · next cause frame => exact .inr (.unshown head due frame)
    · next frame =>
      split
      · next allOver => exact .inr (.lastShown head allOver frame)
      · next going =>
        have going' : s.allOver = false := Bool.eq_false_iff.2 going
        have free' : s.isLimitReached = false := due.resolve_left going
        split
        · next cause interval => exact .inr (.unpaused head going' free' frame interval)
        · next seconds interval => exact .inl ⟨rfl, .shown head going' free' frame interval⟩

theorem takes_readerTurn {place : Nat} (head : s.round = .turn (.reader place) :: rest) :
    s.Takes ({ s with round := rest }.readerTurn place) := by
  unfold readerTurn
  split
  · next none =>
    refine .inl ⟨rfl, .idle head fun r found => ?_⟩
    cases none.symm.trans found
  · next r reader =>
    split
    · next none =>
      refine .inl ⟨rfl, .idle head fun r' found => ?_⟩
      obtain rfl : r = r' := Option.some.inj (reader.symm.trans found)
      exact none
    · next d device =>
      dsimp only
      rcases status : (r.loop.step d s.emulator.time).status with _ | seconds | result
      · have moved := Goes.running head reader device status
        simp only [stepped, put, Reader.after, status, LoopStatus.reached, head] at moved
        exact .inl ⟨rfl, moved⟩
      · have moved := Goes.asleep head reader device status
        simp only [stepped, put, Reader.after, status, LoopStatus.reached] at moved
        exact .inl ⟨rfl, moved⟩
      · have moved := Goes.ended head reader device status
        simp only [stepped, put, Reader.after, status, LoopStatus.reached] at moved
        exact .inl ⟨rfl, moved⟩

/-- **Every turn is one of those that can be taken.** -/
theorem takes_step (s : Service) : s.Takes s.step := by
  unfold step
  split
  · next rest head => exact takes_frameTurn head
  · next place rest head => exact takes_readerTurn head
  · next who rest head => exact .inl ⟨rfl, .alarm head⟩
  · next empty =>
    split
    · next quiet =>
      obtain ⟨nobody, silent⟩ : s.next = [] ∧ s.timers = #[] := by
        simpa using quiet
      exact .inr (.deserted empty nobody silent)
    · next awake =>
      refine .inl ⟨rfl, .began empty ?_⟩
      rw [Bool.and_eq_true, List.isEmpty_iff, Array.isEmpty_iff] at awake
      exact Decidable.not_and_iff_or_not.1 awake

theorem Ends.exists_result {turn : Turn} (ends : Ends s turn) :
    ∃ result, turn.result = some result := by
  cases ends <;> exact ⟨_, rfl⟩

theorem goes_of_result (going : s.step.result = none) : Goes s s.step.service s.step.entries := by
  rcases s.takes_step with ⟨-, goes⟩ | ends
  · exact goes
  · obtain ⟨result, eq⟩ := ends.exists_result
    cases going.symm.trans eq

theorem ends_of_result {result : Except Fault Unit} (ended : s.step.result = some result) :
    Ends s s.step := by
  rcases s.takes_step with ⟨none, -⟩ | ends
  · cases none.symm.trans ended
  · exact ends

/-! ## Runs -/

/-- What a service becomes turn by turn while it goes on, with those that had a turn before. -/
inductive Reaches (s : Service) : List Service → Service → Prop
  | start : Reaches s [] s
  | step {past : List Service} {t : Service} (way : Reaches s past t)
      (going : t.step.result = none) : Reaches s (past ++ [t]) t.step.service

variable {past : List Service}

theorem Goes.limit (goes : Goes s t made) : t.limit = s.limit := by
  cases goes with
  | shown => exact limit_sleep ..
  | asleep => exact limit_sleep ..
  | idle => rfl
  | running => rfl
  | ended => rfl
  | alarm => rfl
  | began => rfl

/-- What holds at the start and is kept by every turn after which the service goes on. -/
theorem Reaches.keeps (way : Reaches s past t) (kept : List Service → Service → Prop)
    (start : kept [] s)
    (step : ∀ past u v made, Goes u v made → kept past u → kept (past ++ [u]) v) :
    kept past t := by
  induction way with
  | start => exact start
  | step _ going ih => exact step _ _ _ _ (goes_of_result going) ih

theorem Reaches.limit (way : Reaches s past t) : t.limit = s.limit :=
  way.keeps (fun _ t => t.limit = s.limit) rfl
    fun _ _ _ _ goes old => goes.limit.trans old

theorem Reaches.of_step (going : s.step.result = none) (way : Reaches s.step.service past t) :
    Reaches s (s :: past) t := by
  induction way with
  | start => exact .step .start going
  | step _ going' ih => exact .step ih going'

/-- The services that have a turn in a run. -/
def turns : Nat → Service → List Service
  | 0, _ => []
  | fuel + 1, s =>
    s :: match s.step.result with
      | some _ => []
      | none => turns fuel s.step.service

/-- **What a run gives back.** Either the service still goes on, or the last turn of a service that
was reached has ended it. -/
theorem run_cases (fuel : Nat) (s : Service) (entries : Array Entry) :
    ∃ t past, Reaches s past t ∧
      (((run fuel s entries).2.2 = none ∧ (run fuel s entries).1 = t ∧ turns fuel s = past) ∨
        (t.step.result ≠ none ∧ (run fuel s entries).2.2 = t.step.result ∧
          (run fuel s entries).1 = t.step.service ∧ turns fuel s = past ++ [t])) := by
  induction fuel generalizing s entries with
  | zero => exact ⟨s, [], .start, .inl ⟨rfl, rfl, rfl⟩⟩
  | succ fuel ih =>
    rw [run, turns]
    cases h : s.step.result with
    | some result =>
      refine ⟨s, [], .start, .inr ?_⟩
      rw [h]
      exact ⟨Option.some_ne_none _, rfl, rfl, rfl⟩
    | none =>
      obtain ⟨t, past, way, ends⟩ := ih s.step.service (entries ++ s.step.entries)
      refine ⟨t, s :: past, way.of_step h, ?_⟩
      rcases ends with ⟨none, last, had⟩ | ⟨ended, result, last, had⟩
      · exact .inl ⟨none, last, congrArg _ had⟩
      · exact .inr ⟨ended, result, last, congrArg _ had⟩

/-- So many turns lead to a service that is reached, whatever follows. -/
theorem Reaches.run_eq (way : Reaches s past t) :
    ∃ n, ∀ fuel entries, ∃ entries', run (n + fuel) s entries = run fuel t entries' := by
  induction way with
  | start => exact ⟨0, fun fuel entries => ⟨entries, by rw [Nat.zero_add]⟩⟩
  | @step past t way going ih =>
    obtain ⟨n, eq⟩ := ih
    refine ⟨n + 1, fun fuel entries => ?_⟩
    obtain ⟨entries', eq'⟩ := eq (1 + fuel) entries
    refine ⟨entries' ++ t.step.entries, ?_⟩
    rw [Nat.add_assoc, eq', Nat.add_comm 1, run, going]

end Service

open Service

/-- **What serving gives back.** -/
theorem Emulator.serve_cases (e : Emulator) (limit : Option Int) (fuel : Nat) :
    ∃ t past, Reaches (start e limit) past t ∧
      (((e.serve limit fuel).result = .ok none ∧ (e.serve limit fuel).state = t.emulator) ∨
        ∃ result, t.step.result = some result ∧
          (e.serve limit fuel).result = result.map some ∧
          (e.serve limit fuel).state = t.step.service.emulator ∧
          turns fuel (start e limit) = past ++ [t]) := by
  obtain ⟨t, past, way, ends⟩ := run_cases fuel (start e limit) #[]
  refine ⟨t, past, way, ?_⟩
  unfold Emulator.serve
  rcases ends with ⟨none, last, -⟩ | ⟨ended, result, last, had⟩
  · dsimp only
    rw [none, last]
    exact .inl ⟨rfl, rfl⟩
  · obtain ⟨value, eq⟩ := Option.ne_none_iff_exists'.1 ended
    dsimp only
    rw [result, last, eq]
    exact .inr ⟨value, rfl, rfl, rfl, had⟩

/-- A service that ends does so in every run that is long enough. -/
theorem Service.Reaches.serve_eq {e : Emulator} {limit : Option Int} {t : Service}
    {past : List Service} {result : Except Fault Unit}
    (way : Reaches (Service.start e limit) past t)
    (ended : t.step.result = some result) :
    ∃ fuel, (e.serve limit fuel).result = result.map some ∧
      (e.serve limit fuel).state = t.step.service.emulator := by
  obtain ⟨n, eq⟩ := way.run_eq
  obtain ⟨entries, eq'⟩ := eq 1 #[]
  refine ⟨n + 1, ?_⟩
  unfold Emulator.serve
  rw [eq', run, ended]
  exact ⟨rfl, rfl⟩

end MotionEmulator
