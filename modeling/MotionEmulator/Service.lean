import MotionEmulator.Emulator
import MotionEmulator.Timers

/-!
# Serving devices

`Service` is an emulator at work: the frame loop and one read loop for each device that was
connected at the start, taking turns in rounds. A round consists of what was ready at its
beginning, in the order in which it became ready. A pause of zero length or less is a turn in the
next round. Any other pause sets a timer. When a round begins, the timers that are due take their
place at its end; each fires in its turn and so gives its loop a turn in the round after. When
nothing else is ready, time goes on to the first timer.

The frame loop shows a frame and pauses, again and again, until every read loop is over, when it
shows a last frame, or until it has shown as many frames as it was limited to. Then the read
loops that are still going on are cancelled; one that has not had its first turn is dropped.

`Service.step` is one turn of one loop, a timer that fires or the beginning of a round;
`Service.run` repeats it.
-/

namespace MotionEmulator

/-- Who takes turns. -/
inductive Runner where
  /-- The frame loop. -/
  | frames
  /-- The read loop at a place among the readers. -/
  | reader (place : Nat)
  deriving DecidableEq

/-- What a round is made of. -/
inductive Call where
  /-- A loop has its turn. -/
  | turn (who : Runner)
  /-- A timer fires, and its loop has a turn in the next round. -/
  | alarm (who : Runner)
  deriving DecidableEq

/-- How far a read loop has come. -/
inductive ReaderStatus where
  /-- It has not had its first turn. -/
  | unstarted
  | underway
  | over
  deriving DecidableEq

/-- A device's read loop. -/
structure Reader where
  /-- The place of the device. -/
  device : Nat
  loop : ReadLoop
  status : ReaderStatus := .unstarted
  deriving DecidableEq

/-- An emulator at work. -/
structure Service where
  emulator : Emulator
  /-- The greatest number of frames to show before the last one. -/
  limit : Option Int
  /-- The frames shown so far. -/
  shown : Nat := 0
  readers : List Reader
  /-- What is left of this round. -/
  round : List Call
  /-- What has become ready for the next one. -/
  next : List Call
  timers : Timers Runner := #[]
  /-- The number of timers set so far. -/
  timersSet : Nat := 0

namespace Service

/-- What a turn leaves behind; the result is there once the service has ended. -/
structure Turn where
  service : Service
  entries : List Entry := []
  result : Option (Except Fault Unit) := none

/-- The read loops of the devices that are connected. -/
def readersOf (devices : List Device) : List Reader :=
  (devices.zipIdx).filterMap fun (d, i) =>
    if d.isConnected then
      match ReadLoop.start d none with
      | .ok loop => some { device := i, loop }
      | .error _ => none
    else none

/-- A service at its start. The frame loop has the first round for itself. -/
def start (e : Emulator) (limit : Option Int) : Service :=
  let readers := readersOf e.devices
  { emulator := e
    limit
    readers
    round := [.turn .frames]
    next := (List.range readers.length).map fun place => .turn (.reader place) }

/-- Whether every read loop is over. -/
def allOver (s : Service) : Bool :=
  s.readers.all fun r => r.status = .over

/-- Puts a loop to sleep, until the next round or until a timer fires. -/
def sleep (s : Service) (who : Runner) (seconds : Binary64) : Service :=
  if seconds ≤ 0 then { s with next := s.next ++ [.turn who] }
  else
    { s with
      timers := s.timers.push ⟨s.emulator.time + seconds, s.timersSet, who⟩
      timersSet := s.timersSet + 1 }

/-! ## The end -/

/-- Cancels the read loop at a place if it is under way. -/
def cancelReader (s : Service) (place : Nat) : Outcome Service Unit :=
  match s.readers[place]? with
  | none => .done s ()
  | some r =>
    if r.status = .underway then
      (s.emulator.onDevice r.device fun d => r.loop.cancel d).within fun e =>
        { s with emulator := e, readers := s.readers.set place { r with status := .over } }
    else .done s ()

/-- Cancels read loops in order. -/
def cancelAll : List Nat → Service → Outcome Service Unit
  | [], s => .done s ()
  | place :: rest, s => (s.cancelReader place).andThen fun s _ => cancelAll rest s

/-- The order in which read loops are cancelled: those that have a turn to come first. -/
def cancelOrder (s : Service) : List Nat :=
  ((s.round ++ s.next).filterMap fun call =>
    match call with
    | .turn (.reader place) => some place
    | _ => none) ++ List.range s.readers.length

/-- Ends the service with a result, once its read loops are cancelled. -/
def finish (s : Service) (entries : List Entry) (result : Except Fault Unit) : Turn :=
  let o := cancelAll s.cancelOrder s
  { service := { o.state with round := [], next := [], timers := #[] }
    entries := entries ++ o.entries
    result := some result }

/-! ## Turns -/

/-- Whether as many frames have been shown as there may be. -/
def isLimitReached (s : Service) : Bool :=
  s.limit.any fun limit => limit ≤ (s.shown : Int)

/-- The frame loop's turn. -/
def frameTurn (s : Service) : Turn :=
  if !s.allOver && s.isLimitReached then s.finish [] (.ok ())
  else
    let last := s.allOver
    let o := s.emulator.frame
    let s := { s with emulator := o.state }
    match o.result with
    | .error cause => s.finish o.entries (.error cause)
    | .ok () =>
      if last then s.finish o.entries (.ok ())
      else
        let s := { s with shown := s.shown + 1 }
        match s.emulator.settings.frameInterval with
        | .error cause => s.finish o.entries (.error cause)
        | .ok seconds => { service := s.sleep .frames seconds, entries := o.entries }

/-- A read loop's turn, one step of it. It keeps its turn until it pauses. -/
def readerTurn (s : Service) (place : Nat) : Turn :=
  match s.readers[place]? with
  | none => { service := s }
  | some r =>
    match s.emulator.devices[r.device]? with
    | none => { service := s }
    | some d =>
      let step := r.loop.step d s.emulator.time
      let status :=
        match step.status with
        | .over _ => ReaderStatus.over
        | _ => .underway
      let s :=
        { s with
          emulator :=
            { s.emulator with devices := s.emulator.devices.set r.device step.device }
          readers := s.readers.set place { r with loop := step.loop, status } }
      match step.status with
      | .running =>
        { service := { s with round := .turn (.reader place) :: s.round }
          entries := step.entries }
      | .asleep seconds =>
        { service := s.sleep (.reader place) seconds, entries := step.entries }
      | .over _ => { service := s, entries := step.entries }

/-- Begins a round. When nothing is ready, time goes on to the first timer. -/
def beginRound (s : Service) : Service :=
  let time :=
    match s.next, s.timers[0]? with
    | [], some first => laterOf s.emulator.time first.due
    | _, _ => s.emulator.time
  let (owners, timers) := s.timers.popDue time
  { s with
    emulator := { s.emulator with time }
    round := s.next ++ owners.map .alarm
    next := []
    timers }

/-- The next turn or alarm of this round, or the beginning of the next one. With nobody left to
have a turn the service is at its end. -/
def step (s : Service) : Turn :=
  match s.round with
  | .turn .frames :: rest => { s with round := rest }.frameTurn
  | .turn (.reader place) :: rest => { s with round := rest }.readerTurn place
  | .alarm who :: rest => { service := { s with round := rest, next := s.next ++ [.turn who] } }
  | [] =>
    if s.next.isEmpty && s.timers.isEmpty then s.finish [] (.ok ())
    else { service := s.beginRound }

/-- At most so many turns. The result is none if the service has not ended by then. -/
def run : Nat → Service → Array Entry → Service × Array Entry × Option (Except Fault Unit)
  | 0, s, entries => (s, entries, none)
  | fuel + 1, s, entries =>
    let turn := s.step
    let entries := entries ++ turn.entries
    match turn.result with
    | some result => (turn.service, entries, some result)
    | none => run fuel turn.service entries

end Service

/-- Runs the read loops of all connected devices beside the frame loop, in at most so many
turns. The result is none if they have not ended by then. -/
def Emulator.serve (e : Emulator) (limit : Option Int) (fuel : Nat) :
    Outcome Emulator (Option Unit) :=
  let (s, entries, result) := Service.run fuel (Service.start e limit) #[]
  match result with
  | none => .done s.emulator none entries.toList
  | some result => ⟨result.map some, s.emulator, entries.toList⟩

end MotionEmulator
