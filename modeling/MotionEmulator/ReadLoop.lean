import MotionEmulator.Device

/-!
# Read loops

A read loop feeds the chunks of a source into a device until the stream ends. Without a source
of its own it drains the device's current link, and then it also lets go of a link at its end.
A fault of the link is reported once and ends the loop; any other fault passes through.

`ReadLoop.step` is one question to the source with all that follows from its answer. Between two
steps of a loop others may run, and a loop may be cancelled there (`ReadLoop.cancel`).
-/

namespace MotionEmulator

/-- What a read loop reads. -/
inductive Source where
  /-- The device's link at a place among its links. -/
  | link (place : Nat)
  /-- A scripted link that is not the device's. -/
  | borrowed (link : ScriptedLink)
  /-- Chunks from elsewhere. -/
  | sequence (chunks : Sequence Chunk)
  deriving DecidableEq

/-- A read loop between two steps. -/
structure ReadLoop where
  source : Source
  /-- Whether the loop was given no source and therefore releases the device's link. -/
  owned : Bool
  phase : Phase := .looking
  deriving DecidableEq

/-- How a step leaves its loop. -/
inductive LoopStatus where
  | running
  /-- Others may run, and the loop goes on after so many seconds. -/
  | asleep (seconds : Binary64)
  | over (result : Except Fault Unit)

/-- What a step leaves behind. -/
structure LoopStep where
  device : Device
  loop : ReadLoop
  status : LoopStatus
  entries : List Entry := []

namespace ReadLoop

/-- The loop over a source, or over the device's current link. -/
def start (d : Device) (source : Option Source) : Except Fault ReadLoop :=
  match source, d.attached with
  | some source, _ => .ok { source, owned := false }
  | none, some place => .ok { source := .link place, owned := true }
  | none, none => .error (.nothingAttached d.name)

/-- The answer of the source, as a chunk for the device, with device and loop after it. -/
def ask (d : Device) (l : ReadLoop) : Pull Chunk × Device × ReadLoop × List Entry :=
  let asText : Pull (List Char) → Pull Chunk
    | .chunk c => .chunk (.text c)
    | .pause seconds => .pause seconds
    | .finished cause => .finished cause
  match l.source with
  | .sequence s =>
    let p := s.pull l.phase
    (p.pull, d, { l with source := .sequence p.source, phase := p.phase }, p.entries)
  | .borrowed link =>
    let p := link.pull l.phase
    (asText p.pull, d, { l with source := .borrowed p.source, phase := p.phase }, p.entries)
  | .link place =>
    match d.links[place]? with
    | none => (.finished none, d, l, [])
    | some link =>
      let p := link.pull l.phase
      (asText p.pull, { d with links := d.links.set place p.source },
        { l with phase := p.phase }, p.entries)

/-- The end of a loop: a loop over the device's own link lets go of the current one. -/
def release (d : Device) (l : ReadLoop) : Outcome Device Unit :=
  if l.owned then d.disconnect else .done d ()

/-- The end of a loop by cancellation. -/
def cancel (d : Device) (l : ReadLoop) : Outcome Device Unit :=
  release d l

/-- The entry of a stream that ended, and what the end means for the loop's caller. -/
def farewell (d : Device) : Option Fault → List Entry × Except Fault Unit
  | none => ([⟨.info, d.name ++ ": end of stream", []⟩], .ok ())
  | some cause =>
    if cause.isTransport then
      ([⟨.critical, d.name ++ ": transport failed, read loop stopped",
        [("error", .text cause.message)]⟩], .ok ())
    else ([], .error cause)

/-- One step at a time in seconds. -/
def step (d : Device) (l : ReadLoop) (time : Binary64) : LoopStep :=
  let (answer, d, l, asked) := ask d l
  match answer with
  | .pause seconds => ⟨d, l, .asleep seconds, asked⟩
  | .chunk c =>
    let o := d.write c time
    match o.result with
    | .ok () => ⟨o.state, l, .running, asked ++ o.entries⟩
    | .error cause =>
      let released := release o.state l
      ⟨released.state, l, .over (.error cause), asked ++ o.entries ++ released.entries⟩
  | .finished cause =>
    let (entries, result) := farewell d cause
    let released := release d l
    ⟨released.state, l, .over result, asked ++ entries ++ released.entries⟩

/-- At most so many steps of a loop that runs alone, for which pauses are time that passes. Gives
the time of the end, and none as the result of a loop that has not ended. -/
def run : Nat → Device → ReadLoop → Binary64 → List Entry →
    Outcome (Device × Binary64) (Option Unit)
  | 0, d, _, time, entries => .done (d, time) none entries
  | fuel + 1, d, l, time, entries =>
    let s := l.step d time
    let entries := entries ++ s.entries
    match s.status with
    | .running => run fuel s.device s.loop time entries
    | .asleep seconds => run fuel s.device s.loop (afterPause time seconds) entries
    | .over result => ⟨result.map some, (s.device, time), entries⟩

end ReadLoop

/-- Runs a read loop to its end, in at most so many steps. -/
def Device.readLoop (d : Device) (source : Option Source) (fuel : Nat) (time : Binary64) :
    Outcome (Device × Binary64) (Option Unit) :=
  match ReadLoop.start d source with
  | .error cause => .fault (d, time) cause
  | .ok l => l.run fuel d time []

end MotionEmulator
