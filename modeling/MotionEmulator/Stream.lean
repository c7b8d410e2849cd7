import MotionEmulator.Outcome

/-!
# Streams of chunks

A reader asks a source for its next chunk again and again. `Pull` is the source's answer: a
chunk, a pause that lets others run, or the end of the stream. Between two questions the source
is in a `Phase`. `Sequence` is the plainest source, a list of chunks that may keep its reader
waiting; `Reading` is one reader alone with its source, for whom a pause is time that passes, and
it keeps what arrived and when.
-/

namespace MotionEmulator

/-- Where a source stands between two questions of its reader. -/
inductive Phase where
  /-- The next chunk is to be looked for. -/
  | looking
  /-- A chunk has just been handed over. -/
  | handed
  /-- A read of the port is due. -/
  | due
  deriving DecidableEq

/-- What a source answers. -/
inductive Pull (α : Type) where
  | chunk (c : α)
  | pause (seconds : Binary64)
  | finished (cause : Option Fault)

/-- An answer with the source and the phase after it, and the entries it made. -/
structure Pulled (σ α : Type) where
  pull : Pull α
  source : σ
  phase : Phase
  entries : List Entry := []

/-- The later of two times; the first one when either is not a number. -/
def laterOf (time other : Binary64) : Binary64 :=
  if time < other then other else time

/-- The time after a pause. No time passes if its length is not positive or not a number. -/
def afterPause (time seconds : Binary64) : Binary64 :=
  if seconds ≤ 0 then time else laterOf time (time + seconds)

/-! ## Sequences -/

/-- Chunks that come one by one, and the fault at their end if there is one. -/
structure Sequence (α : Type) where
  chunks : List α
  failure : Option Fault := none
  /-- Whether the source lets others run after each chunk. -/
  yielding : Bool := true
  /-- The pauses before each chunk and before the end, in seconds. Where the list is over there are
  none. -/
  delays : List (List Binary64) := []
  deriving DecidableEq

namespace Sequence

variable {α : Type}

def pull (s : Sequence α) (phase : Phase) : Pulled (Sequence α) α :=
  if phase = .handed ∧ s.yielding then ⟨.pause 0, s, .looking, []⟩
  else
    match s.delays.headD [] with
    | seconds :: more =>
      ⟨.pause seconds, { s with delays := more :: s.delays.tail }, .looking, []⟩
    | [] =>
      match s.chunks with
      | [] => ⟨.finished s.failure, s, .looking, []⟩
      | c :: rest => ⟨.chunk c, { s with chunks := rest, delays := s.delays.tail }, .handed, []⟩

end Sequence

/-! ## A reader alone with its source -/

/-- How a reading came to its end. -/
inductive ReadingEnd where
  /-- The stream ended, with or without a fault. -/
  | ended (cause : Option Fault)
  /-- The reader had enough. -/
  | stopped
  deriving DecidableEq

/-- What a reading has brought. -/
structure Reading (σ α : Type) where
  source : σ
  time : Binary64
  /-- The chunks with their times of arrival. -/
  arrivals : Array (Binary64 × α) := #[]
  entries : List Entry := []
  /-- None while the reading goes on. -/
  ending : Option ReadingEnd := none

namespace Reading

variable {σ α : Type}

/-- What the reader does after a chunk, given how many have come: it may act on the source, and
it says whether to stop. -/
abbrev Reaction (σ : Type) : Type :=
  Nat → σ → Outcome σ Bool

/-- One question and its answer. -/
def step (pull : σ → Phase → Pulled σ α) (react : Reaction σ) (r : Reading σ α)
    (phase : Phase) : Reading σ α × Phase :=
  let p := pull r.source phase
  let r := { r with source := p.source, entries := r.entries ++ p.entries }
  match p.pull with
  | .pause seconds => ({ r with time := afterPause r.time seconds }, p.phase)
  | .finished cause => ({ r with ending := some (.ended cause) }, p.phase)
  | .chunk c =>
    let arrivals := r.arrivals.push (r.time, c)
    let o := react arrivals.size p.source
    let r := { r with source := o.state, arrivals, entries := r.entries ++ o.entries }
    match o.result with
    | .ok true => ({ r with ending := some .stopped }, p.phase)
    | _ => (r, p.phase)

/-- At most so many questions. -/
def run (pull : σ → Phase → Pulled σ α) (react : Reaction σ) :
    Nat → Reading σ α → Phase → Reading σ α
  | 0, r, _ => r
  | fuel + 1, r, phase =>
    match r.ending with
    | some _ => r
    | none =>
      let (r, phase) := r.step pull react phase
      run pull react fuel r phase

/-- A reader that only takes what comes. -/
def observe : Reaction σ :=
  fun _ source => .done source false

end Reading

/-- All of a sequence, read from a time on. Each chunk takes two questions, each delay and the end
one. -/
def Sequence.readAll {α : Type} (s : Sequence α) (time : Binary64) :
    Reading (Sequence α) α :=
  Reading.run Sequence.pull Reading.observe
    (2 * s.chunks.length + s.delays.flatten.length + 1) { source := s, time } .looking

end MotionEmulator
