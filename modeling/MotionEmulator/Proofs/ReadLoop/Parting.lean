import MotionEmulator.Proofs.Link.Operations
import MotionEmulator.Proofs.ReadLoop.Contract

/-!
# Parting from a serial link

A serial link that is read may be disconnected at any time. An `Event` is what happens meanwhile, in
any order: bytes come in, the reader asks for the next chunk, and the link is disconnected between
two questions or while a read waits. `Listening` is the link, the phase of its stream and the end of
the stream once it has come.

A stream whose link is disconnected ends at the next question, and one that is interrupted in a read
ends soon after it (`Parted.ending_after`, `Open.ending_after`). It ends in order, but for one
moment: between the question that found the link connected and the read that it called for, the
link's reader is bound to read, and the read of a link without a port is a fault.

`Drains` are the turns of a read loop over the link, with all else that may be done to its device
between them. They are the questions of a stream (`Drains.follows`), so the loop reports the end of
that stream (`Drains.reports`).
-/

namespace MotionEmulator

/-- The end of a stream, if an answer brings it. -/
def Pull.ending? {α : Type} : Pull α → Option (Option Fault)
  | .finished cause => some cause
  | _ => none

namespace SerialLink

/-- What happens to a link while it is read. -/
inductive Event where
  | arrives (bytes : List UInt8)
  /-- The reader asks for the next chunk. -/
  | asked
  /-- The link is disconnected between two questions. -/
  | disconnects
  /-- The link will be disconnected while the next read waits. -/
  | interrupts
  deriving DecidableEq

/-- A link whose stream is read. -/
structure Listening where
  link : SerialLink
  phase : Phase := .looking
  /-- None while the stream goes on. -/
  ending : Option (Option Fault) := none

/-- What an event does to a link, questions apart. -/
def Event.befall (l : SerialLink) : Event → SerialLink
  | arrives bytes => (l.writeRaw bytes).state
  | asked => l
  | disconnects => l.disconnect.state
  | interrupts => l.disturb .closing

namespace Listening

/-- One more question. A stream that has ended is asked nothing. -/
def ask (s : Listening) : Listening :=
  match s.ending with
  | some _ => s
  | none =>
    let p := s.link.pull s.phase
    { link := p.source, phase := p.phase, ending := p.pull.ending? }

def on (s : Listening) : Event → Listening
  | .asked => s.ask
  | e => { s with link := e.befall s.link }

/-- A link and its stream after events. -/
def after (s : Listening) (events : List Event) : Listening :=
  events.foldl on s

/-- The stream goes on, over a connected link with a port that something may have befallen. -/
structure Open (trouble : Option Trouble) (s : Listening) : Prop where
  going : s.ending = none
  connected : s.link.connected = true
  port : ∃ port, s.link.port = some port ∧ port.trouble = trouble

/-- The link has been disconnected and the reader does not know. -/
structure Parted (s : Listening) : Prop where
  going : s.ending = none
  apart : s.link.connected = false

variable {s : Listening} {trouble : Option Trouble}

theorem after_concat (s : Listening) (events : List Event) (e : Event) :
    s.after (events ++ [e]) = (s.after events).on e :=
  List.foldl_concat ..

theorem ask_of_going (going : s.ending = none) :
    s.ask = ⟨(s.link.pull s.phase).source, (s.link.pull s.phase).phase,
      (s.link.pull s.phase).pull.ending?⟩ := by
  rw [ask, going]

/-! ## One question -/

theorem pull_of_connected {l : SerialLink} {phase : Phase} (connected : l.connected = true)
    (early : phase ≠ .due) : l.pull phase = ⟨.pause 0, l, .due, []⟩ := by
  cases phase with
  | due => exact absurd rfl early
  | looking | handed => exact if_pos connected

theorem pull_of_apart {l : SerialLink} {phase : Phase} (apart : l.connected = false)
    (early : phase ≠ .due) : l.pull phase = ⟨.finished none, l, .looking, []⟩ := by
  have not : ¬ l.connected = true := by simp [apart]
  cases phase with
  | due => exact absurd rfl early
  | looking | handed => exact if_neg not

/-- A read that is due is made also of a link that has been disconnected. -/
theorem pull_due_of_apart {l : SerialLink} (apart : l.connected = false) :
    l.pull .due = ⟨.finished (some .notConnected), l, .looking, []⟩ := by
  have refused : l.read = .fault l .notConnected := read_of_apart (by simp [apart])
  rw [pull, refused]
  rfl

/-- A read that is interrupted brings nothing and leaves the link disconnected. -/
theorem pull_due_of_closing {l : SerialLink} {port : Port} (connected : l.connected = true)
    (held : l.port = some port) (closing : port.trouble = some .closing) :
    ∃ entries, l.pull .due = ⟨.pause patience, l.disconnect.state, .looking, entries⟩ := by
  rw [pull, read_of_closing connected held closing]
  exact ⟨_, rfl⟩

/-- A read of a whole port leaves all as it was but for the bytes it takes. -/
theorem pull_due_of_calm {l : SerialLink} {port : Port} (connected : l.connected = true)
    (held : l.port = some port) (calm : port.trouble = none) :
    (l.pull .due).pull.ending? = none ∧ (l.pull .due).source.connected = true ∧
      ∃ port, (l.pull .due).source.port = some port ∧ port.trouble = none := by
  rw [pull, read_of_calm connected held calm]
  unfold readFrom
  dsimp only [Outcome.done]
  split
  · next wrong => cases wrong
  · exact ⟨rfl, connected, _, rfl, calm⟩
  · exact ⟨rfl, connected, _, rfl, calm⟩

/-- A question that ends a stream makes no entries. -/
theorem entries_of_ending {l : SerialLink} {phase : Phase} {cause : Option Fault}
    (ended : (l.pull phase).pull.ending? = some cause) : (l.pull phase).entries = [] := by
  have silent {cause : Fault} (refused : l.read.result = .error cause) : l.read.entries = [] := by
    unfold SerialLink.read at refused ⊢
    split at refused
    · split at refused
      · cases refused
      · cases refused
      · rfl
    · rfl
  unfold pull at ended ⊢
  cases phase with
  | looking | handed =>
    dsimp only at ended ⊢
    split <;> rfl
  | due =>
    dsimp only at ended ⊢
    split
    · next refused => exact silent refused
    · next nothing => rw [nothing] at ended; cases ended
    · next text _ some => rw [some] at ended; cases text <;> cases ended

/-! ## While the link is connected -/

theorem Open.arrives (opened : s.Open trouble) (bytes : List UInt8) :
    (s.on (.arrives bytes)).Open trouble := by
  obtain ⟨going, connected, port, held, befallen⟩ := opened
  have written : s.link.writeRaw bytes = _ := writeRaw_of_port held
  exact {
    going := going
    connected := by
      change (s.link.writeRaw bytes).state.connected = true
      rw [written]
      exact connected
    port := ⟨port.write bytes, by
      change (s.link.writeRaw bytes).state.port = _
      rw [written]
      rfl, befallen⟩ }

/-- The stream of a link that is left in peace goes on. -/
theorem Open.ask (opened : s.Open none) : s.ask.Open none := by
  obtain ⟨going, connected, port, held, calm⟩ := opened
  rw [ask_of_going going]
  by_cases due : s.phase = .due
  · rw [due]
    obtain ⟨goes, stays, whole⟩ := pull_due_of_calm connected held calm
    exact ⟨goes, stays, whole⟩
  · rw [pull_of_connected connected due]
    exact ⟨rfl, connected, port, held, calm⟩

/-- Nothing is done to the link but that bytes come in and that it is read. -/
def Peaceful (events : List Event) : Prop :=
  ∀ e ∈ events, e ≠ .disconnects ∧ e ≠ .interrupts

theorem Open.after {events : List Event} (opened : s.Open none) (peaceful : Peaceful events) :
    (s.after events).Open none := by
  induction events generalizing s with
  | nil => exact opened
  | cons e later ih =>
    obtain ⟨⟨joined, calm⟩, rest⟩ := List.forall_mem_cons.1 peaceful
    refine ih ?_ rest
    cases e with
    | arrives bytes => exact opened.arrives bytes
    | asked => exact opened.ask
    | disconnects => exact absurd rfl joined
    | interrupts => exact absurd rfl calm

/-! ## Once the link is disconnected -/

theorem Open.disconnects (opened : s.Open trouble) : (s.on .disconnects).Parted :=
  ⟨opened.going, rfl⟩

/-- How the stream of a link ends that is disconnected in a phase. -/
def endingIn (phase : Phase) : Option Fault :=
  if phase = .due then some .notConnected else none

/-- The next question ends the stream. -/
theorem Parted.ask (parted : s.Parted) : s.ask.ending = some (endingIn s.phase) := by
  rw [ask_of_going parted.going]
  unfold endingIn
  split
  · next due => rw [due, pull_due_of_apart parted.apart]; rfl
  · next early => rw [pull_of_apart parted.apart early]; rfl

/-- Whatever befalls a disconnected link does not connect it. -/
theorem Parted.on (parted : s.Parted) {e : Event} (silent : e ≠ .asked) :
    (s.on e).Parted ∧ (s.on e).phase = s.phase := by
  obtain ⟨going, apart⟩ := parted
  cases e with
  | asked => exact absurd rfl silent
  | arrives bytes =>
    refine ⟨⟨going, ?_⟩, rfl⟩
    change (s.link.writeRaw bytes).state.connected = false
    cases held : s.link.port with
    | none => rw [writeRaw_of_none held]; exact apart
    | some port => rw [writeRaw_of_port held]; exact apart
  | disconnects => exact ⟨⟨going, rfl⟩, rfl⟩
  | interrupts => exact ⟨⟨going, apart⟩, rfl⟩

theorem ending_on {cause : Option Fault} (ended : s.ending = some cause) (e : Event) :
    (s.on e).ending = some cause := by
  cases e with
  | asked =>
    change s.ask.ending = _
    rw [Listening.ask, ended]
    exact ended
  | arrives | disconnects | interrupts => exact ended

theorem ending_after {cause : Option Fault} (ended : s.ending = some cause)
    (later : List Event) : (s.after later).ending = some cause := by
  induction later generalizing s with
  | nil => exact ended
  | cons e later ih => exact ih (ending_on ended e)

/-- **A stream whose link is disconnected ends at the next question.** -/
theorem Parted.ending_after (parted : s.Parted) (later : List Event) :
    (s.after later).ending =
      if 1 ≤ later.count .asked then some (endingIn s.phase) else none := by
  induction later generalizing s with
  | nil => exact parted.going
  | cons e later ih =>
    by_cases asks : e = .asked
    · subst asks
      rw [List.count_cons_self, if_pos (Nat.le_add_left 1 _)]
      exact Listening.ending_after parted.ask later
    · obtain ⟨parted', same⟩ := parted.on asks
      rw [List.count_cons_of_ne asks, ← same]
      exact ih parted'

/-- The questions that it takes an interrupted stream to end: one that finds the link connected, one
that reads and one that finds the link disconnected. -/
def questionsLeft (phase : Phase) : Nat :=
  if phase = .due then 2 else 3

/-- The next read of the link will be interrupted, whatever befell its port before. -/
theorem Open.interrupts (opened : s.Open trouble) : (s.on .interrupts).Open (some .closing) := by
  obtain ⟨going, connected, port, held, -⟩ := opened
  exact {
    going := going
    connected := connected
    port := ⟨{ port with trouble := some .closing }, congrArg (Option.map _) held, rfl⟩ }

/-- **A stream whose read is interrupted ends in order.** -/
theorem Open.ending_after (opened : s.Open (some .closing)) {later : List Event}
    (joined : ∀ e ∈ later, e ≠ .disconnects) :
    (s.after later).ending =
      if questionsLeft s.phase ≤ later.count .asked then some none else none := by
  induction later generalizing s with
  | nil =>
    have some : ¬ questionsLeft s.phase ≤ 0 := by
      unfold questionsLeft
      split <;> decide
    rw [List.count_nil, if_neg some]
    exact opened.going
  | cons e later ih =>
    obtain ⟨first, rest⟩ := List.forall_mem_cons.1 joined
    cases e with
    | disconnects => exact absurd rfl first
    | arrives bytes => exact ih (opened.arrives bytes) rest
    | interrupts => exact ih opened.interrupts rest
    | asked =>
      obtain ⟨going, connected, port, held, closing⟩ := opened
      rw [List.count_cons_self]
      change (s.ask.after later).ending = _
      by_cases due : s.phase = .due
      · -- This is the read that is interrupted, and the next question finds the link disconnected.
        obtain ⟨entries, answer⟩ := pull_due_of_closing connected held closing
        have next : s.ask = ⟨s.link.disconnect.state, .looking, none⟩ := by
          rw [ask_of_going going, due, answer]
          rfl
        have parted : Parted ⟨s.link.disconnect.state, .looking, none⟩ := ⟨rfl, rfl⟩
        rw [next, parted.ending_after, due]
        exact if_congr (by change _ ↔ 2 ≤ _; omega) rfl rfl
      · have next : s.ask = ⟨s.link, .due, none⟩ := by
          rw [ask_of_going going, pull_of_connected connected due]
          rfl
        have opened : Open (some .closing) ⟨s.link, .due, none⟩ :=
          ⟨rfl, connected, port, held, closing⟩
        rw [next, ih opened rest, questionsLeft, questionsLeft, if_pos rfl, if_neg due]
        exact if_congr (by omega) rfl rfl

end Listening

end SerialLink

/-! ## The read loop over the link -/

namespace ReadLoop

open SerialLink

/-- A loop drains the link at a place of its device. What happens to the link while the loop has no
turn happens at that place; whatever else is done to the device in the meantime is open. -/
inductive Drains (place : Nat) (d₀ : Device) (l₀ : ReadLoop) :
    List Event → Device → ReadLoop → Prop
  | start : Drains place d₀ l₀ [] d₀ l₀
  | turn {events : List Event} {d : Device} {l : ReadLoop} (way : Drains place d₀ l₀ events d l)
      (time : Binary64) (goes : ∀ result, (l.step d time).status ≠ .over result) :
      Drains place d₀ l₀ (events ++ [.asked]) (l.step d time).device (l.step d time).loop
  | befalls {events : List Event} {d d' : Device} {l : ReadLoop} {link : SerialLink} {e : Event}
      (way : Drains place d₀ l₀ events d l) (silent : e ≠ .asked)
      (before : d.links[place]? = some (.serial link))
      (after : d'.links[place]? = some (.serial (e.befall link))) :
      Drains place d₀ l₀ (events ++ [e]) d' l

/-- A loop reads the stream at a place of its device. -/
structure Reads (place : Nat) (s : Listening) (d : Device) (l : ReadLoop) : Prop where
  going : s.ending = none
  source : l.source = .link place
  phase : l.phase = s.phase
  link : d.links[place]? = some (.serial s.link)

variable {place : Nat} {s : Listening} {d : Device} {l : ReadLoop}

/-- The question of the loop is the stream's. -/
theorem Reads.ask_eq (reads : Reads place s d l) :
    l.ask d = ((s.link.pull s.phase).pull.map .text,
      { d with links := d.links.set place (.serial s.ask.link) },
      { l with phase := s.ask.phase }, (s.link.pull s.phase).entries) := by
  obtain ⟨going, source, phase, link⟩ := reads
  unfold ReadLoop.ask
  rw [source]
  dsimp only
  rw [link, phase, Listening.ask_of_going going]
  dsimp only [Link.pull]
  cases (s.link.pull s.phase).pull <;> rfl

theorem level_of_mem_disconnect (link : Link) :
    ∀ e ∈ link.disconnect.entries, e.level = .info := by
  cases link with
  | scripted link => exact fun e mem => by cases mem
  | serial link =>
    intro e mem
    change e ∈ (if link.port.isSome then _ else _ : List Entry) at mem
    split at mem
    · rw [List.mem_singleton.1 mem]
    · cases mem

/-- The last turn of a loop: it reports how its stream ended, and besides that at most that a port
was closed. -/
def Reports (name : String) (cause : Option Fault) (step : LoopStep) : Prop :=
  ∃ result reported released, step.status = .over result ∧
    step.entries = reported ++ released ∧ Farewell name cause reported (result.map some) ∧
    ∀ e ∈ released, e.level = .info

/-- What a turn of the loop can be. -/
inductive Turns (place : Nat) (s : Listening) (name : String) (step : LoopStep) : Prop
  /-- The stream ends, and the loop with it. -/
  | ends {cause : Option Fault} (ending : s.ask.ending = some cause)
      (reports : Reports name cause step)
  /-- The stream goes on, and the loop with it. -/
  | goes (reads : Reads place s.ask step.device step.loop)
      (going : ∀ result, step.status ≠ .over result)
  /-- The stream goes on, but the device does not take what it brought. -/
  | refused {cause : Fault} (ending : s.ask.ending = none)
      (stops : step.status = .over (.error cause))

theorem level_of_mem_release (d : Device) (l : ReadLoop) :
    ∀ e ∈ (release d l).entries, e.level = .info := by
  unfold release
  split
  · unfold Device.disconnect
    split
    · exact level_of_mem_disconnect _
    · exact fun e mem => by cases mem
  · exact fun e mem => by cases mem

theorem Reads.turns (reads : Reads place s d l) (time : Binary64) :
    Turns place s d.name (l.step d time) := by
  have inside : place < d.links.length := (List.getElem?_eq_some_iff.1 reads.link).1
  have asks := reads.ask_eq
  have ending : s.ask.ending = (s.link.pull s.phase).pull.ending? := by
    rw [Listening.ask_of_going reads.going]
  have still (receiver : Receiver) (going : s.ask.ending = none) :
      Reads place s.ask { d with links := d.links.set place (.serial s.ask.link), receiver }
        { l with phase := s.ask.phase } :=
    ⟨going, reads.source, rfl, List.getElem?_set_self inside⟩
  unfold step
  rw [asks]
  cases answer : (s.link.pull s.phase).pull with
  | pause seconds =>
    rw [answer] at ending
    exact .goes (still d.receiver ending) nofun
  | chunk c =>
    rw [answer] at ending
    dsimp only [Pull.map]
    split
    · exact .goes (still _ ending) nofun
    · exact .refused ending rfl
  | finished cause =>
    rw [answer] at ending
    have closes : (s.link.pull s.phase).pull.ending? = some cause := by
      rw [answer]
      rfl
    have silent := Listening.entries_of_ending closes
    let d' := { d with links := d.links.set place (.serial s.ask.link) }
    let l' := { l with phase := s.ask.phase }
    refine .ends ending ⟨(farewell d' cause).2, (farewell d' cause).1, (release d' l').entries,
      rfl, ?_, farewell_spec d' cause, level_of_mem_release d' l'⟩
    rw [silent]
    rfl

/-- The turns of a loop are the questions of a stream, and what befalls the link befalls it. -/
theorem Drains.follows {d₀ : Device} {l₀ : ReadLoop} {s₀ : Listening} {events : List Event}
    (reads : Reads place s₀ d₀ l₀) (drains : Drains place d₀ l₀ events d l) :
    Reads place (s₀.after events) d l := by
  induction drains with
  | start => exact reads
  | @turn events d l way time goes ih =>
    rw [Listening.after_concat]
    cases ih.turns time with
    | ends ending reports =>
      obtain ⟨result, _, _, stops, -⟩ := reports
      exact absurd stops (goes result)
    | goes reads going => exact reads
    | refused ending stops => exact absurd stops (goes _)
  | @befalls events d d' l link e way silent before after ih =>
    rw [Listening.after_concat]
    obtain ⟨going, source, phase, found⟩ := ih
    obtain rfl : link = (s₀.after events).link := by
      cases before.symm.trans found
      rfl
    cases e with
    | asked => exact absurd rfl silent
    | arrives | disconnects | interrupts => exact ⟨going, source, phase, after⟩

/-- A loop reports the end of the stream that it drains. -/
theorem Drains.reports {d₀ : Device} {l₀ : ReadLoop} {s₀ : Listening} {events : List Event}
    (reads : Reads place s₀ d₀ l₀) (drains : Drains place d₀ l₀ events d l)
    {cause : Option Fault} (ended : (s₀.after (events ++ [.asked])).ending = some cause)
    (time : Binary64) : Reports d.name cause (l.step d time) := by
  rw [Listening.after_concat] at ended
  have ended : (s₀.after events).ask.ending = some cause := ended
  cases (drains.follows reads).turns time with
  | ends ending reports =>
    cases ending.symm.trans ended
    exact reports
  | goes reads going => cases reads.going.symm.trans ended
  | refused ending stops => cases ending.symm.trans ended

/-- **When a stream that is parted from ends in order.** Nothing but a disconnection ends the stream
of a whole port. If the link is disconnected between two questions, the next question ends the
stream, and in order just if no read was due; if it is disconnected in a read, the stream ends in
order. A read loop over the link then reports the end as it came. -/
theorem ends_in_order_iff {link : SerialLink} {port : Port} (connected : link.connected = true)
    (held : link.port = some port) (whole : port.trouble = none) {before : List Event}
    (peaceful : Listening.Peaceful before) :
    let s := Listening.after { link } before
    s.ending = none ∧
      ((∀ later cause, (s.after (.disconnects :: later)).ending ≠ some (some cause)) ↔
        s.phase ≠ .due) ∧
      (∀ later, (s.after (.disconnects :: later)).ending =
        if 1 ≤ later.count .asked then some (Listening.endingIn s.phase) else none) ∧
      (∀ later, (∀ e ∈ later, e ≠ .disconnects) → (s.after (.interrupts :: later)).ending =
        if Listening.questionsLeft s.phase ≤ later.count .asked then some none else none) ∧
      ∀ place d₀ l₀ events d l, Reads place { link } d₀ l₀ → Drains place d₀ l₀ events d l →
        ∀ cause, (Listening.after { link } (events ++ [.asked])).ending = some cause →
          ∀ time, Reports d.name cause (l.step d time) := by
  intro s
  have opened : s.Open none :=
    Listening.Open.after ⟨rfl, connected, port, held, whole⟩ peaceful
  have parts := fun later => opened.disconnects.ending_after later
  refine ⟨opened.going, ⟨fun orderly due => ?_, fun early later cause ended => ?_⟩, parts,
    fun later joined => opened.interrupts.ending_after joined,
    fun place d₀ l₀ events d l reads drains cause ended time => drains.reports reads ended time⟩
  · have ended := parts [.asked]
    rw [if_pos (by decide)] at ended
    refine orderly [.asked] .notConnected (ended.trans (congrArg some ?_))
    exact if_pos due
  · have orderly : Listening.endingIn (s.on .disconnects).phase = none := if_neg early
    have ended := (parts later).symm.trans ended
    rw [orderly] at ended
    split at ended <;> cases ended

/-- A device that waits on an empty port when its link is disconnected. -/
theorem ends_in_order_iff_waiting :
    let d₀ := ((Device.fresh {} "sr6").connect "loop://").state
    let l₀ : ReadLoop := { source := .link 0, owned := true }
    let link := ((SerialLink.fresh {}).connect "loop://").state
    let events : List Event := [.asked, .asked, .arrives [0x4c, 0x30, 0x0a], .disconnects]
    let due := Listening.after { link } [.asked]
    ∃ d l, Drains 0 d₀ l₀ events d l ∧ Reports d.name none (l.step d 1) ∧
      (due.after [.disconnects, .asked]).ending = some (some .notConnected) ∧
      (due.after [.interrupts, .asked, .asked]).ending = some none := by
  intro d₀ l₀ link events due
  have reads : Reads 0 { link } d₀ l₀ := ⟨rfl, rfl, rfl, by decide +kernel⟩
  have connected : link.connected = true := by decide +kernel
  have held : link.port = some {} := by decide +kernel
  have peaceful : Listening.Peaceful [.asked] := by simp [Listening.Peaceful]
  obtain ⟨-, -, parts, interrupts, loops⟩ :=
    ends_in_order_iff connected held rfl peaceful
  let first := l₀.step d₀ 0
  let second := first.loop.step first.device 0
  let d₁ := (second.device.onSerial fun l => l.writeRaw [0x4c, 0x30, 0x0a]).state
  let heard := (Event.arrives [0x4c, 0x30, 0x0a]).befall link
  have opened : Drains 0 d₀ l₀ [.asked] first.device first.loop := Drains.start.turn 0 nofun
  have waits : Drains 0 d₀ l₀ [.asked, .asked] second.device second.loop := opened.turn 0 nofun
  have quiet : second.device.links[0]? = some (.serial link) := by decide +kernel
  have arrived : d₁.links[0]? = some (.serial heard) := by decide +kernel
  have apart : d₁.disconnect.state.links[0]? = some (.serial (Event.disconnects.befall heard)) := by
    decide +kernel
  have hears : Drains 0 d₀ l₀ [.asked, .asked, .arrives [0x4c, 0x30, 0x0a]] d₁ second.loop :=
    waits.befalls nofun quiet arrived
  have drains : Drains 0 d₀ l₀ events d₁.disconnect.state second.loop :=
    hears.befalls nofun arrived apart
  refine ⟨_, _, drains, ?_, ?_, ?_⟩
  · exact loops 0 d₀ l₀ events _ _ reads drains none (by decide +kernel) 1
  · exact parts [.asked]
  · exact interrupts [.asked, .asked] (by decide)

/-- A disconnection between the question that found the link connected and its read. -/
theorem read_after_parting_fails :
    let link := ((SerialLink.fresh {}).connect "loop://").state
    let d₀ := ((Device.fresh {} "sr6").connect "loop://").state
    let l₀ : ReadLoop := { source := .link 0, owned := true }
    let first := l₀.step d₀ 0
    let second := first.loop.step first.device.disconnect.state 0
    (Listening.after { link } [.asked, .disconnects, .asked]).ending =
        some (some .notConnected) ∧
      second.entries.map (fun e => (e.level, e.message)) =
        [(.critical, "sr6: transport failed, read loop stopped")] := by
  decide +kernel

end ReadLoop

end MotionEmulator
