import MotionEmulator.Proofs.ReadLoop.Course
import MotionEmulator.Proofs.Stream.Arrivals

/-!
# The contract of a read loop

Whatever a loop reads, a script that is its device's or another, or a sequence of chunks, it comes
to an end, and its device has then taken all that the source brought, each piece at the time at
which it came, also if the source failed. `Farewell` are the three ways in which a loop ends, and
`Kept` is what is left of the device: the link that the loop drained without being given a source
is released, and any link that it was not given is as it was.

A source may be kept in the loop or among the links of the device; `Carries` is all that the proof
needs to know of that, and `run_of_brings` is the run of a loop over any such source, by induction
on what the source brings.
-/

namespace MotionEmulator

/-- An answer with its chunk put into another form. -/
def Pull.map {α β : Type} (f : α → β) : Pull α → Pull β
  | .chunk c => .chunk (f c)
  | .pause seconds => .pause seconds
  | .finished cause => .finished cause

namespace Receiver

variable {r : Receiver}

/-- A receiver with sound axes takes a piece, and then the rest of the stream. -/
theorem Sound.writeAll_cons (sound : r.Sound) (p : Piece) (rest : List Piece) :
    ∃ r' entries, r.write p.chunk p.now = .done r' () entries ∧ r'.Sound ∧
      r.writeAll (p :: rest) =
        .done (r'.writeAll rest).state () (entries ++ (r'.writeAll rest).entries) := by
  obtain ⟨taken, state⟩ := sound.write_last [] p
  have sound' := sound.state_writeAll [p]
  change (r.write p.chunk p.now).result = .ok () at taken
  change (r.write p.chunk p.now).state = (r.writeAll [p]).state at state
  rw [← state] at sound'
  rw [Receiver.writeAll]
  generalize r.write p.chunk p.now = o at taken sound'
  obtain ⟨result, r', entries⟩ := o
  cases taken
  obtain ⟨later, -⟩ := sound'.writeAll rest
  refine ⟨r', entries, rfl, sound', Outcome.done_andThen_of_eq ?_⟩
  rw [later]
  rfl

/-- All that is reported of a stream are commands. -/
theorem Sound.level_of_mem_writeAll (sound : r.Sound) (pieces : List Piece) :
    ∀ e ∈ (r.writeAll pieces).entries, e.level = .command := by
  intro e mem
  rw [(sound.writeAll pieces).1] at mem
  obtain ⟨line, -, mem⟩ := List.mem_flatMap.1 mem
  unfold commandEntries at mem
  split at mem
  · rw [List.mem_singleton.1 mem]
    rfl
  · cases mem

theorem stamped_filter_text (pieces : List Piece) :
    stamped (pieces.filter (·.chunk ≠ .other)) = stamped pieces := by
  induction pieces with
  | nil => rfl
  | cons p rest ih =>
    obtain ⟨chunk, now⟩ := p
    cases chunk with
    | text chars => exact congrArg (Piece.stamped ⟨.text chars, now⟩ ++ ·) ih
    | other => exact ih

/-- Pieces without text change nothing. -/
theorem writeAll_filter_text (unended : r.Unended) (pieces : List Piece) :
    r.writeAll (pieces.filter (·.chunk ≠ .other)) = r.writeAll pieces := by
  rw [writeAll_eq_feedAll _ unended, writeAll_eq_feedAll _ unended, stamped_filter_text]

end Receiver

namespace ReadLoop

/-- A loop that is over: what it reports of its end, and what its caller gets. -/
inductive Farewell (name : String) :
    Option Fault → List Entry → Except Fault (Option Unit) → Prop
  | ended : Farewell name none [⟨.info, name ++ ": end of stream", []⟩] (.ok (some ()))
  | failed {cause : Fault} (transport : cause.isTransport = true) :
      Farewell name (some cause)
        [⟨.critical, name ++ ": transport failed, read loop stopped",
          [("error", .text cause.message)]⟩] (.ok (some ()))
  | passed {cause : Fault} (other : cause.isTransport = false) :
      Farewell name (some cause) [] (.error cause)

theorem farewell_spec (d : Device) (cause : Option Fault) :
    Farewell d.name cause (farewell d cause).1 ((farewell d cause).2.map some) := by
  cases cause with
  | none => exact .ended
  | some cause =>
    unfold farewell
    dsimp only
    split
    case isTrue transport => exact .failed transport
    case isFalse other => exact .passed (Bool.eq_false_iff.2 other)

section Run

variable {σ α : Type} {pull : σ → Phase → Pulled σ α} {toChunk : α → Chunk}
  {links : σ → List Link} {loop : σ → Phase → ReadLoop}

/-- A loop and the links of its device carry a source of some kind: what the loop asks, the source
answers, and nothing else changes. -/
def Carries (pull : σ → Phase → Pulled σ α) (toChunk : α → Chunk) (links : σ → List Link)
    (loop : σ → Phase → ReadLoop) : Prop :=
  ∀ (d : Device) source phase, (loop source phase).ask { d with links := links source } =
    ((pull source phase).pull.map toChunk, { d with links := links (pull source phase).source },
      loop (pull source phase).source (pull source phase).phase, (pull source phase).entries)

/-- What comes of a source as pieces for a device. -/
def piecesOf (toChunk : α → Chunk) (arrivals : List (Binary64 × α)) : List Piece :=
  arrivals.map fun a => ⟨toChunk a.2, Device.clock a.1⟩

/-- The device with what is left of a source and with all that it brought. -/
def fed (d : Device) (links : List Link) (pieces : List Piece) : Device :=
  { d with links, receiver := (d.receiver.writeAll pieces).state }

section Steps

variable {source source' : σ} {phase phase' : Phase} {d : Device}

theorem step_of_pause (carries : Carries pull toChunk links loop) {seconds : Binary64}
    (answer : pull source phase = ⟨.pause seconds, source', phase', []⟩) (time : Binary64) :
    (loop source phase).step { d with links := links source } time =
      ⟨{ d with links := links source' }, loop source' phase', .asleep seconds, []⟩ := by
  have asks := carries d source phase
  rw [answer] at asks
  unfold step
  rw [asks]
  rfl

theorem step_of_chunk (carries : Carries pull toChunk links loop) {c : α} {time : Binary64}
    (answer : pull source phase = ⟨.chunk c, source', phase', []⟩) {r : Receiver}
    {entries : List Entry}
    (written : d.receiver.write (toChunk c) (Device.clock time) = .done r () entries) :
    (loop source phase).step { d with links := links source } time =
      ⟨{ d with links := links source', receiver := r }, loop source' phase', .running,
        entries⟩ := by
  have asks := carries d source phase
  rw [answer] at asks
  unfold step
  rw [asks]
  dsimp only [Pull.map, Device.write]
  rw [written]
  rfl

theorem step_of_finished (carries : Carries pull toChunk links loop) {cause : Option Fault}
    (answer : pull source phase = ⟨.finished cause, source', phase', []⟩) (time : Binary64) :
    (loop source phase).step { d with links := links source } time =
      let released := release { d with links := links source' } (loop source' phase')
      ⟨released.state, loop source' phase', .over (farewell d cause).2,
        (farewell d cause).1 ++ released.entries⟩ := by
  have asks := carries d source phase
  rw [answer] at asks
  unfold step
  rw [asks]
  cases cause <;> rfl

end Steps

/-- **A loop over a source that it carries.** Given enough steps it comes to its end, with all that
the source brought written to its device. -/
theorem run_of_brings {source last : σ} {phase : Phase} {time : Binary64}
    {arrivals : List (Binary64 × α)} {cause : Option Fault}
    (brings : Brings pull source phase time arrivals cause last)
    (carries : Carries pull toChunk links loop) {d : Device} (sound : d.receiver.Sound) :
    ∃ steps phase' time', ∀ fuel, steps ≤ fuel → ∀ entries,
      run fuel { d with links := links source } (loop source phase) time entries =
        let released := release (fed d (links last) (piecesOf toChunk arrivals))
          (loop last phase')
        ⟨(farewell d cause).2.map some, (released.state, time'),
          entries ++ (d.receiver.writeAll (piecesOf toChunk arrivals)).entries ++
            (farewell d cause).1 ++ released.entries⟩ := by
  induction brings generalizing d with
  | @finished source last phase phase' time cause answer =>
    refine ⟨1, phase', time, fun fuel enough entries => ?_⟩
    obtain ⟨fuel, rfl⟩ := Nat.exists_eq_add_of_le' enough
    have nothing : entries ++ (d.receiver.writeAll (piecesOf toChunk [])).entries = entries :=
      List.append_nil entries
    rw [run, step_of_finished carries answer, nothing]
    dsimp only
    rw [List.append_assoc]
    rfl
  | pause answer later ih =>
    obtain ⟨steps, phase', time', runs⟩ := ih sound
    refine ⟨steps + 1, phase', time', fun fuel enough entries => ?_⟩
    obtain ⟨fuel, rfl⟩ := Nat.exists_eq_add_of_le' (Nat.le_of_add_left_le enough)
    rw [run, step_of_pause carries answer]
    dsimp only
    rw [List.append_nil]
    exact runs fuel (Nat.le_of_succ_le_succ enough) entries
  | @chunk source source' last phase phase' time c arrivals cause answer later ih =>
    obtain ⟨r, made, written, sound', all⟩ :=
      sound.writeAll_cons ⟨toChunk c, Device.clock time⟩ (piecesOf toChunk arrivals)
    have same : d.receiver.writeAll (piecesOf toChunk ((time, c) :: arrivals)) = _ := all
    obtain ⟨steps, last', time', runs⟩ := @ih { d with receiver := r } sound'
    refine ⟨steps + 1, last', time', fun fuel enough entries => ?_⟩
    obtain ⟨fuel, rfl⟩ := Nat.exists_eq_add_of_le' (Nat.le_of_add_left_le enough)
    rw [run, step_of_chunk carries answer written]
    dsimp only
    rw [fed, same]
    have runs := runs fuel (Nat.le_of_succ_le_succ enough) (entries ++ made)
    rw [List.append_assoc entries made] at runs
    exact runs

end Run

/-! ## The sources of a loop -/

theorem carries_sequence (links : List Link) (owned : Bool) :
    Carries Sequence.pull id (fun _ => links)
      fun s phase => { source := .sequence s, owned, phase } := by
  intro d s phase
  unfold ask
  dsimp only
  cases (s.pull phase).pull <;> rfl

theorem carries_borrowed (links : List Link) (owned : Bool) :
    Carries ScriptedLink.pull .text (fun _ => links)
      fun l phase => { source := .borrowed l, owned, phase } := by
  intro d l phase
  unfold ask
  dsimp only
  cases (l.pull phase).pull <;> rfl

theorem carries_link {links : List Link} {place : Nat} (inside : place < links.length)
    (owned : Bool) :
    Carries ScriptedLink.pull .text (fun l => links.set place (.scripted l))
      fun _ phase => { source := .link place, owned, phase } := by
  intro d l phase
  have found : (links.set place (.scripted l))[place]? = some (.scripted l) :=
    List.getElem?_set_self inside
  unfold ask
  dsimp only
  rw [found]
  dsimp only [Link.pull]
  rw [List.set_set]
  cases (l.pull phase).pull <;> rfl

/-- What a source delivers to a device from a time on, and how it ends. -/
inductive Delivers (d : Device) (time : Binary64) : Source → List Piece → Option Fault → Prop
  | link {place : Nat} {l : ScriptedLink} (found : d.links[place]? = some (.scripted l)) :
      Delivers d time (.link place) (piecesOf .text (l.arrivals time)) l.fate
  | borrowed (l : ScriptedLink) :
      Delivers d time (.borrowed l) (piecesOf .text (l.arrivals time)) l.fate
  | sequence (s : Sequence Chunk) :
      Delivers d time (.sequence s) (piecesOf id (s.arrivals time)) s.failure

/-- The links of a device after a loop has drained a source, before the loop releases any. -/
structure Drained (source : Source) (before after : List Link) : Prop where
  others : ∀ place, source ≠ .link place → after[place]? = before[place]?
  own : ∀ place, source = .link place → ∃ l, after[place]? = some (.scripted l)

/-- **A loop over a source of any kind.** -/
theorem run_of_delivers {d : Device} (sound : d.receiver.Sound) {time : Binary64} {source : Source}
    {pieces : List Piece} {cause : Option Fault} (delivers : Delivers d time source pieces cause)
    (owned : Bool) :
    ∃ links steps time' l, l.owned = owned ∧ Drained source d.links links ∧
      ∀ fuel, steps ≤ fuel →
        run fuel d { source, owned } time [] =
          let released := release (fed d links pieces) l
          ⟨(farewell d cause).2.map some, (released.state, time'),
            (d.receiver.writeAll pieces).entries ++ (farewell d cause).1 ++ released.entries⟩ := by
  cases delivers with
  | sequence s =>
    obtain ⟨last, brings⟩ := s.brings time
    obtain ⟨steps, phase, time', runs⟩ :=
      run_of_brings brings (carries_sequence d.links owned) sound
    exact ⟨d.links, steps, time', _, rfl, ⟨fun _ _ => rfl, nofun⟩,
      fun fuel enough => runs fuel enough []⟩
  | borrowed l =>
    obtain ⟨last, brings⟩ := l.brings time
    obtain ⟨steps, phase, time', runs⟩ :=
      run_of_brings brings (carries_borrowed d.links owned) sound
    exact ⟨d.links, steps, time', _, rfl, ⟨fun _ _ => rfl, nofun⟩,
      fun fuel enough => runs fuel enough []⟩
  | @link place l found =>
    obtain ⟨inside, at'⟩ := List.getElem?_eq_some_iff.1 found
    obtain ⟨last, brings⟩ := l.brings time
    obtain ⟨steps, phase, time', runs⟩ :=
      run_of_brings brings (carries_link inside owned) sound
    have same : { d with links := d.links.set place (.scripted l) } = d := by
      rw [← at', List.set_getElem_self]
    rw [same] at runs
    refine ⟨_, steps, time', _, rfl, ⟨?_, ?_⟩, fun fuel enough => runs fuel enough []⟩
    · intro other ne
      exact List.getElem?_set_ne fun eq => ne (congrArg _ eq)
    · rintro _ ⟨⟩
      exact ⟨last, List.getElem?_set_self inside⟩

/-- What is left of a device, and what is reported, by a loop that was given a source or none. -/
structure Kept (d : Device) (given : Option Source) (source : Source) (pieces : List Piece)
    (cause : Option Fault) (o : Outcome (Device × Binary64) (Option Unit)) : Prop where
  /-- The device has taken every piece at its time, also if the source failed. -/
  receiver : o.state.1.receiver = (d.receiver.writeAll pieces).state
  /-- Pieces that are no text change nothing. -/
  text : o.state.1.receiver = (d.receiver.writeAll (pieces.filter (·.chunk ≠ .other))).state
  /-- Commands are reported, if at all, and then the end, as it reaches the caller. -/
  entries : ∃ commands last, o.entries = commands ++ last ∧
    (∀ e ∈ commands, e.level = .command) ∧ Farewell d.name cause last o.result
  /-- A loop that was given no source lets go of the link that it drained. -/
  released : given = none → ∃ place, d.attached = some place ∧ o.state.1.Released place
  /-- A loop that was given one leaves the device's link attached. -/
  attached : given ≠ none → o.state.1.attached = d.attached
  /-- Links that were not read are as they were. -/
  others : ∀ place, source ≠ .link place → o.state.1.links[place]? = d.links[place]?
  rest : o.state.1.name = d.name ∧ o.state.1.scale = d.scale ∧ o.state.1.baudRate = d.baudRate

theorem release_lent {d : Device} {l : ReadLoop} (lent : l.owned = false) :
    release d l = .done d () := by
  rw [release, lent]
  rfl

theorem release_own {d : Device} {l : ReadLoop} (own : l.owned = true) {place : Nat}
    {link : ScriptedLink} (attached : d.attached = some place)
    (found : d.links[place]? = some (.scripted link)) :
    release d l = .done
      { d with links := d.links.set place (.scripted link.disconnect), attached := none } () := by
  have current : d.link? = some (.scripted link) := by
    rw [Device.link?, attached, Option.bind_some, found]
  rw [release, if_pos own]
  unfold Device.disconnect
  rw [attached, current]
  rfl

theorem readLoop_of_starts {d : Device} {given : Option Source} {l : ReadLoop}
    (starts : start d given = .ok l) (fuel : Nat) (time : Binary64) :
    d.readLoop given fuel time = l.run fuel d time [] := by
  unfold Device.readLoop
  rw [starts]

/-- **The contract of a read loop.** A loop with a sound receiver comes to its end whatever source
it reads, and keeps the contract for all that the source delivers and for the way in which it
ends. -/
theorem readLoop_keeps_contract {d : Device} (sound : d.receiver.Sound) {given : Option Source}
    {l : ReadLoop} (starts : start d given = .ok l) {time : Binary64} {pieces : List Piece}
    {cause : Option Fault} (delivers : Delivers d time l.source pieces cause) :
    ∃ steps, ∀ fuel, steps ≤ fuel →
      Kept d given l.source pieces cause (d.readLoop given fuel time) := by
  have silent : (d.receiver.writeAll (pieces.filter (·.chunk ≠ .other))).state =
      (d.receiver.writeAll pieces).state := by
    rw [Receiver.writeAll_filter_text sound.unended]
  have commands := sound.level_of_mem_writeAll pieces
  have ends := farewell_spec d cause
  have begins := readLoop_of_starts starts
  cases given with
  | some source =>
    cases starts
    obtain ⟨links, steps, time', last, owned, drained, runs⟩ :=
      run_of_delivers sound delivers false
    refine ⟨steps, fun fuel enough => ?_⟩
    rw [begins, runs fuel enough, release_lent owned]
    exact {
      receiver := rfl
      text := silent.symm
      entries := ⟨_, _, List.append_nil _, commands, ends⟩
      released := nofun
      attached := fun _ => rfl
      others := drained.others
      rest := ⟨rfl, rfl, rfl⟩ }
  | none =>
    cases attached : d.attached with
    | none =>
      unfold start at starts
      rw [attached] at starts
      cases starts
    | some place =>
      unfold start at starts
      rw [attached] at starts
      cases starts
      obtain ⟨links, steps, time', last, owned, drained, runs⟩ :=
        run_of_delivers sound delivers true
      obtain ⟨link, found⟩ := drained.own place rfl
      have inside := (List.getElem?_eq_some_iff.1 found).1
      refine ⟨steps, fun fuel enough => ?_⟩
      rw [begins, runs fuel enough,
        @release_own (fed d links pieces) last owned place link attached found]
      exact {
        receiver := rfl
        text := silent.symm
        entries := ⟨_, _, List.append_nil _, commands, ends⟩
        released := fun _ => ⟨place, attached, rfl, _, List.getElem?_set_self inside, rfl⟩
        attached := fun given => absurd rfl given
        others := fun other ne => by
          have apart : place ≠ other := fun eq => ne (congrArg _ eq)
          exact (List.getElem?_set_ne apart).trans (drained.others other ne)
        rest := ⟨rfl, rfl, rfl⟩ }

/-- A link breaks before its second chunk. The loop over it reports that once, its device keeps what
the first chunk did, and the link is released. -/
theorem readLoop_keeps_contract_broken :
    let link : ScriptedLink :=
      { scripted := ["L05\n".toList, "L09\n".toList], failAfter := some 1, interval := 1 }
    let d := (Device.fresh {} "device").attach (.scripted link)
    ∃ steps, ∀ fuel, steps ≤ fuel →
      (d.readLoop none fuel 2).result = .ok (some ()) ∧
        (d.readLoop none fuel 2).state.1.receiver =
          (d.receiver.writeAll [⟨.text "L05\n".toList, Device.clock 2⟩]).state ∧
        (d.readLoop none fuel 2).state.1.Released 0 := by
  intro link d
  have sound : d.receiver.Sound :=
    Receiver.sound_fresh Axis.defaultPeriod_isFinite Axis.defaultPeriod_pos false
  have delivers : Delivers d 2 (.link 0) (piecesOf .text (link.arrivals 2)) link.fate := .link rfl
  have pieces : piecesOf .text (link.arrivals 2) = [⟨.text "L05\n".toList, Device.clock 2⟩] := by
    decide +kernel
  have fate : link.fate = some .dropped := by
    decide +kernel
  rw [pieces, fate] at delivers
  have starts : start d none = .ok { source := .link 0, owned := true } := rfl
  obtain ⟨steps, kept⟩ := readLoop_keeps_contract sound starts delivers
  refine ⟨steps, fun fuel enough => ?_⟩
  have kept := kept fuel enough
  obtain ⟨commands, last, -, -, ends⟩ := kept.entries
  obtain ⟨place, attached, released⟩ := kept.released rfl
  cases attached
  refine ⟨?_, kept.receiver, released⟩
  generalize (d.readLoop none fuel 2).result = result at ends
  cases ends with
  | failed => rfl
  | passed other => cases other

/-- A fault that is no link's passes through to the caller, and the device's own link stays. -/
example :
    let d := (Device.fresh {} "device").attach (.scripted { scripted := [] })
    let source : Sequence Chunk :=
      { chunks := [.text "L05\n".toList, .other], failure := some (.source .value "bad")
        yielding := false, delays := [[1], [2]] }
    let o := d.readLoop (some (.sequence source)) 9 0
    o.result = .error (.source .value "bad") ∧ o.state.1.attached = some 0 ∧ o.state.2 = 3 ∧
      o.state.1.receiver = (d.receiver.writeAll [⟨.text "L05\n".toList, 1000⟩]).state := by
  decide +kernel

end ReadLoop

end MotionEmulator
