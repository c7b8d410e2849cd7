import MotionEmulator.Proofs.Axis.Soundness
import MotionEmulator.Proofs.Text.Lines
import MotionEmulator.Receiver

/-!
# Streams of timed text

A receiver is written to in pieces, each with a time of its own. What it becomes depends only on
the characters and the time that each of them carries:

* `Receiver.feed` takes a single character; `writeAll_eq_feedAll` says that pieces are taken
  character by character, so where the text is cut does not matter, faults included;
* `execute_sound` is the step of a receiver whose axes are all sound, `Sound.feedAll` the run: the
  text is cut after every line feed and each line is performed at the time of its line feed;
* `writeAll_refines_lines` is the refinement for a fresh receiver.
-/

namespace MotionEmulator

/-- A piece of a stream and the time at which it is written. -/
structure Piece where
  chunk : Chunk
  now : Binary64
  deriving DecidableEq

/-- The characters of a chunk. -/
def Chunk.chars : Chunk → List Char
  | .text chars => chars
  | .other => []

/-- The characters of a piece, each with its time. -/
def Piece.stamped (p : Piece) : List (Char × Binary64) :=
  p.chunk.chars.map fun c => (c, p.now)

/-- The characters of a stream, each with the time of its piece. -/
def stamped (pieces : List Piece) : List (Char × Binary64) :=
  pieces.flatMap Piece.stamped

theorem stamped_cons (p : Piece) (rest : List Piece) :
    stamped (p :: rest) = p.stamped ++ stamped rest :=
  List.flatMap_cons

/-- The text of a stream, without the times. -/
def textOf (pieces : List Piece) : List Char :=
  (stamped pieces).map Prod.fst

/-- The times of the line feeds among stamped characters. -/
def feedTimes (cs : List (Char × Binary64)) : List Binary64 :=
  (cs.filter fun c => c.1 = '\n').map Prod.snd

/-- The axes after a command. -/
def commanded (now : Binary64) (axes : PerChannel Axis) (c : Command) : PerChannel Axis :=
  axes.set c.channel
    ((axes.get c.channel).moveTo (.whole c.target) c.kind c.param now).state

/-- The axes after the commands of a line, one by one at the line's time. -/
def performed (axes : PerChannel Axis) (line : List Char × Binary64) : PerChannel Axis :=
  (Command.ofLine line.1).foldl (commanded line.2) axes

namespace Receiver

/-- Writes pieces in order. A fault ends it. -/
def writeAll : List Piece → Receiver → Outcome Receiver Unit
  | [], r => .done r ()
  | p :: rest, r => (r.write p.chunk p.now).andThen fun r _ => writeAll rest r

theorem writeAll_append (before after : List Piece) (r : Receiver) :
    r.writeAll (before ++ after) = (r.writeAll before).andThen fun r _ => r.writeAll after := by
  induction before generalizing r with
  | nil => rw [List.nil_append, writeAll, Outcome.done_andThen]
  | cons p rest ih =>
    rw [List.cons_append, writeAll, writeAll, Outcome.andThen_assoc]
    exact Outcome.andThen_congr fun _ => ih _

/-- Takes one character. A line feed executes the line that it ends. -/
def feed (c : Char × Binary64) (r : Receiver) : Outcome Receiver Unit :=
  if c.1 = '\n' then { r with pending := [] }.execute (r.pending ++ ['\n']) c.2
  else .done { r with pending := r.pending ++ [c.1] } ()

/-- Takes characters in order. A fault ends it. -/
def feedAll : List (Char × Binary64) → Receiver → Outcome Receiver Unit
  | [], r => .done r ()
  | c :: rest, r => (r.feed c).andThen fun r _ => feedAll rest r

/-! ## Pieces are taken character by character -/

theorem feedAll_append (cs ds : List (Char × Binary64)) (r : Receiver) :
    feedAll (cs ++ ds) r = (feedAll cs r).andThen fun r _ => feedAll ds r := by
  induction cs generalizing r with
  | nil => rfl
  | cons c rest ih =>
    simp only [List.cons_append, feedAll, Outcome.andThen_assoc, ih]

/-- No complete line is pending. -/
def Unended (r : Receiver) : Prop :=
  '\n' ∉ r.pending

/-- Executing a line does not touch the unfinished one. -/
theorem pending_execute (r : Receiver) (line : List Char) (now : Binary64) :
    (r.execute line now).state.pending = r.pending := rfl

/-- Writing text is feeding its characters, all at one time. -/
theorem write_text (chars : List Char) (now : Binary64) {r : Receiver}
    (unended : r.Unended) :
    r.write (.text chars) now = feedAll (chars.map fun c => (c, now)) r := by
  induction chars generalizing r with
  | nil =>
    simp only [write, List.append_nil, Text.cutLines_of_not_mem unended, executeAll]
    rfl
  | cons c rest ih =>
    by_cases hc : c = '\n'
    · subst hc
      simp only [write, Text.cutLines_append_lineFeed unended, executeAll,
        Outcome.andThen_assoc, List.map_cons, feedAll, feed, if_true]
      apply Outcome.andThen_congr
      intro _
      -- Execution leaves nothing pending, so the rest of the text starts a line of its own.
      have pending := pending_execute { r with pending := [] } (r.pending ++ ['\n']) now
      rw [← ih (by simp [Unended, pending])]
      simp only [write, pending, List.nil_append]
      rfl
    · have longer : Unended { r with pending := r.pending ++ [c] } := by
        simpa [Unended, Ne.symm hc] using unended
      simp only [List.map_cons, feedAll, feed, if_neg hc, Outcome.done_andThen]
      rw [← ih longer]
      simp only [write, List.append_assoc, List.singleton_append]

theorem unended_feed (c : Char × Binary64) {r : Receiver} (unended : r.Unended) :
    (r.feed c).state.Unended := by
  unfold feed Unended
  split
  · rw [pending_execute]
    exact List.not_mem_nil
  · next other =>
    change '\n' ∉ r.pending ++ [c.1]
    have : '\n' ∉ r.pending := unended
    simp [this, Ne.symm other]

theorem unended_feedAll (cs : List (Char × Binary64)) {r : Receiver}
    (unended : r.Unended) : (feedAll cs r).state.Unended := by
  induction cs generalizing r with
  | nil => exact unended
  | cons c rest ih => exact Outcome.andThen_keeps (unended_feed c unended) fun _ _ => ih

theorem write_eq_feedAll (p : Piece) {r : Receiver} (unended : r.Unended) :
    r.write p.chunk p.now = feedAll p.stamped r := by
  unfold Piece.stamped
  cases p.chunk with
  | text chars => exact write_text chars p.now unended
  | other => rfl

/-- **How a text is cut into pieces does not matter.** Writing pieces is feeding their characters
one by one, also where a fault ends it. -/
theorem writeAll_eq_feedAll (pieces : List Piece) {r : Receiver} (unended : r.Unended) :
    r.writeAll pieces = feedAll (stamped pieces) r := by
  induction pieces generalizing r with
  | nil => rfl
  | cons p rest ih =>
    rw [writeAll, stamped_cons, feedAll_append, write_eq_feedAll p unended]
    apply Outcome.andThen_congr
    intro _
    exact ih (unended_feedAll _ unended)

/-! ## Lines and their times -/

/-- The lines that stamped characters complete behind a pending text, each with the time of its
line feed. -/
def timedLines (pending : List Char) (cs : List (Char × Binary64)) :
    List (List Char × Binary64) :=
  (Text.cutLines (pending ++ cs.map Prod.fst)).1.zip (feedTimes cs)

theorem timedLines_lineFeed {pending : List Char} (unended : '\n' ∉ pending) (now : Binary64)
    (rest : List (Char × Binary64)) :
    timedLines pending (('\n', now) :: rest) =
      (pending ++ ['\n'], now) :: timedLines [] rest := by
  simp [timedLines, feedTimes, Text.cutLines_append_lineFeed unended]

theorem timedLines_other {c : Char} (other : c ≠ '\n') (pending : List Char) (now : Binary64)
    (rest : List (Char × Binary64)) :
    timedLines pending ((c, now) :: rest) = timedLines (pending ++ [c]) rest := by
  simp [timedLines, feedTimes, other]

/-- No line and no time is left over when the two are paired. -/
theorem length_feedTimes (cs : List (Char × Binary64)) :
    (feedTimes cs).length = (cs.map Prod.fst).count '\n' := by
  rw [feedTimes, List.length_map, ← List.countP_eq_length_filter, List.count, List.countP_map]
  rfl

/-! ## Receivers with sound axes -/

/-- All axes are sound and no complete line is pending. -/
structure Sound (r : Receiver) : Prop where
  axes : ∀ c, (r.axes.get c).Sound
  unended : r.Unended

theorem sound_fresh {period : Binary64} (finite : period.IsFinite) (pos : 0 < period)
    (logged : Bool) : (fresh period logged).Sound where
  axes c := by
    rw [fresh, PerChannel.get_ofFn]
    exact Axis.sound_fresh finite pos
  unended := List.not_mem_nil

variable {axes : PerChannel Axis} {r : Receiver}

/-- A command for a sound axis always starts its move. -/
theorem applyCommand_sound (sound : ∀ d, (axes.get d).Sound) (now : Binary64) (c : Command) :
    applyCommand now c axes = .done (commanded now axes c) () ∧
      ∀ d, ((commanded now axes c).get d).Sound := by
  rcases (sound c.channel).obey_cases ⟨.whole c.target, c.kind, c.param, now⟩ with
    ⟨-, b, sound', eq⟩ | ⟨not_finite, -⟩
  · unfold applyCommand commanded
    rw [show (axes.get c.channel).moveTo _ _ _ _ = _ from eq]
    refine ⟨rfl, fun d => ?_⟩
    change ((axes.set c.channel b).get d).Sound
    by_cases hd : d = c.channel
    · rw [hd, PerChannel.get_set_same]
      exact sound'
    · rw [PerChannel.get_set_of_ne axes b hd]
      exact sound d
  · exact absurd trivial not_finite

theorem applyCommands_sound (sound : ∀ d, (axes.get d).Sound) (now : Binary64)
    (commands : List Command) :
    applyCommands now commands axes = .done (commands.foldl (commanded now) axes) () ∧
      ∀ d, ((commands.foldl (commanded now) axes).get d).Sound := by
  induction commands generalizing axes with
  | nil => exact ⟨rfl, sound⟩
  | cons c rest ih =>
    obtain ⟨eq, sound'⟩ := applyCommand_sound sound now c
    rw [applyCommands, eq, Outcome.done_andThen]
    exact ih sound'

/-- A line is performed and reported. -/
theorem execute_sound (sound : ∀ d, (r.axes.get d).Sound) (line : List Char) (now : Binary64) :
    r.execute line now =
        .done { r with axes := performed r.axes (line, now) } ()
          (commandEntries r.logCommands (Command.ofLine line)) ∧
      ∀ d, ((performed r.axes (line, now)).get d).Sound := by
  obtain ⟨eq, sound'⟩ := applyCommands_sound sound now (Command.ofLine line)
  have body : (applyCommands now (Command.ofLine line) r.axes).within
      (fun axes => { r with axes }) =
        .done { r with axes := performed r.axes (line, now) } () := by
    rw [eq, Outcome.within_done, performed]
  refine ⟨?_, sound'⟩
  rw [← List.append_nil (commandEntries _ _)]
  exact Outcome.done_andThen_of_eq body

/-- What a stream leaves of a receiver with sound axes: its lines are performed in order, each at
the time of its line feed, and what comes after the last of them is pending. -/
def performedAll (r : Receiver) (cs : List (Char × Binary64)) : Receiver :=
  { r with
    axes := (timedLines r.pending cs).foldl performed r.axes
    pending := (Text.cutLines (r.pending ++ cs.map Prod.fst)).2 }

/-- What is reported of the lines of a stream. -/
def reports (r : Receiver) (cs : List (Char × Binary64)) : List Entry :=
  (timedLines r.pending cs).flatMap fun line =>
    commandEntries r.logCommands (Command.ofLine line.1)

theorem performedAll_nil (unended : r.Unended) : r.performedAll [] = r := by
  have cut : Text.cutLines (r.pending ++ []) = ([], r.pending) := by
    rw [List.append_nil, Text.cutLines_of_not_mem unended]
  simp only [performedAll, timedLines, List.map_nil, cut, List.zip_nil_left, List.foldl_nil]

theorem reports_nil (r : Receiver) : r.reports [] = [] := by
  simp only [reports, timedLines, feedTimes, List.filter_nil, List.map_nil, List.zip_nil_right,
    List.flatMap_nil]

/-- The receiver behind a line feed, before the rest of the stream. -/
def lineDone (r : Receiver) (now : Binary64) : Receiver :=
  { r with axes := performed r.axes (r.pending ++ ['\n'], now), pending := [] }

theorem performedAll_lineFeed (unended : r.Unended) (now : Binary64)
    (rest : List (Char × Binary64)) :
    r.performedAll (('\n', now) :: rest) = (r.lineDone now).performedAll rest := by
  simp only [performedAll, lineDone, timedLines_lineFeed unended, List.foldl_cons, List.map_cons,
    Text.cutLines_append_lineFeed unended, List.nil_append]

theorem reports_lineFeed (unended : r.Unended) (now : Binary64)
    (rest : List (Char × Binary64)) :
    r.reports (('\n', now) :: rest) =
      commandEntries r.logCommands (Command.ofLine (r.pending ++ ['\n'])) ++
        (r.lineDone now).reports rest := by
  simp only [reports, lineDone, timedLines_lineFeed unended, List.flatMap_cons]

theorem performedAll_other {c : Char} (other : c ≠ '\n') (now : Binary64)
    (rest : List (Char × Binary64)) :
    r.performedAll ((c, now) :: rest) =
      { r with pending := r.pending ++ [c] }.performedAll rest := by
  simp only [performedAll, timedLines_other other, List.map_cons, List.append_assoc,
    List.singleton_append]

theorem reports_other {c : Char} (other : c ≠ '\n') (now : Binary64)
    (rest : List (Char × Binary64)) :
    r.reports ((c, now) :: rest) = { r with pending := r.pending ++ [c] }.reports rest := by
  simp only [reports, timedLines_other other]

/-- **The run.** A receiver with sound axes performs every line of a stream, and its axes are
sound again. -/
theorem Sound.feedAll (sound : r.Sound) (cs : List (Char × Binary64)) :
    feedAll cs r = .done (r.performedAll cs) () (r.reports cs) ∧ (r.performedAll cs).Sound := by
  -- The receiver varies: a line feed leaves other axes, any other character a longer line.
  induction cs generalizing r with
  | nil =>
    rw [performedAll_nil sound.unended, reports_nil]
    exact ⟨rfl, sound⟩
  | cons c rest ih =>
    obtain ⟨c, now⟩ := c
    by_cases hc : c = '\n'
    · subst hc
      obtain ⟨step, sound'⟩ :=
        execute_sound (r := { r with pending := [] }) sound.axes (r.pending ++ ['\n']) now
      obtain ⟨run, last⟩ := ih (r := r.lineDone now) ⟨sound', List.not_mem_nil⟩
      rw [performedAll_lineFeed sound.unended, reports_lineFeed sound.unended]
      refine ⟨?_, last⟩
      rw [Receiver.feedAll, feed, if_pos rfl, step]
      exact Outcome.done_andThen_of_eq run
    · have unended := unended_feed (c, now) sound.unended
      have step : r.feed (c, now) = .done { r with pending := r.pending ++ [c] } () :=
        if_neg hc
      rw [step] at unended
      obtain ⟨run, last⟩ := ih (r := { r with pending := r.pending ++ [c] }) ⟨sound.axes, unended⟩
      rw [performedAll_other hc, reports_other hc]
      refine ⟨?_, last⟩
      rw [Receiver.feedAll, step, Outcome.done_andThen]
      exact run

/-- Writing a stream to a receiver with sound axes. -/
theorem Sound.writeAll (sound : r.Sound) (pieces : List Piece) :
    r.writeAll pieces =
        .done (r.performedAll (stamped pieces)) () (r.reports (stamped pieces)) ∧
      (r.performedAll (stamped pieces)).Sound := by
  rw [writeAll_eq_feedAll pieces sound.unended]
  exact sound.feedAll (stamped pieces)

/-- One more piece is written to a receiver that had sound axes, without a fault. -/
theorem Sound.write_last (sound : r.Sound) (pieces : List Piece) (p : Piece) :
    ((r.writeAll pieces).state.write p.chunk p.now).result = .ok () ∧
      ((r.writeAll pieces).state.write p.chunk p.now).state =
        (r.writeAll (pieces ++ [p])).state := by
  obtain ⟨all, sound'⟩ := sound.writeAll pieces
  obtain ⟨last, -⟩ := sound'.writeAll [p]
  rw [writeAll_append, all]
  change _ ∧ _ = ((r.performedAll (stamped pieces)).writeAll [p]).state
  rw [Receiver.writeAll, Outcome.andThen] at last
  rw [Receiver.writeAll, Outcome.andThen]
  change ((r.performedAll (stamped pieces)).write p.chunk p.now).result = _ ∧ _
  cases result : ((r.performedAll (stamped pieces)).write p.chunk p.now).result with
  | ok => exact ⟨rfl, rfl⟩
  | error cause =>
    rw [result] at last
    cases congrArg Outcome.result last

theorem Sound.state_writeAll (sound : r.Sound) (pieces : List Piece) :
    (r.writeAll pieces).state.Sound := by
  obtain ⟨all, sound'⟩ := sound.writeAll pieces
  rw [all]
  exact sound'

/-- A stream that is written at one time is its text at that time. -/
theorem stamped_of_now {pieces : List Piece} {now : Binary64}
    (at_once : ∀ p ∈ pieces, p.now = now) :
    stamped pieces = (textOf pieces).map fun c => (c, now) := by
  rw [textOf, List.map_map]
  conv_lhs => rw [← List.map_id (stamped pieces)]
  apply List.map_congr_left
  intro c mem
  obtain ⟨p, hp, hc⟩ := List.mem_flatMap.1 mem
  obtain ⟨d, -, rfl⟩ := List.mem_map.1 hc
  rw [← at_once p hp]
  rfl

/-- **A receiver performs the lines of its stream.** However a text is cut into pieces, and
whatever is written between them that is no text: the whole text is cut after each line feed, each
line is performed once, in order and at the time of the piece that brought its line feed, and
what comes after the last line feed is pending. Two streams of one text at one time leave the
same receiver. -/
theorem writeAll_refines_lines {period : Binary64} (finite : period.IsFinite) (pos : 0 < period)
    (logged : Bool) (pieces : List Piece) :
    (∃ lines tail, Text.Cut (textOf pieces) lines tail) ∧
      (∀ lines tail, Text.Cut (textOf pieces) lines tail →
        lines.length = (feedTimes (stamped pieces)).length ∧
        ((fresh period logged).writeAll pieces).result = .ok () ∧
        ((fresh period logged).writeAll pieces).state =
          { axes := (lines.zip (feedTimes (stamped pieces))).foldl performed
              (fresh period logged).axes
            pending := tail
            logCommands := logged }) ∧
      '\n' ∉ ((fresh period logged).writeAll pieces).state.pending ∧
      ∀ now others, (∀ p ∈ pieces, p.now = now) → (∀ p ∈ others, p.now = now) →
        textOf others = textOf pieces →
        ((fresh period logged).writeAll others).state =
          ((fresh period logged).writeAll pieces).state := by
  have sound := sound_fresh finite pos logged
  obtain ⟨eq, last⟩ := sound.writeAll pieces
  refine ⟨⟨_, _, Text.cut_cutLines _⟩, ?_, ?_, ?_⟩
  · intro lines tail cut
    have cut_eq : Text.cutLines ((stamped pieces).map Prod.fst) = (lines, tail) :=
      cut.eq_cutLines
    rw [eq]
    refine ⟨?_, rfl, ?_⟩
    · rw [cut.length_lines, length_feedTimes]
      rfl
    · change (fresh period logged).performedAll (stamped pieces) = _
      simp only [performedAll, timedLines, fresh, List.nil_append, cut_eq]
  · rw [eq]
    exact last.unended
  · intro now others at_once others_at_once same
    rw [writeAll_eq_feedAll others sound.unended, writeAll_eq_feedAll pieces sound.unended,
      stamped_of_now at_once, stamped_of_now others_at_once, same]

/-- A command cut inside its token and inside its line ending. -/
theorem writeAll_refines_lines_cut_token :
    defaultPeriod.IsFinite ∧ 0 < defaultPeriod ∧
      ((fresh defaultPeriod true).writeAll
        [⟨.text ['L', '0', '5', 'I'], 7⟩, ⟨.other, 7⟩, ⟨.text ['9', '\r'], 7⟩,
          ⟨.text ['\n', 'R'], 7⟩]).state =
      ((fresh defaultPeriod true).writeAll
        [⟨.text ['L', '0', '5', 'I', '9', '\r', '\n', 'R'], 7⟩]).state := by
  refine ⟨Axis.defaultPeriod_isFinite, Axis.defaultPeriod_pos, ?_⟩
  obtain ⟨-, -, -, same⟩ := writeAll_refines_lines Axis.defaultPeriod_isFinite
    Axis.defaultPeriod_pos true [⟨.text ['L', '0', '5', 'I', '9', '\r', '\n', 'R'], 7⟩]
  exact same 7 _ (by simp) (by simp) rfl

end Receiver

end MotionEmulator
