import MotionEmulator.Proofs.Command.Wire
import MotionEmulator.Proofs.Receiver.Stream

/-!
# The log of a receiver replays its run

A receiver that logs its commands reports each completed line that holds a command, once and in
canonical form. `Receiver.journal` is that log with the time at which each entry was made, and
`replayOf` the stream that feeds the logged texts again, each with a line feed and at its time.

* `Sound.journal`: the journal has one entry for each timed line with a command on it;
* `timedLines_replayOf`: a replayed entry is a line of its own, at its own time;
* `foldl_performed_canonicalLines`: a canonical line is performed as the line it stands for.

`wire_round_trip_and_replay` is the statement for whole runs.
-/

namespace MotionEmulator

namespace Receiver

/-- The entries that the pieces of a stream make, each with the time of its piece. -/
def journal : List Piece → Receiver → List (Entry × Binary64)
  | [], _ => []
  | p :: rest, r =>
    let o := r.write p.chunk p.now
    o.entries.map (fun e => (e, p.now)) ++ journal rest o.state

/-- A whole line as a piece. -/
def linePiece (body : List Char) (now : Binary64) : Piece :=
  ⟨.text (body ++ ['\n']), now⟩

/-- The stream that feeds the texts of logged entries again. -/
def replayOf (log : List (Entry × Binary64)) : List Piece :=
  log.map fun e => linePiece e.1.message.toList e.2

/-! ## What is logged and when -/

variable {r : Receiver}

/-- Cutting a stream of characters in two cuts its lines in two. -/
theorem timedLines_append {pending : List Char} (unended : '\n' ∉ pending)
    (cs ds : List (Char × Binary64)) :
    timedLines pending (cs ++ ds) =
      timedLines pending cs ++
        timedLines (Text.cutLines (pending ++ cs.map Prod.fst)).2 ds := by
  induction cs generalizing pending with
  | nil =>
    simp [timedLines, feedTimes, Text.cutLines_of_not_mem unended]
  | cons c rest ih =>
    obtain ⟨c, now⟩ := c
    by_cases hc : c = '\n'
    · subst hc
      rw [List.cons_append, timedLines_lineFeed unended, timedLines_lineFeed unended,
        ih List.not_mem_nil, List.map_cons, Text.cutLines_append_lineFeed unended]
      rfl
    · have longer : '\n' ∉ pending ++ [c] := by simp [unended, Ne.symm hc]
      rw [List.cons_append, timedLines_other hc, timedLines_other hc, ih longer, List.map_cons,
        List.append_assoc, List.singleton_append]

/-- All lines that one piece completes have the time of that piece. -/
theorem snd_of_mem_timedLines {pending : List Char} {p : Piece} {line : List Char × Binary64}
    (mem : line ∈ timedLines pending p.stamped) : line.2 = p.now := by
  obtain ⟨-, time⟩ := List.of_mem_zip mem
  obtain ⟨c, filtered, eq⟩ := List.mem_map.1 time
  obtain ⟨d, -, rfl⟩ := List.mem_map.1 (List.mem_of_mem_filter filtered)
  exact eq.symm

/-- What is logged of a timed line, and when: one entry or none. -/
def timedEntries (logged : Bool) (line : List Char × Binary64) : List (Entry × Binary64) :=
  (commandEntries logged (Command.ofLine line.1)).map fun e => (e, line.2)

theorem map_fst_timedEntries (logged : Bool) (lines : List (List Char × Binary64)) :
    (lines.flatMap (timedEntries logged)).map Prod.fst =
      lines.flatMap fun line => commandEntries logged (Command.ofLine line.1) := by
  rw [List.map_flatMap]
  simp only [timedEntries, List.map_map, Function.comp_def, List.map_id']

/-- **The journal has the entries of the timed lines of the stream.** -/
theorem Sound.journal (sound : r.Sound) (pieces : List Piece) :
    r.journal pieces =
      (timedLines r.pending (stamped pieces)).flatMap (timedEntries r.logCommands) := by
  induction pieces generalizing r with
  | nil =>
    have none : timedLines r.pending (stamped []) = [] := by
      simp [timedLines, feedTimes, stamped]
    rw [none]
    rfl
  | cons p rest ih =>
    obtain ⟨eq, sound'⟩ := sound.feedAll p.stamped
    have entries : (r.reports p.stamped).map (fun e => (e, p.now)) =
        (timedLines r.pending p.stamped).flatMap (timedEntries r.logCommands) := by
      rw [reports, List.map_flatMap]
      apply List.flatMap_congr
      intro line mem
      rw [timedEntries, snd_of_mem_timedLines mem]
    -- Lines may span pieces, so what the first piece leaves pending goes into the induction.
    rw [Receiver.journal, write_eq_feedAll p sound.unended, eq, stamped_cons,
      timedLines_append sound.unended, List.flatMap_append, ← entries]
    exact congrArg _ (ih sound')

/-! ## What is fed again -/

/-- The canonical forms of those timed lines that hold a command. -/
def canonicalLines (lines : List (List Char × Binary64)) : List (List Char × Binary64) :=
  (lines.filter fun line => Command.ofLine line.1 ≠ []).map fun line =>
    (Command.wireLine (Command.ofLine line.1) ++ ['\n'], line.2)

/-- A piece that is a whole line stands for itself. -/
theorem timedLines_line {body : List Char} (no_feed : '\n' ∉ body) (now : Binary64)
    (rest : List (Char × Binary64)) :
    timedLines [] ((linePiece body now).stamped ++ rest) =
      (body ++ ['\n'], now) :: timedLines [] rest := by
  have text : ((linePiece body now).stamped ++ rest).map Prod.fst =
      body ++ '\n' :: rest.map Prod.fst := by
    simp [linePiece, Piece.stamped, Chunk.chars, Function.comp_def]
  have times : feedTimes ((linePiece body now).stamped ++ rest) = now :: feedTimes rest := by
    have none : (body.map fun c => (c, now)).filter (fun c => c.1 = '\n') = [] := by
      rw [List.filter_eq_nil_iff]
      intro d mem
      obtain ⟨c, hc, rfl⟩ := List.mem_map.1 mem
      have : c ≠ '\n' := ne_of_mem_of_not_mem hc no_feed
      simpa using this
    simp [linePiece, Piece.stamped, Chunk.chars, feedTimes, none]
  rw [timedLines, text, times, List.nil_append, Text.cutLines_append_lineFeed no_feed]
  rfl

theorem timedLines_replayOf (lines : List (List Char × Binary64)) :
    timedLines [] (stamped (replayOf (lines.flatMap (timedEntries true)))) =
      canonicalLines lines := by
  induction lines with
  | nil => rfl
  | cons line rest ih =>
    rw [List.flatMap_cons]
    by_cases none : Command.ofLine line.1 = []
    · have entries : timedEntries true line = [] := by
        simp [timedEntries, commandEntries, none]
      rw [entries, List.nil_append, ih]
      simp [canonicalLines, none]
    · have entries : timedEntries true line =
          [(commandEntry (Command.ofLine line.1), line.2)] := by
        simp [timedEntries, commandEntries, none]
      have message : (commandEntry (Command.ofLine line.1)).message.toList =
          Command.wireLine (Command.ofLine line.1) :=
        String.toList_ofList
      rw [entries, List.singleton_append, replayOf, List.map_cons, stamped_cons, message,
        timedLines_line (Command.lineFeed_not_mem_wireLine _), ← replayOf, ih]
      simp [canonicalLines, none]

/-- Canonical lines are performed as the lines they stand for, and lines without a command do
nothing. -/
theorem foldl_performed_canonicalLines (lines : List (List Char × Binary64))
    (axes : PerChannel Axis) :
    (canonicalLines lines).foldl performed axes = lines.foldl performed axes := by
  induction lines generalizing axes with
  | nil => rfl
  | cons line rest ih =>
    by_cases none : Command.ofLine line.1 = []
    · have still : performed axes line = axes := by rw [performed, none]; rfl
      have skipped : canonicalLines (line :: rest) = canonicalLines rest := by
        simp [canonicalLines, none]
      rw [skipped, List.foldl_cons, still, ih]
    · have same (now : Binary64) :
          performed axes (Command.wireLine (Command.ofLine line.1) ++ ['\n'], now) =
            performed axes (line.1, now) := by
        simp only [performed, Command.ofLine_append_lineFeed, Command.ofLine_wireLine]
      have kept : canonicalLines (line :: rest) =
          (Command.wireLine (Command.ofLine line.1) ++ ['\n'], line.2) ::
            canonicalLines rest := by
        simp [canonicalLines, none]
      rw [kept, List.foldl_cons, List.foldl_cons, same, ih]

/-! ## Whole runs -/

/-- The entries of a logging receiver, one for each line that holds a command. -/
theorem reports_fresh (period : Binary64) (cs : List (Char × Binary64)) :
    (fresh period true).reports cs =
      ((Text.cutLines (cs.map Prod.fst)).1.filter fun line => Command.ofLine line ≠ []).map
        fun line => commandEntry (Command.ofLine line) := by
  have lines : (timedLines [] cs).map Prod.fst = (Text.cutLines (cs.map Prod.fst)).1 := by
    apply List.map_fst_zip
    rw [(Text.cut_cutLines _).length_lines, length_feedTimes]
    rfl
  rw [← lines]
  change (timedLines [] cs).flatMap _ = _
  induction timedLines [] cs with
  | nil => rfl
  | cons line rest ih =>
    rw [List.flatMap_cons, ih]
    by_cases none : Command.ofLine line.1 = [] <;>
      simp [fresh, commandEntries, none]

/-- **Canonical lines are read back, and a log replays its run.** A list of commands that is
written in canonical form is read back as that list. Therefore the log of a receiver has exactly
one entry for each completed line that holds a command, and its texts, fed to a fresh receiver
with a line feed and at the times at which they were logged, lead to the same axes. -/
theorem wire_round_trip_and_replay :
    (∀ commands : List Command,
      Command.ofLine (List.intercalate [' '] (commands.map Command.wire)) = commands) ∧
    ∀ period : Binary64, period.IsFinite → 0 < period → ∀ pieces : List Piece,
      (∃ lines tail, Text.Cut (textOf pieces) lines tail ∧
        ((fresh period true).writeAll pieces).entries =
          (lines.filter fun line => Command.ofLine line ≠ []).map fun line =>
            commandEntry (Command.ofLine line)) ∧
      ((fresh period true).journal pieces).map Prod.fst =
        ((fresh period true).writeAll pieces).entries ∧
      ∀ logged : Bool,
        ((fresh period logged).writeAll (replayOf ((fresh period true).journal pieces))).result =
          .ok () ∧
        ((fresh period logged).writeAll
            (replayOf ((fresh period true).journal pieces))).state.axes =
          ((fresh period true).writeAll pieces).state.axes := by
  refine ⟨Command.ofLine_wireLine, fun period finite pos pieces => ?_⟩
  have sound := sound_fresh finite pos true
  have run := (sound.writeAll pieces).1
  have journal := sound.journal pieces
  refine ⟨⟨_, _, Text.cut_cutLines _, ?_⟩, ?_, fun logged => ?_⟩
  · rw [run]
    exact reports_fresh period (stamped pieces)
  · rw [run, journal]
    exact map_fst_timedEntries _ _
  · obtain ⟨replay, -⟩ := (sound_fresh finite pos logged).writeAll
      (replayOf ((fresh period true).journal pieces))
    rw [replay, run]
    refine ⟨rfl, ?_⟩
    change (timedLines [] (stamped (replayOf ((fresh period true).journal pieces)))).foldl
        performed _ = (timedLines [] (stamped pieces)).foldl performed _
    rw [journal]
    change (timedLines [] (stamped (replayOf ((timedLines [] (stamped pieces)).flatMap
      (timedEntries true))))).foldl performed _ = _
    rw [timedLines_replayOf, foldl_performed_canonicalLines]
    rfl

/-- A line with a malformed token, a long target and a parameter with zeros in front, cut in
two. -/
theorem wire_round_trip_and_replay_malformed :
    let pieces : List Piece :=
      [⟨.text "L05S1 junk R0123456I".toList, 0⟩, ⟨.text "0000000000123\n".toList, 3⟩]
    defaultPeriod.IsFinite ∧ 0 < defaultPeriod ∧
      replayOf ((fresh defaultPeriod true).journal pieces) =
        [⟨.text "L05000S1 R01234I123\n".toList, 3⟩] ∧
      ((fresh defaultPeriod false).writeAll
          [⟨.text "L05000S1 R01234I123\n".toList, 3⟩]).state.axes =
        ((fresh defaultPeriod true).writeAll pieces).state.axes := by
  intro pieces
  have logged : replayOf ((fresh defaultPeriod true).journal pieces) =
      [⟨.text "L05000S1 R01234I123\n".toList, 3⟩] := by
    decide +kernel
  obtain ⟨-, runs⟩ := wire_round_trip_and_replay
  obtain ⟨-, -, replay⟩ := runs defaultPeriod Axis.defaultPeriod_isFinite
    Axis.defaultPeriod_pos pieces
  obtain ⟨-, same⟩ := replay false
  rw [logged] at same
  exact ⟨Axis.defaultPeriod_isFinite, Axis.defaultPeriod_pos, logged, same⟩

end Receiver

end MotionEmulator
