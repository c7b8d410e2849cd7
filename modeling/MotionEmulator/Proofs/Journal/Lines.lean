import MotionEmulator.Proofs.Command.Wire
import MotionEmulator.Proofs.Link.Operations
import MotionEmulator.Proofs.Receiver.Stream
import MotionEmulator.Proofs.Text.Quoted

/-!
# What comes over a wire keeps to its line of the journal

An entry is `Entry.OnOneLine` when it takes up one line, at whatever time it is written, and all of
that line is printable. The texts that are sent and received are quoted for the journal, and the
commands of a stream are put into canonical form, so both are on one line whatever they hold
(`onOneLine_overSerial`, `onOneLine_commandEntry`), and the line can be read back
(`overSerial_of_text_eq`, `commandEntry_of_text_eq`).

`SerialLink.wired` is what goes over a link: the texts that its reads return and that it is given
to write, in order. A link that reports this has one entry for each of these texts
(`serial_reported`). A receiver, sound or not, reports the lines of its stream, up to the fault
that ends it (`reports_writeAll`). `wire_data_keeps_to_line` puts the two together.
-/

namespace MotionEmulator

open Text

namespace Entry

/-! ## One line -/

/-- An entry that takes up one line, on which there is nothing that is not printable. -/
structure OnOneLine (e : Entry) : Prop where
  line : ∀ time, e.lines time = [e.text time]
  printable : ∀ time, ∀ c ∈ (e.text time).toList, isPrintable c = true

/-- Whether a character is one of the plain ones, from the space to the tilde. -/
def isPlain (c : Char) : Bool :=
  0x20 ≤ c.toNat && c.toNat < 0x7f

theorem isPrintable_of_isPlain {c : Char} (plain : isPlain c = true) : isPrintable c = true := by
  simp only [isPlain, Bool.and_eq_true, decide_eq_true_eq] at plain
  exact isPrintable_of_ascii plain.1 plain.2

theorem isPrintable_of_all_plain {part : String} (plain : part.toList.all isPlain = true) :
    ∀ c ∈ part.toList, isPrintable c = true := fun c mem =>
  isPrintable_of_isPlain (List.all_eq_true.1 plain c mem)

/-- The characters of the marks that are not plain. -/
def signs : List Char :=
  ['⚡', '⚠', '\ufe0f', '✓', 'ℹ', '⬡', '→', '📍']

theorem isPrintable_of_mem_mark (level : Level) :
    ∀ c ∈ level.mark.toList, isPrintable c = true := by
  have printable : signs.all isPrintable = true := by decide +kernel
  have made : (level.mark.toList.all fun c => isPlain c || signs.contains c) = true := by
    cases level <;> decide
  intro c mem
  rcases Bool.or_eq_true_iff.1 (List.all_eq_true.1 made c mem) with plain | sign
  · exact isPrintable_of_isPlain plain
  · exact List.all_eq_true.1 printable c (List.contains_iff_mem.1 sign)

theorem isPrintable_of_mem_time (time : TimeOfDay) :
    ∀ c ∈ time.text.toList, isPrintable c = true := by
  have number {width n : Nat} {c : Char} (mem : c ∈ Decimal.padded width n) :
      isPrintable c = true := by
    have digit : isDigit c = true := by
      rcases List.mem_append.1 mem with zero | digit
      · rw [List.eq_of_mem_replicate zero]
        rfl
      · exact isDigit_of_mem_toDigits digit
    rw [isDigit_iff] at digit
    exact isPrintable_of_ascii (by omega) (by omega)
  have colon : ":".toList.all isPlain = true := by decide
  have point : ".".toList.all isPlain = true := by decide
  intro c mem
  simp only [TimeOfDay.text, String.toList_append, String.toList_ofList, List.mem_append] at mem
  rcases mem with (((((hour | mem) | minute) | mem) | second) | mem) | thousandth
  · exact number hour
  · exact isPrintable_of_all_plain colon c mem
  · exact number minute
  · exact isPrintable_of_all_plain colon c mem
  · exact number second
  · exact isPrintable_of_all_plain point c mem
  · exact number thousandth

/-- A message that is printable makes for one line. -/
theorem onOneLine_of_message {e : Entry} (bare : e.data = [])
    (message : ∀ c ∈ e.message.toList, isPrintable c = true) : e.OnOneLine := by
  have plain : ∀ part ∈ ["[", "] ", " | ", ""], part.toList.all isPlain = true := by decide
  have printable (time : TimeOfDay) : ∀ c ∈ (e.text time).toList, isPrintable c = true := by
    intro c mem
    simp only [text, bare, List.isEmpty_nil, if_true, String.toList_append, List.mem_append] at mem
    rcases mem with (((((mem | mem) | mem) | mem) | mem) | mem) | mem
    · exact isPrintable_of_all_plain (plain "[" (by simp)) c mem
    · exact isPrintable_of_mem_time time c mem
    · exact isPrintable_of_all_plain (plain "] " (by simp)) c mem
    · exact isPrintable_of_mem_mark e.level c mem
    · exact isPrintable_of_all_plain (plain " | " (by simp)) c mem
    · exact message c mem
    · exact isPrintable_of_all_plain (plain "" (by simp)) c mem
  refine ⟨fun time => ?_, printable⟩
  have unbroken : '\n' ∉ (e.text time).toList := by
    intro mem
    have own := printable time _ mem
    rw [isPrintable_lineFeed] at own
    cases own
  rw [lines, lines_of_not_mem unbroken, List.map_singleton, String.ofList_toList]

/-- Text that went over a wire is on one line, whatever it holds. -/
theorem onOneLine_overSerial {arrow : String} (printable : ∀ c ∈ arrow.toList, isPrintable c = true)
    (text : List Char) : (overSerial arrow text).OnOneLine := by
  have space : " ".toList.all isPlain = true := by decide
  refine onOneLine_of_message rfl fun c mem => ?_
  simp only [overSerial, String.toList_append, String.toList_ofList, List.mem_append] at mem
  rcases mem with (pointing | blank) | inside
  · exact printable c pointing
  · exact isPrintable_of_all_plain space c blank
  · exact isPrintable_of_mem_quoted inside

/-- Commands are on one line. -/
theorem onOneLine_commandEntry (commands : List Command) : (commandEntry commands).OnOneLine := by
  refine onOneLine_of_message rfl fun c mem => ?_
  rw [commandEntry, String.toList_ofList] at mem
  rcases mem_intercalate_space mem with rfl | ⟨w, among, own⟩
  · exact isPrintable_of_isPlain rfl
  · obtain ⟨command, -, rfl⟩ := List.mem_map.1 among
    obtain ⟨low, high⟩ := Command.plain_of_mem_wire own
    exact isPrintable_of_ascii low.le high

/-- Entries on one line each. -/
theorem flatMap_lines {entries : List Entry} (single : ∀ e ∈ entries, e.OnOneLine)
    (time : TimeOfDay) :
    (entries.flatMap fun e => e.lines time) = entries.map fun e => e.text time := by
  rw [List.map_eq_flatMap]
  exact List.flatMap_congr fun e mem => (single e mem).line time

/-! ## Lines that tell what they are about -/

/-- Every mark begins with a character of its own. -/
theorem level_of_take_mark {level other : Level}
    (same : level.mark.toList.take 1 = other.mark.toList.take 1) : level = other := by
  revert same
  cases level <;> cases other <;> decide +kernel

/-- The lines of one time tell the levels of their entries apart. -/
theorem level_of_text_eq {e f : Entry} {time : TimeOfDay} (same : e.text time = f.text time) :
    e.level = f.level := by
  have marked (level : Level) : 1 ≤ level.mark.toList.length := by
    cases level <;> decide +kernel
  have behind := congrArg String.toList same
  simp only [text, String.toList_append, List.append_assoc, List.append_cancel_left_eq] at behind
  have first := congrArg (List.take 1) behind
  rw [List.take_append_of_le_length (marked e.level),
    List.take_append_of_le_length (marked f.level)] at first
  exact level_of_take_mark first

/-- The lines of one time tell the messages of their entries apart. -/
theorem message_of_text_eq {e f : Entry} {time : TimeOfDay} (bare : e.data = [])
    (bare' : f.data = []) (same : e.text time = f.text time) : e.message = f.message := by
  have level := level_of_text_eq same
  rw [text, text, bare, bare', level] at same
  simpa using same

/-- The arrows of a wire: text that is received, and text that is sent. -/
def arrows : List String :=
  ["<<<", ">>>"]

/-- The line of a text tells which way it went and what it is. -/
theorem overSerial_of_text_eq {arrow arrow' : String} {text text' : List Char} {time : TimeOfDay}
    (known : arrow ∈ arrows) (known' : arrow' ∈ arrows)
    (same : (overSerial arrow text).text time = (overSerial arrow' text').text time) :
    arrow = arrow' ∧ text = text' := by
  have width : ∀ a ∈ arrows, a.toList.length = 3 := by decide
  have message := congrArg String.toList (message_of_text_eq rfl rfl same)
  simp only [overSerial, String.toList_append, String.toList_ofList, List.append_assoc] at message
  obtain ⟨pointing, inside⟩ :=
    List.append_inj message ((width arrow known).trans (width arrow' known').symm)
  exact ⟨String.toList_inj.1 pointing, quoted_injective (List.append_cancel_left inside)⟩

/-- The line of commands tells what they are. -/
theorem commandEntry_of_text_eq {commands others : List Command} {time : TimeOfDay}
    (same : (commandEntry commands).text time = (commandEntry others).text time) :
    commands = others := by
  have message := congrArg String.toList (message_of_text_eq rfl rfl same)
  rw [commandEntry, commandEntry, String.toList_ofList, String.toList_ofList] at message
  have read := congrArg Command.ofLine message
  rwa [Command.ofLine_wireLine, Command.ofLine_wireLine] at read

end Entry

/-! ## What goes over a link -/

namespace SerialLink

/-- The text that a read has returned, with its arrow. -/
def returned (result : Except Fault (List Char)) : List (String × List Char) :=
  match result with
  | .ok [] | .error _ => []
  | .ok text => [("<<<", text)]

/-- What goes over a link when something is done to it, each text with its arrow: what a read
returns, and what is to be written while the link is connected. -/
def Operation.wired (l : SerialLink) : Operation → List (String × List Char)
  | read => returned l.read.result
  | write text => if l.connected && l.port.isSome then [(">>>", text)] else []
  | _ => []

/-- What goes over a link in the course of operations. -/
def wired (l : SerialLink) : List Operation → List (String × List Char)
  | [] => []
  | op :: later => op.wired l ++ (op.on l).state.wired later

/-- The entries of texts, if they are reported. -/
def entriesOf (logIO : Bool) (texts : List (String × List Char)) : List Entry :=
  if logIO then texts.map fun w => Entry.overSerial w.1 w.2 else []

theorem entriesOf_nil (logIO : Bool) : entriesOf logIO [] = [] := by
  cases logIO <;> rfl

/-- The entries of what went over a serial line. -/
def serial (entries : List Entry) : List Entry :=
  entries.filter fun e => e.level = .serial

variable (l : SerialLink)

theorem serial_disconnect : serial l.disconnect.entries = [] := by
  unfold disconnect
  cases l.port <;> rfl

theorem serial_connect (name : String) (opener : Port.Opener) :
    serial (l.connect name opener).entries = [] := by
  unfold connect
  split
  · split <;> rfl
  · rfl

theorem serial_readFrom (port : Port) :
    serial (l.readFrom port).entries =
      entriesOf l.config.logIO (returned (l.readFrom port).result) := by
  unfold readFrom
  dsimp only [Outcome.done]
  cases (l.decoder.decodeAll (port.read (l.readCount port)).1).2 with
  | nil => cases l.config.logIO <;> rfl
  | cons c rest => cases l.config.logIO <;> rfl

theorem serial_read :
    serial l.read.entries = entriesOf l.config.logIO (returned l.read.result) := by
  by_cases joined : l.connected = true ∧ l.port.isSome = true
  case neg =>
    rw [read_of_apart joined]
    exact (entriesOf_nil _).symm
  obtain ⟨connected, some⟩ := joined
  obtain ⟨port, held⟩ := Option.isSome_iff_exists.1 some
  cases trouble : port.trouble with
  | none =>
    rw [read_of_calm connected held trouble]
    exact l.serial_readFrom port
  | some trouble' =>
    cases trouble' with
    | failing message =>
      rw [read_of_failing connected held trouble]
      exact (entriesOf_nil _).symm
    | closing =>
      rw [read_of_closing connected held trouble]
      change serial (l.disconnect.entries ++ []) = entriesOf l.config.logIO []
      rw [List.append_nil, serial_disconnect, entriesOf_nil]

theorem serial_write (text : List Char) :
    serial (l.write text).entries =
      entriesOf l.config.logIO ((Operation.write text).wired l) := by
  by_cases joined : l.connected = true ∧ l.port.isSome = true
  case neg =>
    have silent : (Operation.write text).wired l = [] := by
      rw [Operation.wired, if_neg (by simpa using joined)]
    rw [write_of_apart joined, silent, entriesOf_nil]
    rfl
  obtain ⟨connected, some⟩ := joined
  obtain ⟨port, held⟩ := Option.isSome_iff_exists.1 some
  -- Text that cannot be encoded is reported like any other.
  have reports : (l.write text).entries =
      if l.config.logIO then [Entry.overSerial ">>>" text] else [] := by
    simp only [write, connected, held]
    cases l.config.encoding.encode text <;> rfl
  have wired : (Operation.write text).wired l = [(">>>", text)] := by
    simp [Operation.wired, connected, some]
  rw [reports, wired, entriesOf]
  cases l.config.logIO <;> rfl

/-- **One operation** reports all that goes over the link by it, and nothing else as that. -/
theorem serial_on (op : Operation) :
    serial (op.on l).entries = entriesOf l.config.logIO (op.wired l) := by
  cases op with
  | connect name opener => exact (l.serial_connect name opener).trans (entriesOf_nil _).symm
  | disconnect => exact l.serial_disconnect.trans (entriesOf_nil _).symm
  | read => exact l.serial_read
  | write text => exact l.serial_write text
  | writeRaw bytes =>
    refine Eq.trans ?_ (entriesOf_nil _).symm
    change serial (l.writeRaw bytes).entries = []
    unfold writeRaw
    split <;> rfl
  | disturb trouble => exact (entriesOf_nil _).symm

theorem entriesOf_append (logIO : Bool) (texts more : List (String × List Char)) :
    entriesOf logIO (texts ++ more) = entriesOf logIO texts ++ entriesOf logIO more := by
  cases logIO with
  | false => rfl
  | true => exact List.map_append

/-- **A link reports what goes over it**, text by text and in order. -/
theorem serial_reported (ops : List Operation) :
    serial (l.reported ops) = entriesOf l.config.logIO (l.wired ops) := by
  induction ops generalizing l with
  | nil => exact (entriesOf_nil _).symm
  | cons op later ih =>
    have rest := ih (op.on l).state
    rw [config_on] at rest
    rw [wired, entriesOf_append, ← rest, ← serial_on, reported]
    exact List.filter_append ..

theorem arrow_of_mem_wired {ops : List Operation} {w : String × List Char}
    (mem : w ∈ l.wired ops) : w.1 ∈ Entry.arrows := by
  induction ops generalizing l with
  | nil => cases mem
  | cons op later ih =>
    rcases List.mem_append.1 mem with now | afterwards
    · unfold Operation.wired returned at now
      split at now
      · split at now
        · cases now
        · cases now
        · rw [List.mem_singleton.1 now]
          exact List.mem_cons_self
      · split_ifs at now
        · rw [List.mem_singleton.1 now]
          exact List.mem_cons_of_mem _ List.mem_cons_self
        · cases now
      · cases now
    · exact ih _ afterwards

end SerialLink

/-! ## What a receiver reports -/

/-- An operation that reports what it was to report, up to a fault if there is one. -/
structure Outcome.Reports {σ α : Type} (o : Outcome σ α) (told : List Entry) : Prop where
  started : o.entries <+: told
  finished : ∀ value, o.result = .ok value → o.entries = told

theorem Outcome.Reports.andThen {σ α β : Type} {o : Outcome σ α} {next : σ → α → Outcome σ β}
    {told : List Entry} (second : ∀ value, (next o.state value).Reports told) :
    (o.andThen next).Reports (o.entries ++ told) := by
  unfold Outcome.andThen
  split
  · exact ⟨List.prefix_append _ _, fun _ ok => by cases ok⟩
  · next value _ =>
    obtain ⟨started, finished⟩ := second value
    exact ⟨(List.prefix_append_right_inj _).2 started,
      fun last ok => congrArg (o.entries ++ ·) (finished last ok)⟩

namespace Receiver

variable {r : Receiver}

theorem entries_applyCommand (now : Binary64) (c : Command) (axes : PerChannel Axis) :
    (applyCommand now c axes).entries = [] := by
  change ((axes.get c.channel).moveTo (.whole c.target) c.kind c.param now).entries = []
  unfold Axis.moveTo
  split
  · rfl
  · split <;> rfl

theorem entries_applyCommands (now : Binary64) (commands : List Command)
    (axes : PerChannel Axis) : (applyCommands now commands axes).entries = [] := by
  induction commands generalizing axes with
  | nil => rfl
  | cons c rest ih =>
    rw [applyCommands, Outcome.andThen]
    split
    · exact entries_applyCommand now c axes
    · dsimp only
      rw [entries_applyCommand, ih, List.append_nil]

/-- Only the commands of a line are reported, whatever becomes of them. -/
theorem entries_execute (r : Receiver) (line : List Char) (now : Binary64) :
    (r.execute line now).entries = commandEntries r.logCommands (Command.ofLine line) := by
  change commandEntries _ _ ++ (applyCommands now _ r.axes).entries = _
  rw [entries_applyCommands, List.append_nil]

theorem reports_feedAll (unended : r.Unended) (cs : List (Char × Binary64)) :
    (feedAll cs r).Reports (r.reports cs) := by
  -- The receiver varies, and with it the line that is pending.
  induction cs generalizing r with
  | nil =>
    rw [reports_nil]
    exact ⟨List.prefix_rfl, fun _ _ => rfl⟩
  | cons c rest ih =>
    obtain ⟨c, now⟩ := c
    by_cases hc : c = '\n'
    · subst hc
      rw [feedAll, reports_lineFeed unended, feed, if_pos rfl,
        ← entries_execute { r with pending := [] } (r.pending ++ ['\n']) now]
      exact Outcome.Reports.andThen fun _ => ih List.not_mem_nil
    · have step : r.feed (c, now) = .done { r with pending := r.pending ++ [c] } () :=
        if_neg hc
      have longer := unended_feed (c, now) unended
      rw [step] at longer
      rw [feedAll, step, Outcome.done_andThen, reports_other hc]
      exact ih longer

/-- **A receiver reports the lines of its stream**, in order and up to the fault that ends it. -/
theorem reports_writeAll (unended : r.Unended) (pieces : List Piece) :
    (r.writeAll pieces).Reports (r.reports (stamped pieces)) := by
  rw [writeAll_eq_feedAll pieces unended]
  exact reports_feedAll unended (stamped pieces)

/-- The commands of each line of a stream that has any. -/
def commandLines (r : Receiver) (cs : List (Char × Binary64)) : List (List Command) :=
  ((timedLines r.pending cs).map fun line => Command.ofLine line.1).filter fun commands =>
    commands ≠ []

theorem reports_of_logged (logged : r.logCommands = true) (cs : List (Char × Binary64)) :
    r.reports cs = (r.commandLines cs).map commandEntry := by
  rw [reports, commandLines, logged]
  induction timedLines r.pending cs with
  | nil => rfl
  | cons line rest ih =>
    rw [List.flatMap_cons, ih, List.map_cons]
    by_cases none : Command.ofLine line.1 = []
    · simp [commandEntries, none]
    · simp [commandEntries, none]

end Receiver

/-! ## Wires and their journal -/

theorem Entry.onOneLine_of_arrow {arrow : String} (known : arrow ∈ Entry.arrows)
    (text : List Char) : (Entry.overSerial arrow text).OnOneLine := by
  have plain : ∀ a ∈ Entry.arrows, a.toList.all Entry.isPlain = true := by decide
  exact Entry.onOneLine_overSerial (Entry.isPrintable_of_all_plain (plain arrow known)) text

/-- **What comes over a wire keeps to its line of the journal.** Whatever texts go over a link and
whatever stream a receiver is written, with all its quotes, controls and separators:

* the entry of a text and the entry of commands are on one line, all of it printable;
* no other entry is mistaken for them: at any one time, their lines tell the level, which way a
  text went and what it was, and what the commands were;
* a link that reports what goes over it, in any course of operations, has one line for each text,
  in order, and no other line at that level;
* a receiver, whatever becomes of its axes, has one line for each line of its stream on which there
  is a command, in order and up to the fault that ends it, and no other line. -/
theorem wire_data_keeps_to_line :
    ((∀ arrow ∈ Entry.arrows, ∀ text, (Entry.overSerial arrow text).OnOneLine) ∧
      ∀ commands, (commandEntry commands).OnOneLine) ∧
    (∀ time : TimeOfDay,
      (∀ e f : Entry, e.text time = f.text time → e.level = f.level) ∧
      (∀ arrow ∈ Entry.arrows, ∀ arrow' ∈ Entry.arrows, ∀ text text',
        (Entry.overSerial arrow text).text time = (Entry.overSerial arrow' text').text time →
        arrow = arrow' ∧ text = text') ∧
      ∀ commands others, (commandEntry commands).text time = (commandEntry others).text time →
        commands = others) ∧
    (∀ (l : SerialLink) (ops : List SerialLink.Operation) (time : TimeOfDay),
      l.config.logIO = true →
      (SerialLink.serial (l.reported ops)).flatMap (fun e => e.lines time) =
        (l.wired ops).map fun w => (Entry.overSerial w.1 w.2).text time) ∧
    ∀ (r : Receiver) (pieces : List Piece) (time : TimeOfDay),
      r.Unended → r.logCommands = true →
      let shown := (r.writeAll pieces).entries.flatMap fun e => e.lines time
      let told := (r.commandLines (stamped pieces)).map fun c => (commandEntry c).text time
      shown <+: told ∧ ((r.writeAll pieces).result = .ok () → shown = told) := by
  refine ⟨⟨fun _ => Entry.onOneLine_of_arrow, Entry.onOneLine_commandEntry⟩,
    fun time => ⟨fun _ _ => Entry.level_of_text_eq,
      fun _ known _ known' _ _ => Entry.overSerial_of_text_eq known known',
      fun _ _ => Entry.commandEntry_of_text_eq⟩,
    fun l ops time reported => ?_, fun r pieces time unended logged => ?_⟩
  · have own : SerialLink.serial (l.reported ops) =
        (l.wired ops).map fun w => Entry.overSerial w.1 w.2 := by
      rw [l.serial_reported ops, SerialLink.entriesOf, if_pos reported]
    have single : ∀ e ∈ SerialLink.serial (l.reported ops), e.OnOneLine := by
      intro e mem
      rw [own] at mem
      obtain ⟨w, among, rfl⟩ := List.mem_map.1 mem
      exact Entry.onOneLine_of_arrow (l.arrow_of_mem_wired among) w.2
    rw [Entry.flatMap_lines single, own, List.map_map]
    rfl
  · obtain ⟨started, finished⟩ := Receiver.reports_writeAll unended pieces
    rw [Receiver.reports_of_logged logged] at started finished
    have single : ∀ e ∈ (r.writeAll pieces).entries, e.OnOneLine := by
      intro e mem
      obtain ⟨commands, -, rfl⟩ := List.mem_map.1 (started.subset mem)
      exact Entry.onOneLine_commandEntry commands
    intro shown told
    have shown_eq : shown = (r.writeAll pieces).entries.map fun e => e.text time :=
      Entry.flatMap_lines single time
    have told_eq : told =
        ((r.commandLines (stamped pieces)).map commandEntry).map fun e => e.text time := by
      rw [List.map_map]
      rfl
    rw [shown_eq, told_eq]
    exact ⟨started.map _, fun ok => by rw [finished () ok]⟩

/-- A text with both quotes, a backslash, line ends and an escape sequence goes over a loop and is
read again; a receiver is written a stream whose tokens are cut by other line ends than its own. -/
theorem wire_data_keeps_to_line_hostile :
    (SerialLink.serial
        ((SerialLink.fresh { logIO := true }).reported
          [.connect "loop://" Port.ofName,
            .write ['\r', '\n', '\'', '"', '\\', '\u2028', '\x1b'], .read])).flatMap
        (fun e => e.lines {}) =
      ["[00:00:00.000] ⬡  SERIAL   | >>> '\\r\\n\\'\"\\\\\\u2028\\x1b'",
        "[00:00:00.000] ⬡  SERIAL   | <<< '\\r\\n\\'\"\\\\\\u2028\\x1b'"] ∧
    '\n' ∉ (Receiver.fresh defaultPeriod true).pending ∧
    ((Receiver.fresh defaultPeriod true).writeAll
        [⟨.text ['L', '0', '5', '\u2028', 'R', '\x1b', ' ', 'R', '1', '9', '\r', 'x', '\n'],
          0⟩]).entries.flatMap (fun e => e.lines {}) =
      ["[00:00:00.000] →  CMD      | L05000 R19000"] := by
  obtain ⟨-, -, link, receiver⟩ := wire_data_keeps_to_line
  have unended : (Receiver.fresh defaultPeriod true).Unended := List.not_mem_nil
  refine ⟨(link _ _ {} rfl).trans (by decide +kernel), unended, ?_⟩
  exact ((receiver _ _ {} unended rfl).2 (by decide +kernel)).trans (by decide +kernel)

end MotionEmulator
