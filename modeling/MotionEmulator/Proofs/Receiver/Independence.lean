import MotionEmulator.Proofs.Receiver.Stream

/-!
# Independent channels

The axis of a channel obeys the commands that name the channel and notices nothing else. Its
`ordersTo` are those of a whole stream, in order, each at the time of its line.

* `get_performed` is the step: a line gives an axis the orders of its commands for that channel;
  `Receiver.get_performedAll` is the run;
* `Token.Unnoticed` are the changes of a line that a channel does not notice: tokens that do not
  name it come, go and change, and the tokens of a line change places as long as those of one
  channel keep their order;
* `Receiver.axis_obeys_own_orders` is the main statement, for all streams to a fresh receiver.
-/

namespace MotionEmulator

/-! ## Orders for one channel -/

/-- What a command asks of its axis at a time. -/
def Command.order (c : Command) (now : Binary64) : Axis.Order :=
  ⟨.whole c.target, c.kind, c.param, now⟩

/-- The orders of a line's commands for a channel, at the line's time. -/
def lineOrders (channel : Channel) (line : List Char × Binary64) : List Axis.Order :=
  ((Command.ofLine line.1).filter (·.channel = channel)).map (·.order line.2)

/-- The orders of a stream for a channel. -/
def ordersTo (channel : Channel) (pieces : List Piece) : List Axis.Order :=
  (Receiver.timedLines [] (stamped pieces)).flatMap (lineOrders channel)

variable {channel : Channel}

/-- A command reaches the axis of its channel and no other. -/
theorem get_commanded (channel : Channel) (now : Binary64) (axes : PerChannel Axis)
    (c : Command) :
    (commanded now axes c).get channel =
      if c.channel = channel then ((axes.get channel).obey (c.order now)).state
      else axes.get channel := by
  unfold commanded
  split
  · next named =>
    subst named
    exact PerChannel.get_set_same _ _ _
  · next other => exact PerChannel.get_set_of_ne _ _ (Ne.symm other)

theorem get_foldl_commanded (channel : Channel) (now : Binary64) (commands : List Command)
    (axes : PerChannel Axis) :
    (commands.foldl (commanded now) axes).get channel =
      (axes.get channel).obeyAll
        ((commands.filter (·.channel = channel)).map (·.order now)) := by
  induction commands generalizing axes with
  | nil => rfl
  | cons c rest ih =>
    rw [List.foldl_cons, ih, get_commanded]
    by_cases named : c.channel = channel
    · rw [if_pos named, List.filter_cons_of_pos (by simpa using named)]
      rfl
    · rw [if_neg named, List.filter_cons_of_neg (by simpa using named)]

/-- **A line gives an axis its own orders.** -/
theorem get_performed (channel : Channel) (axes : PerChannel Axis)
    (line : List Char × Binary64) :
    (performed axes line).get channel = (axes.get channel).obeyAll (lineOrders channel line) :=
  get_foldl_commanded channel line.2 _ axes

theorem get_foldl_performed (channel : Channel) (lines : List (List Char × Binary64))
    (axes : PerChannel Axis) :
    (lines.foldl performed axes).get channel =
      (axes.get channel).obeyAll (lines.flatMap (lineOrders channel)) := by
  induction lines generalizing axes with
  | nil => rfl
  | cons line rest ih =>
    rw [List.foldl_cons, ih, get_performed, List.flatMap_cons, Axis.obeyAll_append]

/-! ## Tokens that name a channel -/

namespace Token

/-- Whether a token is a command for a channel. -/
def names (channel : Channel) (token : List Char) : Bool :=
  (Command.ofToken? token).any (·.channel = channel)

/-- The commands for a channel come from the tokens that name it. -/
theorem filter_filterMap_ofToken? (channel : Channel) (tokens : List (List Char)) :
    (tokens.filterMap Command.ofToken?).filter (·.channel = channel) =
      (tokens.filter (names channel)).filterMap Command.ofToken? := by
  induction tokens with
  | nil => rfl
  | cons token rest ih =>
    cases read : Command.ofToken? token with
    | none =>
      have silent : ¬ names channel token = true := by simp [names, read]
      rw [List.filterMap_cons_none read, List.filter_cons_of_neg silent, ih]
    | some c =>
      have named : names channel token = decide (c.channel = channel) := by simp [names, read]
      rw [List.filterMap_cons_some read]
      by_cases own : c.channel = channel
      · rw [List.filter_cons_of_pos (by simpa using own), ih,
          List.filter_cons_of_pos (by simpa [named] using own), List.filterMap_cons_some read]
      · rw [List.filter_cons_of_neg (by simpa using own), ih,
          List.filter_cons_of_neg (by simpa [named] using own)]

/-- Changes of a line's tokens that a channel does not notice. -/
inductive Unnoticed (channel : Channel) : List (List Char) → List (List Char) → Prop
  /-- Tokens that do not name the channel come, go or change. -/
  | noise {before noise noise' after : List (List Char)}
      (silent : ∀ t ∈ noise, names channel t = false)
      (silent' : ∀ t ∈ noise', names channel t = false) :
      Unnoticed channel (before ++ noise ++ after) (before ++ noise' ++ after)
  /-- Tokens change places, but those of one channel keep their order. -/
  | reorder {tokens tokens' : List (List Char)} (perm : tokens.Perm tokens')
      (order : ∀ d, tokens.filter (names d) = tokens'.filter (names d)) :
      Unnoticed channel tokens tokens'
  | trans {tokens tokens' tokens'' : List (List Char)}
      (first : Unnoticed channel tokens tokens') (second : Unnoticed channel tokens' tokens'') :
      Unnoticed channel tokens tokens''

theorem Unnoticed.filter_eq {tokens tokens' : List (List Char)}
    (unnoticed : Unnoticed channel tokens tokens') :
    tokens.filter (names channel) = tokens'.filter (names channel) := by
  induction unnoticed with
  | noise silent silent' =>
    have none {noise : List (List Char)} (silent : ∀ t ∈ noise, names channel t = false) :
        noise.filter (names channel) = [] :=
      List.filter_eq_nil_iff.2 fun t mem => by simp [silent t mem]
    simp only [List.filter_append, none silent, none silent']
  | reorder _ order => exact order channel
  | trans _ _ first second => exact first.trans second

end Token

/-- Two lines of one time that differ in what a channel does not notice. -/
def SameFor (channel : Channel) (line line' : List Char × Binary64) : Prop :=
  line.2 = line'.2 ∧ Token.Unnoticed channel (Text.words line.1) (Text.words line'.1)

theorem lineOrders_eq (channel : Channel) (line : List Char × Binary64) :
    lineOrders channel line =
      (((Text.words line.1).filter (Token.names channel)).filterMap Command.ofToken?).map
        (·.order line.2) := by
  rw [lineOrders, Command.ofLine, Token.filter_filterMap_ofToken?]

theorem SameFor.lineOrders_eq {line line' : List Char × Binary64}
    (same : SameFor channel line line') :
    lineOrders channel line = lineOrders channel line' := by
  obtain ⟨now, tokens⟩ := same
  rw [MotionEmulator.lineOrders_eq, MotionEmulator.lineOrders_eq, tokens.filter_eq, now]

theorem flatMap_lineOrders_congr {lines lines' : List (List Char × Binary64)}
    (same : List.Forall₂ (SameFor channel) lines lines') :
    lines.flatMap (lineOrders channel) = lines'.flatMap (lineOrders channel) := by
  induction same with
  | nil => rfl
  | cons line _ ih => rw [List.flatMap_cons, List.flatMap_cons, line.lineOrders_eq, ih]

namespace Receiver

theorem get_performedAll (channel : Channel) (period : Binary64) (logged : Bool)
    (pieces : List Piece) :
    ((fresh period logged).performedAll (stamped pieces)).axes.get channel =
      (Axis.fresh period).obeyAll (ordersTo channel pieces) := by
  change ((timedLines [] (stamped pieces)).foldl performed (fresh period logged).axes).get channel
    = _
  rw [get_foldl_performed, fresh, PerChannel.get_ofFn]
  rfl

/-- Commands for other channels leave an axis alone, even where one of them is refused. -/
theorem get_applyCommands (now : Binary64) {commands : List Command}
    (others : ∀ c ∈ commands, c.channel ≠ channel) (axes : PerChannel Axis) :
    (applyCommands now commands axes).state.get channel = axes.get channel := by
  induction commands generalizing axes with
  | nil => rfl
  | cons c rest ih =>
    obtain ⟨other, others⟩ := List.forall_mem_cons.1 others
    have own : (applyCommand now c axes).state.get channel = axes.get channel :=
      PerChannel.get_set_of_ne _ _ (Ne.symm other)
    have kept : ∀ s : PerChannel Axis, s.get channel = axes.get channel →
        (applyCommands now rest s).state.get channel = axes.get channel :=
      fun s same => (ih others s).trans same
    rw [applyCommands]
    exact Outcome.andThen_keeps own fun s _ => kept s

theorem get_execute (r : Receiver) {line : List Char} (now : Binary64)
    (silent : ∀ t ∈ Text.words line, Token.names channel t = false) :
    (r.execute line now).state.axes.get channel = r.axes.get channel := by
  have others : ∀ c ∈ Command.ofLine line, c.channel ≠ channel := by
    intro c mem
    obtain ⟨token, mem, read⟩ := List.mem_filterMap.1 mem
    simpa [Token.names, read] using silent token mem
  exact get_applyCommands now others r.axes

/-- **An axis obeys the orders for its own channel and nothing else.** Whatever is written to a
fresh receiver, the axis of a channel is left as a fresh axis that was given the commands for that
channel only, in order and at the times of their lines. So it is the same after every stream with
lines at the same times whose tokens differ in what the channel does not notice, and a line
without a command for the channel leaves its axis as it was. -/
theorem axis_obeys_own_orders {period : Binary64} (finite : period.IsFinite) (pos : 0 < period)
    (logged : Bool) (channel : Channel) (pieces : List Piece) :
    ((fresh period logged).writeAll pieces).result = .ok () ∧
      ((fresh period logged).writeAll pieces).state.axes.get channel =
        (Axis.fresh period).obeyAll (ordersTo channel pieces) ∧
      (∀ others, List.Forall₂ (SameFor channel) (timedLines [] (stamped pieces))
          (timedLines [] (stamped others)) →
        ((fresh period logged).writeAll others).state.axes.get channel =
          ((fresh period logged).writeAll pieces).state.axes.get channel) ∧
      ∀ (r : Receiver) (line : List Char) (now : Binary64),
        (∀ t ∈ Text.words line, Token.names channel t = false) →
          (r.execute line now).state.axes.get channel = r.axes.get channel := by
  have sound := sound_fresh finite pos logged
  have obeys (pieces : List Piece) :
      ((fresh period logged).writeAll pieces).state.axes.get channel =
        (Axis.fresh period).obeyAll (ordersTo channel pieces) := by
    rw [(sound.writeAll pieces).1]
    exact get_performedAll channel period logged pieces
  refine ⟨?_, obeys pieces, ?_, ?_⟩
  · rw [(sound.writeAll pieces).1]
    rfl
  · intro others same
    rw [obeys, obeys, ordersTo, ordersTo, flatMap_lineOrders_congr same]
  · intro r line now silent
    exact r.get_execute now silent

/-- The stroke does not notice that a malformed token is gone and that a command for the twist has
moved behind one of its own. -/
theorem axis_obeys_own_orders_reordered :
    let mixed : List Piece := [⟨.text "L05I7 R15 L0x L02\n".toList, 4⟩]
    let sorted : List Piece := [⟨.text "L05I7 L0".toList, 1⟩, ⟨.text "2 R15\n".toList, 4⟩]
    defaultPeriod.IsFinite ∧ 0 < defaultPeriod ∧
      List.Forall₂ (SameFor .stroke) (timedLines [] (stamped mixed))
        (timedLines [] (stamped sorted)) ∧
      ((fresh defaultPeriod true).writeAll sorted).state.axes.get .stroke =
        ((fresh defaultPeriod true).writeAll mixed).state.axes.get .stroke ∧
      (((fresh defaultPeriod true).writeAll mixed).state.execute "L0x R15".toList 9).state.axes.get
          .stroke = ((fresh defaultPeriod true).writeAll mixed).state.axes.get .stroke := by
  intro mixed sorted
  have quieter : Token.Unnoticed .stroke
      ["L05I7".toList, "R15".toList, "L0x".toList, "L02".toList]
      ["L05I7".toList, "R15".toList, "L02".toList] :=
    @Token.Unnoticed.noise .stroke ["L05I7".toList, "R15".toList] ["L0x".toList] []
      ["L02".toList] (by decide) (by decide)
  have moved : Token.Unnoticed .stroke ["L05I7".toList, "R15".toList, "L02".toList]
      ["L05I7".toList, "L02".toList, "R15".toList] :=
    .reorder (.cons _ (.swap _ _ _)) fun d => by cases d <;> rfl
  have same : List.Forall₂ (SameFor .stroke) (timedLines [] (stamped mixed))
      (timedLines [] (stamped sorted)) :=
    .cons ⟨rfl, quieter.trans moved⟩ .nil
  obtain ⟨-, -, unnoticed, silent⟩ := axis_obeys_own_orders Axis.defaultPeriod_isFinite
    Axis.defaultPeriod_pos true .stroke mixed
  exact ⟨Axis.defaultPeriod_isFinite, Axis.defaultPeriod_pos, same, unnoticed sorted same,
    silent _ "L0x R15".toList 9 (by decide)⟩

end Receiver

end MotionEmulator
