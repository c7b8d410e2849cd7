import Mathlib.Data.List.Basic
import MotionEmulator.Link.Serial

/-!
# Operations on a serial link

`SerialLink.Operation` is all that is done to a serial link, in any order, what befalls its port
included; `operate` does some of them in turn. `Takes` says once what an operation can do to the
connection and to the port that is held, and how many ports it opens and closes by its own report.
`leaves_on` is the proof that it does nothing else, so that what is said of whole runs needs a case
for each of these possibilities and never the operations themselves.

An operation `Settles` when it gets hold of a port or lets go of it. It `Parts` the connection from
the port when it ends the one and keeps the other, as an attempt to connect that is refused and a
read that fails do. It `drops` the port that is held when it puts another one in its place. Nothing
is assumed of the openers: each attempt to connect has its own.
-/

namespace MotionEmulator

/-- Whether the message of an entry begins with a word. -/
def Entry.beginsWith (word : String) (e : Entry) : Bool :=
  word.toList.isPrefixOf e.message.toList

namespace SerialLink

/-- What a link reports of a port that its opener does not open: a refusal is a failure of its
own. -/
def failure (name : String) (cause : Fault) : Fault :=
  if cause.isRefusal then .openFailed name cause.message else cause

/-- An outcome without text. -/
def textless (o : Outcome SerialLink Unit) : Outcome SerialLink (List Char) :=
  ⟨o.result.map fun _ => [], o.state, o.entries⟩

/-- What is done to a link from outside, or befalls its port. -/
inductive Operation where
  /-- An attempt to connect, with an opener of its own. -/
  | connect (name : String) (opener : Port.Opener)
  | disconnect
  | read
  | write (text : List Char)
  | writeRaw (bytes : List UInt8)
  /-- Something will befall the reads of the port that is held. -/
  | disturb (trouble : Trouble)

/-- An operation on a link. Only a read returns text. -/
def Operation.on (l : SerialLink) : Operation → Outcome SerialLink (List Char)
  | connect name opener => textless (l.connect name opener)
  | disconnect => textless l.disconnect
  | read => l.read
  | write text => textless (l.write text)
  | writeRaw bytes => textless (l.writeRaw bytes)
  | disturb trouble => .done (l.disturb trouble) []

/-- The link after operations. A fault does not keep the next one from being done. -/
def operate (l : SerialLink) (ops : List Operation) : SerialLink :=
  ops.foldl (fun l op => (op.on l).state) l

/-- What is reported of operations. -/
def reported (l : SerialLink) : List Operation → List Entry
  | [] => []
  | op :: later => (op.on l).entries ++ (op.on l).state.reported later

/-! ## One operation -/

/-- An operation by which a link gets hold of a port or lets go of it. -/
def Operation.Settles (l : SerialLink) : Operation → Prop
  | connect name opener => ∃ port, opener name l.config.baudRate = .ok port
  | disconnect => True
  | _ => False

/-- An operation by which a link loses its connection but not its port. -/
def Operation.Parts (l : SerialLink) : Operation → Prop
  | connect name opener =>
    l.port.isSome = true ∧
      ∃ cause, opener name l.config.baudRate = .error cause ∧ cause.isRefusal = true
  | read =>
    l.connected = true ∧
      ∃ port message, l.port = some port ∧ port.trouble = some (.failing message)
  | _ => False

/-- Whether an operation puts a new port in the place of one that is held. -/
def Operation.drops (l : SerialLink) : Operation → Bool
  | connect name opener => l.port.isSome && (opener name l.config.baudRate).isOk
  | _ => false

/-- The number of ports that entries say were opened. -/
def opened (entries : List Entry) : Nat :=
  entries.countP (Entry.beginsWith "Opened ")

/-- The number of ports that entries say were closed. -/
def closed (entries : List Entry) : Nat :=
  entries.countP (Entry.beginsWith "Closed ")

/-- What an operation can do: whether the link is connected after it, whether it holds a port, and
how many ports it opens and closes. -/
inductive Takes (l : SerialLink) : Operation → Bool → Bool → Nat → Nat → Prop
  /-- A port is opened and takes the place of any other. -/
  | opens {name : String} {opener : Port.Opener} {port : Port}
      (found : opener name l.config.baudRate = .ok port) :
      Takes l (.connect name opener) true true 1 0
  | refused {name : String} {opener : Port.Opener} {cause : Fault}
      (found : opener name l.config.baudRate = .error cause)
      (refusal : cause.isRefusal = true) :
      Takes l (.connect name opener) false l.port.isSome 0 0
  | fails {port : Port} {message : String} (connected : l.connected = true)
      (held : l.port = some port) (trouble : port.trouble = some (.failing message)) :
      Takes l .read false true 0 0
  | closes : Takes l .disconnect false false 0 l.port.isSome.toNat
  /-- The link is disconnected while it reads. -/
  | interrupted {port : Port} (connected : l.connected = true) (held : l.port = some port)
      (trouble : port.trouble = some .closing) : Takes l .read false false 0 1
  /-- All else leaves the connection and the port. -/
  | passes {o : Operation} (unsettled : ¬ o.Settles l) (calm : ¬ o.Parts l)
      (whole : o.drops l = false) : Takes l o l.connected l.port.isSome 0 0

/-- An outcome that an operation can have. -/
def Operation.Leaves {α : Type} (op : Operation) (l : SerialLink) (o : Outcome SerialLink α) :
    Prop :=
  Takes l op o.state.connected o.state.port.isSome (opened o.entries) (closed o.entries)

section

variable {l : SerialLink} {name : String} {opener : Port.Opener} {port : Port} {cause : Fault}

theorem connect_of_found (found : opener name l.config.baudRate = .ok port) :
    l.connect name opener =
      .done { l with
        port := some port
        connected := true
        portName := some name
        decoder := ⟨l.config.encoding, .start⟩ } ()
        [⟨.ok, "Opened " ++ name, [("baud", .int l.config.baudRate)]⟩] := by
  rw [connect, found]

theorem connect_of_error (found : opener name l.config.baudRate = .error cause) :
    l.connect name opener =
      .fault { l with connected := l.connected && !cause.isRefusal } (failure name cause) := by
  rw [connect, found]
  dsimp only
  cases refusal : cause.isRefusal <;> simp [failure, refusal]

theorem read_of_calm (connected : l.connected = true) (held : l.port = some port)
    (calm : port.trouble = none) : l.read = l.readFrom port := by
  simp only [read, connected, held, calm]

theorem read_of_failing {message : String} (connected : l.connected = true)
    (held : l.port = some port) (trouble : port.trouble = some (.failing message)) :
    l.read =
      .fault { l with connected := false } (.readFailed (l.portName.getD "") message) := by
  simp only [read, connected, held, trouble]

theorem read_of_closing (connected : l.connected = true) (held : l.port = some port)
    (trouble : port.trouble = some .closing) :
    l.read = l.disconnect.andThen fun l _ => .done l [] := by
  simp only [read, connected, held, trouble]

theorem read_of_apart (apart : ¬ (l.connected = true ∧ l.port.isSome = true)) :
    l.read = .fault l .notConnected := by
  unfold read
  split
  · next connected held => simp [connected, held] at apart
  · rfl

theorem write_of_joined {text : List Char} {bytes : List UInt8} (connected : l.connected = true)
    (held : l.port = some port) (encoded : l.config.encoding.encode text = .ok bytes) :
    l.write text =
      .done { l with port := some (port.write bytes) } ()
        (if l.config.logIO then [Entry.overSerial ">>>" text] else []) := by
  simp only [write, connected, held, encoded]

theorem write_of_apart {text : List Char}
    (apart : ¬ (l.connected = true ∧ l.port.isSome = true)) :
    l.write text = .fault l .notConnected := by
  unfold write
  split
  · next connected held => simp [connected, held] at apart
  · rfl

theorem writeRaw_of_port {bytes : List UInt8} (held : l.port = some port) :
    l.writeRaw bytes = .done { l with port := some (port.write bytes) } () := by
  rw [writeRaw, held]

theorem writeRaw_of_none {bytes : List UInt8} (none : l.port = none) :
    l.writeRaw bytes = .fault l .notConnected := by
  rw [writeRaw, none]

end

theorem leaves_connect (l : SerialLink) (name : String) (opener : Port.Opener) :
    (Operation.connect name opener).Leaves l (l.connect name opener) := by
  unfold Operation.Leaves
  cases found : opener name l.config.baudRate with
  | ok port =>
    rw [connect_of_found found]
    simpa [Outcome.done, opened, closed, Entry.beginsWith] using Takes.opens found
  | error cause =>
    rw [connect_of_error found]
    cases refusal : cause.isRefusal with
    | true => simpa [Outcome.fault, opened, closed] using Takes.refused found refusal
    | false =>
      have unsettled : ¬ (Operation.connect name opener).Settles l := by
        simp [Operation.Settles, found]
      have calm : ¬ (Operation.connect name opener).Parts l := by
        simp [Operation.Parts, found, refusal]
      have whole : (Operation.connect name opener).drops l = false := by
        simp [Operation.drops, found, Except.isOk, Except.toBool]
      simpa [Outcome.fault, opened, closed] using Takes.passes unsettled calm whole

theorem leaves_disconnect (l : SerialLink) : Operation.disconnect.Leaves l l.disconnect := by
  have takes := Takes.closes (l := l)
  unfold Operation.Leaves disconnect
  cases held : l.port with
  | none => simpa [Outcome.done, opened, closed, held] using takes
  | some port => simpa [Outcome.done, opened, closed, held, Entry.beginsWith] using takes

theorem leaves_read (l : SerialLink) : Operation.read.Leaves l l.read := by
  unfold Operation.Leaves
  by_cases joined : l.connected = true ∧ l.port.isSome = true
  case neg =>
    have calm : ¬ Operation.read.Parts l := by
      rintro ⟨connected, port, -, held, -⟩
      exact joined ⟨connected, by simp [held]⟩
    rw [read_of_apart joined]
    simpa [Outcome.fault, opened, closed] using Takes.passes (o := .read) id calm rfl
  case pos =>
    obtain ⟨connected, some⟩ := joined
    obtain ⟨port, held⟩ := Option.isSome_iff_exists.1 some
    cases trouble : port.trouble with
    | none =>
      have calm : ¬ Operation.read.Parts l := by
        rintro ⟨-, port', message, held', trouble'⟩
        cases held.symm.trans held'
        cases trouble.symm.trans trouble'
      have passes := Takes.passes (o := .read) id calm rfl
      rw [read_of_calm connected held trouble, readFrom]
      dsimp only [Outcome.done]
      split <;> simpa [opened, closed, held, Entry.beginsWith, Entry.overSerial] using passes
    | some trouble' =>
      cases trouble' with
      | failing message =>
        rw [read_of_failing connected held trouble]
        simpa [Outcome.fault, opened, closed, held] using Takes.fails connected held trouble
      | closing =>
        rw [read_of_closing connected held trouble, disconnect]
        simpa [Outcome.done, Outcome.andThen, opened, closed, held, Entry.beginsWith] using
          Takes.interrupted connected held trouble

theorem leaves_write (l : SerialLink) (text : List Char) :
    (Operation.write text).Leaves l (l.write text) := by
  have passes := Takes.passes (l := l) (o := .write text) id id rfl
  have quiet (b : Bool) : opened (if b then [Entry.overSerial ">>>" text] else []) = 0 ∧
      closed (if b then [Entry.overSerial ">>>" text] else []) = 0 := by
    cases b <;> simp [opened, closed, Entry.beginsWith, Entry.overSerial]
  unfold Operation.Leaves write
  split
  · next port connected held =>
    dsimp only
    split <;> simpa [Outcome.done, Outcome.fault, quiet, connected, held] using passes
  · simpa [Outcome.fault, opened, closed] using passes

theorem leaves_writeRaw (l : SerialLink) (bytes : List UInt8) :
    (Operation.writeRaw bytes).Leaves l (l.writeRaw bytes) := by
  have passes := Takes.passes (l := l) (o := .writeRaw bytes) id id rfl
  unfold Operation.Leaves writeRaw
  split
  · next port held => simpa [Outcome.done, opened, closed, held] using passes
  · simpa [Outcome.fault, opened, closed] using passes

/-- **An operation does no more to the connection and to the port than `Takes` says.** -/
theorem leaves_on (l : SerialLink) (op : Operation) : op.Leaves l (op.on l) := by
  cases op with
  | connect name opener => exact leaves_connect l name opener
  | disconnect => exact leaves_disconnect l
  | read => exact leaves_read l
  | write text => exact leaves_write l text
  | writeRaw bytes => exact leaves_writeRaw l bytes
  | disturb trouble =>
    have passes := Takes.passes (l := l) (o := .disturb trouble) id id rfl
    simpa [Operation.Leaves, Operation.on, Outcome.done, disturb, opened, closed] using passes

/-! ## What no operation does -/

theorem config_read (l : SerialLink) : l.read.state.config = l.config := by
  unfold read
  split
  · next port _ _ => split <;> rfl
  · rfl

/-- No operation changes how the link is set up. -/
theorem config_on (l : SerialLink) (op : Operation) : (op.on l).state.config = l.config := by
  cases op with
  | connect name opener =>
    change (l.connect name opener).state.config = l.config
    unfold connect
    split
    · split <;> rfl
    · rfl
  | disconnect => rfl
  | read => exact l.config_read
  | write text =>
    change (l.write text).state.config = l.config
    unfold write
    split
    · dsimp only
      split <;> rfl
    · rfl
  | writeRaw bytes =>
    change (l.writeRaw bytes).state.config = l.config
    unfold writeRaw
    split <;> rfl
  | disturb trouble => rfl

end SerialLink

end MotionEmulator
