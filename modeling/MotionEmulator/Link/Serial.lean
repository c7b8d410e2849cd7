import MotionEmulator.Link.Port
import MotionEmulator.Stream

/-!
# Serial links

A serial link reads bytes from a port and decodes them as they come, so that a character whose
bytes arrive in two reads is delivered whole. The link remembers separately whether it is
connected and which port it holds: a failed attempt to connect, and a failed read, end the
connection and leave the port.
-/

namespace MotionEmulator

/-- The encoding of a name. -/
def encodingNamed (name : String) : Except Fault Text.Encoding :=
  if '\x00' ∈ name.toList then .error .nulInEncoding
  else
    match Text.Encoding.ofName? name with
    | some encoding => .ok encoding
    | none => .error (.unknownEncoding name)

/-- How a serial link is set up. -/
structure SerialConfig where
  baudRate : Int := 115200
  /-- The most bytes of one read. -/
  readSize : Int := 256
  encoding : Text.Encoding := .utf8
  /-- Whether text sent and received is reported. -/
  logIO : Bool := false
  deriving DecidableEq

/-- A link over a serial port. -/
structure SerialLink where
  config : SerialConfig
  port : Option Port := none
  connected : Bool := false
  /-- The name of the port opened last. -/
  portName : Option String := none
  decoder : Text.Decoder
  deriving DecidableEq

namespace SerialLink

/-- The seconds that a read waits when nothing arrives. -/
def patience : Binary64 :=
  Binary64.ofDecimal false 5 (-2)

/-- A link that holds no port. -/
def fresh (config : SerialConfig) : SerialLink :=
  { config, decoder := ⟨config.encoding, .start⟩ }

/-- Opens a port. A port held before is dropped without being closed. An opener that refuses ends
the connection, but any other fault of the opener's changes nothing. -/
def connect (l : SerialLink) (name : String) (opener : Port.Opener := Port.ofName) :
    Outcome SerialLink Unit :=
  match opener name l.config.baudRate with
  | .error cause =>
    if cause.isRefusal then .fault { l with connected := false } (.openFailed name cause.message)
    else .fault l cause
  | .ok port =>
    .done
      { l with
        port := some port
        connected := true
        portName := some name
        decoder := ⟨l.config.encoding, .start⟩ }
      ()
      [⟨.ok, "Opened " ++ name, [("baud", .int l.config.baudRate)]⟩]

/-- Closes the port that is held, if there is one. -/
def disconnect (l : SerialLink) : Outcome SerialLink Unit :=
  let entries :=
    if l.port.isSome then [⟨.info, "Closed " ++ l.portName.getD "", []⟩] else []
  .done { l with port := none, connected := false } () entries

/-- The bytes of one read: what is there, up to the limit, and never fewer than one is asked
for. -/
def readCount (l : SerialLink) (port : Port) : Nat :=
  (max 1 (min (port.queue.length : Int) l.config.readSize)).toNat

/-- Reads what is there and decodes it. -/
def readFrom (l : SerialLink) (port : Port) : Outcome SerialLink (List Char) :=
  let (bytes, port) := port.read (l.readCount port)
  let (decoder, text) := l.decoder.decodeAll bytes
  .done { l with port := some port, decoder } text
    (if l.config.logIO ∧ text ≠ [] then [Entry.overSerial "<<<" text] else [])

/-- One read. Nothing may have arrived. -/
def read (l : SerialLink) : Outcome SerialLink (List Char) :=
  match l.connected, l.port with
  | true, some port =>
    match port.trouble with
    | none => l.readFrom port
    | some .closing => l.disconnect.andThen fun l _ => .done l []
    | some (.failing message) =>
      .fault { l with connected := false } (.readFailed (l.portName.getD "") message)
  | _, _ => .fault l .notConnected

/-- Writes text. What cannot be encoded is reported and not written. -/
def write (l : SerialLink) (text : List Char) : Outcome SerialLink Unit :=
  match l.connected, l.port with
  | true, some port =>
    let entries := if l.config.logIO then [Entry.overSerial ">>>" text] else []
    match l.config.encoding.encode text with
    | .ok bytes => .done { l with port := some (port.write bytes) } () entries
    | .error what => .fault l (.unencodable what) entries
  | _, _ => .fault l .notConnected

/-- Writes bytes to the port that is held. -/
def writeRaw (l : SerialLink) (bytes : List UInt8) : Outcome SerialLink Unit :=
  match l.port with
  | some port => .done { l with port := some (port.write bytes) } ()
  | none => .fault l .notConnected

/-- Lets something befall the next read of the port that is held. -/
def disturb (l : SerialLink) (trouble : Trouble) : SerialLink :=
  { l with port := l.port.map fun port => { port with trouble := some trouble } }

/-- While the link is connected each read is preceded by a pause of no length and, when nothing
arrives, followed by one of the link's patience. -/
def pull (l : SerialLink) (phase : Phase) : Pulled SerialLink (List Char) :=
  match phase with
  | .due =>
    let o := l.read
    match o.result with
    | .error cause => ⟨.finished (some cause), o.state, .looking, o.entries⟩
    | .ok [] => ⟨.pause patience, o.state, .looking, o.entries⟩
    | .ok text => ⟨.chunk text, o.state, .handed, o.entries⟩
  | _ =>
    if l.connected then ⟨.pause 0, l, .due, []⟩ else ⟨.finished none, l, .looking, []⟩

/-- A reading from a time on, of at most `fuel` questions, whose reader disconnects the link at a
number of chunks. -/
def readUntil (l : SerialLink) (fuel : Nat) (count : Int) (time : Binary64) :
    Reading SerialLink (List Char) :=
  let react : Reading.Reaction SerialLink := fun n l =>
    if n = count then l.disconnect.andThen fun l _ => .done l false else .done l false
  Reading.run pull react fuel { source := l, time } .looking

end SerialLink

end MotionEmulator
