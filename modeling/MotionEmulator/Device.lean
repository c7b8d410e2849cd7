import MotionEmulator.Frame
import MotionEmulator.Link
import MotionEmulator.Settings

/-!
# Devices

A device joins a receiver to the link it takes its text from. It may be given another link at
any time; `links` keeps every link it was ever given, in that order, so that a read loop goes on
with the link it began with, and `attached` is the place of the current one. The device's clock
runs in milliseconds, the time given to its operations in seconds.
-/

namespace MotionEmulator

/-- One emulated device. -/
structure Device where
  name : String := "device"
  receiver : Receiver
  scale : PerChannel Binary64 := PerChannel.ofFn fun _ => 1
  baudRate : Int
  links : List Link := []
  /-- The place of the current link among all links. -/
  attached : Option Nat := none
  deriving DecidableEq

namespace Device

/-- A device with all axes at rest and no link. -/
def fresh (settings : Settings) (name : String) : Device :=
  { name
    receiver := Receiver.fresh settings.period settings.logCommands
    baudRate := settings.baudRate }

/-- The device's clock at a time in seconds. -/
def clock (time : Binary64) : Binary64 :=
  time * 1000

/-- The current link. -/
def link? (d : Device) : Option Link :=
  d.attached.bind fun i => d.links[i]?

def isConnected (d : Device) : Bool :=
  d.link?.any Link.isConnected

/-- Takes a piece of text, as if it came from the link. -/
def write (d : Device) (chunk : Chunk) (time : Binary64) : Outcome Device Unit :=
  (d.receiver.write chunk (clock time)).within fun receiver => { d with receiver }

/-- The positions of all channels, as fractions of the whole range. -/
def fractions (d : Device) (time : Binary64) : Except Fault (PerChannel Binary64) :=
  d.receiver.fractions (clock time)

/-- Sets the scale of the channel of a name. -/
def setScale (d : Device) (channel : String) (value : Binary64) : Except Fault Device :=
  match Channel.ofChars? channel.toList with
  | none => .error (.unknownChannel channel)
  | some c => .ok { d with scale := d.scale.set c value }

/-- Makes a link the current one. -/
def attach (d : Device) (link : Link) : Device :=
  { d with links := d.links ++ [link], attached := some d.links.length }

/-- Opens a port and makes it the current link. -/
def connect (d : Device) (port : String) (opener : Port.Opener := Port.ofName) :
    Outcome Device Unit :=
  let o := (SerialLink.fresh { baudRate := d.baudRate }).connect port opener
  match o.result with
  | .error cause => .fault d cause o.entries
  | .ok () => .done (d.attach (.serial o.state)) () o.entries

/-- Disconnects the current link and lets go of it. -/
def disconnect (d : Device) : Outcome Device Unit :=
  match d.attached, d.link? with
  | some i, some link =>
    let o := link.disconnect
    .done { d with links := d.links.set i o.state, attached := none } () o.entries
  | _, _ => .done { d with attached := none } ()

/-- Applies an operation to the current link if it is a serial one. -/
def onSerial (d : Device) (f : SerialLink → Outcome SerialLink Unit) : Outcome Device Unit :=
  match d.attached, d.link? with
  | some i, some (.serial l) =>
    (f l).within fun l => { d with links := d.links.set i (.serial l) }
  | _, _ => .done d ()

/-- Writes text to the current link's port. -/
def serialWrite (d : Device) (text : List Char) : Outcome Device Unit :=
  d.onSerial fun l => l.write text

/-- Lets something befall the next read of the current link's port. -/
def disturb (d : Device) (trouble : Trouble) : Device :=
  (d.onSerial fun l => .done (l.disturb trouble) ()).state

/-- What a renderer is shown of the device. -/
def frame (d : Device) (time : Binary64) : Except Fault Frame :=
  (d.fractions time).map fun axes => { time, device := d.name, axes, scale := d.scale }

end Device

end MotionEmulator
