import MotionEmulator.Link.Address
import MotionEmulator.Link.Path

/-!
# Ports

A port is a queue of bytes that gives back what is written to it. It can be told to fail, or to be
closed while it is read.

Ports are opened from outside the emulator: an opener (`Port.Opener`) is given a name and a baud
rate and returns a port or a fault. Whatever connects a link is told which opener to use.
`Port.ofName` is the one that the program runs with. Its names are addresses or paths, of which only
the loopbacks, `loop://`, open: it knows no other scheme, and no path at which there is a terminal.
-/

namespace MotionEmulator

/-- What befalls the next read of a port. -/
inductive Trouble where
  /-- Every read fails, for this reason. -/
  | failing (message : String)
  /-- The link is disconnected while the read waits. -/
  | closing
  deriving DecidableEq

/-- An open port. -/
structure Port where
  /-- The bytes written and not yet read. -/
  queue : List UInt8 := []
  trouble : Option Trouble := none
  deriving DecidableEq

namespace Port

/-- The first baud rate that no port can be set to. -/
def baudLimit : Int :=
  0x100000000

/-- What opens ports, given their names and baud rates. -/
abbrev Opener :=
  String → Int → Except Fault Port

/-- A port is opened with nothing on it, and nothing has befallen it. -/
def Opener.OpensEmpty (opener : Opener) : Prop :=
  ∀ name baud port, opener name baud = .ok port → port = {}

/-- The opener of the program. Of several reasons against a port, an unknown scheme comes first, a
negative rate second, a path or an address that does not do third, and any other rate last. -/
def ofName : Opener := fun name baud =>
  let refuse := fun cause => Except.error (Fault.unopened cause)
  match Address.ofName? name.toList with
  | none => if baud < 0 then refuse (.negativeBaud baud) else refuse (Path.refusal name)
  | some address =>
    if address.scheme ≠ ['l', 'o', 'o', 'p'] then refuse (.unknownScheme address.scheme)
    else if baud < 0 then refuse (.negativeBaud baud)
    else
      match address.check with
      | .error cause => .error cause
      | .ok () =>
        if baud = 0 ∨ baudLimit ≤ baud then refuse (.unsupportedBaud baud) else .ok {}

/-- Puts bytes on the port. -/
def write (p : Port) (bytes : List UInt8) : Port :=
  { p with queue := p.queue ++ bytes }

/-- Takes at most so many bytes from the port. -/
def read (p : Port) (count : Nat) : List UInt8 × Port :=
  (p.queue.take count, { p with queue := p.queue.drop count })

end Port

end MotionEmulator
