import MotionEmulator.Binary64.Shortest
import MotionEmulator.Motion
import MotionEmulator.Position
import MotionEmulator.Text.Encoding

/-!
# Faults

Everything that the emulator refuses, by cause, and what it hears of the failures of others.
`Fault.message` is the one place where a cause is put into words. `Fault.kind` sorts the causes, and
whoever deals with a fault goes by its kind: a link takes an opener's refusal for its own failure
(`Fault.isRefusal`), a read loop ends in an orderly way at the fault of a link
(`Fault.isTransport`), and the program carries on without a connection (`Fault.isConnection`). All
other faults stop whatever is going on. `Binary64.over` is the division that refuses a zero divisor.
-/

namespace MotionEmulator

/-- Why nothing can be opened at a path. -/
inductive PathFault where
  | missing
  | noDevice
  | notDirectory
  | isDirectory
  | nameTooLong
  deriving DecidableEq

/-- Why a port does not open. -/
inductive OpenFault where
  | negativeBaud (rate : Int)
  | unsupportedBaud (rate : Int)
  | unknownScheme (scheme : List Char)
  | unpairedBracket
  /-- A host has a character that is another form of a delimiter. -/
  | disguisedDelimiter (host : List Char)
  | unknownOption (name : List Char)
  | nulInPath
  | blocked (path : String) (cause : PathFault)
  /-- What the path leads to is no terminal. -/
  | notTerminal
  deriving DecidableEq

/-- What is reported from outside the emulator, by a source of chunks or by an opener of ports. -/
inductive SourceFailure where
  | connection
  | reset
  | timeout
  | system
  | value
  /-- A port does not open, or does not work. -/
  | port
  | other
  deriving DecidableEq

/-- What a fault counts as to those who deal with faults. -/
inductive FaultKind where
  /-- A connection is not there, or breaks. -/
  | connection
  /-- A port does not open, or does not work. -/
  | port
  /-- Something else of the system's. -/
  | system
  /-- A value does not do. -/
  | value
  | other
  deriving DecidableEq

/-- What can go wrong, by cause. -/
inductive Fault where
  /-- A double without an integer near it was rounded. -/
  | nonFinite (cause : NonFinite)
  /-- A text does not denote an integer. -/
  | notInteger (text : List Char)
  | immediateExtension
  | negativeParam (param : Int)
  | excessiveParam (param : Int)
  | unknownChannel (name : String)
  | targetOutOfRange (target : Int)
  | periodNotPositive (period : Binary64)
  | tooFewDevices (count : Int)
  | frameRateNotPositive (rate : Binary64)
  /-- A double was divided by a zero. -/
  | zeroDivisor
  | noSuchDevice (index : Int) (count : Nat)
  /-- A device without a link was told to read from it. -/
  | nothingAttached (device : String)
  | unknownEncoding (name : String)
  | nulInEncoding
  | unencodable (what : Text.Unencodable)
  /-- A scripted link broke where its script says so. -/
  | dropped
  | notConnected
  /-- An opener does not open a port. -/
  | unopened (cause : OpenFault)
  /-- An opener is to have a port log its work at a level that there is not. -/
  | unknownLogLevel (level : List Char)
  /-- A link has no port, since its opener refuses, with this message. -/
  | openFailed (port message : String)
  | readFailed (port message : String)
  /-- A source of chunks, or an opener of ports, failed with a message of its own. -/
  | source (failure : SourceFailure) (message : String)
  deriving DecidableEq

namespace PathFault

/-- The number that systems give to a fault. -/
def number : PathFault → Nat
  | missing => 2
  | noDevice => 6
  | notDirectory => 20
  | isDirectory => 21
  | nameTooLong => 36

def reason : PathFault → String
  | missing => "No such file or directory"
  | noDevice => "No such device or address"
  | notDirectory => "Not a directory"
  | isDirectory => "Is a directory"
  | nameTooLong => "File name too long"

end PathFault

namespace OpenFault

def message : OpenFault → String
  | negativeBaud rate => "Not a valid baudrate: " ++ toString rate
  | unsupportedBaud rate => "invalid baudrate: " ++ toString rate
  | unknownScheme scheme =>
    "invalid URL, protocol " ++ String.ofList (Text.quoted scheme) ++ " not known"
  | unpairedBracket => "Invalid IPv6 URL"
  | disguisedDelimiter host =>
    "netloc '" ++ String.ofList host
      ++ "' contains invalid characters under NFKC normalization"
  | unknownOption name =>
    "expected a string in the form \"loop://[?logging=\x7bdebug|info|warning|error\x7d]\": "
      ++ "unknown option: " ++ String.ofList (Text.quoted name)
  | nulInPath => "embedded null byte"
  | blocked path cause =>
    let number := "[Errno " ++ toString cause.number ++ "] "
    number ++ "could not open port " ++ path ++ ": " ++ number ++ cause.reason ++ ": "
      ++ Text.quotedString path
  | notTerminal => "Could not configure port: (25, 'Inappropriate ioctl for device')"

def kind : OpenFault → FaultKind
  | negativeBaud _ | unsupportedBaud _ | unknownScheme _ | unpairedBracket | disguisedDelimiter _
  | nulInPath => .value
  | unknownOption _ | blocked _ _ | notTerminal => .port

end OpenFault

def SourceFailure.kind : SourceFailure → FaultKind
  | connection | reset => .connection
  | timeout | system => .system
  | value => .value
  | port => .port
  | other => .other

namespace Fault

def message : Fault → String
  | nonFinite .nan => "cannot convert float NaN to integer"
  | nonFinite .infinite => "cannot convert float infinity to integer"
  | notInteger text =>
    "invalid literal for int() with base 10: " ++ String.ofList (Text.quoted text)
  | immediateExtension => "Extension kind must be INTERPOLATE or SPEED"
  | negativeParam param => "Extension param must be non-negative, got " ++ toString param
  | excessiveParam param =>
    "Extension param must be at most " ++ toString maxParam ++ ", got " ++ toString param
  | unknownChannel name => Text.quotedString name ++ " is not a valid AxisId"
  | targetOutOfRange target =>
    "raw_value=" ++ toString target ++ " out of range [0, " ++ toString Position.top ++ "]"
  | periodNotPositive period => "speed_period_ms must be positive, got " ++ period.text
  | tooFewDevices count => "device_count must be at least 1, got " ++ toString count
  | frameRateNotPositive rate => "frame_rate must be positive, got " ++ rate.text
  | zeroDivisor => "float division by zero"
  | noSuchDevice index count =>
    "No device " ++ toString index ++ " (have " ++ toString count ++ ")"
  | nothingAttached device => device ++ ": no transport attached"
  | unknownEncoding name => "unknown encoding: " ++ name
  | nulInEncoding => "embedded null character"
  | unencodable what => what.message
  | dropped => "Mock transport dropped"
  | notConnected => "Not connected"
  | unopened cause => cause.message
  | unknownLogLevel level => String.ofList (Text.quoted level)
  | openFailed port message => "Failed to open " ++ port ++ ": " ++ message
  | readFailed port message => "Serial read failed on " ++ port ++ ": " ++ message
  | source _ message => message

def kind : Fault → FaultKind
  | dropped | notConnected | openFailed _ _ | readFailed _ _ => .connection
  | unopened cause => cause.kind
  | source failure _ => failure.kind
  | nonFinite .infinite | zeroDivisor | noSuchDevice _ _ | nothingAttached _ | unknownEncoding _
  | unknownLogLevel _ => .other
  | _ => .value

/-- Whether a fault is that of a link. -/
def isTransport (f : Fault) : Bool :=
  f.kind = .connection ∨ f.kind = .port ∨ f.kind = .system

/-- Whether an opener that reports a fault refuses the port. -/
def isRefusal (f : Fault) : Bool :=
  f.kind = .port ∨ f.kind = .value

/-- Whether the program carries on without the port that a fault is about. -/
def isConnection (f : Fault) : Bool :=
  f.kind = .connection

end Fault

/-- The quotient of two numbers. A divisor that is a zero is refused. -/
def Binary64.over (x y : Binary64) : Except Fault Binary64 :=
  if y.level? = some 0 then .error .zeroDivisor else .ok (x / y)

end MotionEmulator
