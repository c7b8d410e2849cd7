import MotionEmulator.Binary64.Bits
import MotionEmulator.Main
import MotionEmulator.Proofs.Binary64.Rounding
import MotionEmulator.Proofs.Binary64.Bounds
import MotionEmulator.Proofs.Axis.Soundness
import MotionEmulator.Proofs.Receiver.Stream
import MotionEmulator.Proofs.Receiver.Snapshot
import MotionEmulator.Proofs.Command.Wire
import MotionEmulator.Proofs.Receiver.Replay
import MotionEmulator.Proofs.Command.Grammar
import MotionEmulator.Proofs.Timers.Heap
import MotionEmulator.Proofs.Service.Orderly
import MotionEmulator.Proofs.Service.Closing
import MotionEmulator.Proofs.Service.FrameLimit
import MotionEmulator.Proofs.Service.Release
import MotionEmulator.Proofs.ReadLoop.Scripted
import MotionEmulator.Proofs.Service.Clock
import MotionEmulator.Proofs.Service.Isolation
import MotionEmulator.Proofs.Service.Delivery
import MotionEmulator.Proofs.Receiver.Independence
import MotionEmulator.Proofs.Link.Conservation
import MotionEmulator.Proofs.Link.Operations
import MotionEmulator.Proofs.Startup.Settings
import MotionEmulator.Proofs.Stream.Arrivals
import MotionEmulator.Proofs.ReadLoop.Contract
import MotionEmulator.Proofs.Link.Holding
import MotionEmulator.Proofs.Text.Utf8
import MotionEmulator.Proofs.Binary64.Nearest
import MotionEmulator.Proofs.Link.Exchange
import MotionEmulator.Proofs.Axis.Course
import MotionEmulator.Proofs.Axis.Arrival
import MotionEmulator.Proofs.Axis.Trajectory
import MotionEmulator.Proofs.Binary64.Error
import MotionEmulator.Proofs.Axis.Linear
import MotionEmulator.Proofs.Receiver.Instant
import MotionEmulator.Proofs.Command.Spacing
import MotionEmulator.Proofs.Command.Numbers
import MotionEmulator.Proofs.ReadLoop.Parting
import MotionEmulator.Proofs.ReadLoop.Custody
import MotionEmulator.Proofs.Emulator.Cadence
import MotionEmulator.Proofs.Service.Termination
import MotionEmulator.Proofs.Startup.Ports
import MotionEmulator.Proofs.Environment.Precedence
import MotionEmulator.Proofs.Position.Projection
import MotionEmulator.Proofs.Journal.Lines
