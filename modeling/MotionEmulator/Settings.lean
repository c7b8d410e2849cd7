import MotionEmulator.Axis

/-!
# Settings

What an emulator is told at its start. `Settings.check` refuses settings that no emulator can
run on; the speed period is looked at first, then the number of devices, then the frame rate.
-/

namespace MotionEmulator

/-- The settings of an emulator. -/
structure Settings where
  deviceCount : Int := 2
  /-- Frames per second. -/
  frameRate : Binary64 := 60
  baudRate : Int := 115200
  /-- Whether each line with a command on it is reported. -/
  logCommands : Bool := false
  /-- The milliseconds in which a move by speed covers its parameter. -/
  period : Binary64 := defaultPeriod
  deriving DecidableEq

namespace Settings

/-- The settings themselves, or what is wrong with them. -/
def check (s : Settings) : Except Fault Settings := do
  let _ ← checkPeriod s.period
  if s.deviceCount < 1 then .error (.tooFewDevices s.deviceCount)
  else if s.frameRate ≤ 0 then .error (.frameRateNotPositive s.frameRate)
  else .ok s

/-- The seconds between two frames. -/
def frameInterval (s : Settings) : Except Fault Binary64 :=
  Binary64.over 1 s.frameRate

end Settings

end MotionEmulator
