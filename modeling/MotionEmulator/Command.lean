import MotionEmulator.Channel
import MotionEmulator.Fault
import MotionEmulator.Text.DecimalDigit

/-!
# Commands

A command sends one channel to a target, with or without an `Extension` that names a duration
or a speed. The bounds on target and parameter are part of the types; `Extension.build` and
`Command.build` check them for numbers that come from outside. `Command.wire` is the canonical
token of a command: the target in four digits, the parameter without leading zeros.
-/

namespace MotionEmulator

/-- The duration or the speed of a command. -/
structure Extension where
  kind : MoveKind
  param : Nat
  kind_ne : kind ≠ .immediate
  param_le : param ≤ maxParam
  deriving DecidableEq

/-- One channel's new target. -/
structure Command where
  channel : Channel
  target : Nat
  extension : Option Extension := none
  target_le : target ≤ Position.top.toNat
  deriving DecidableEq

namespace Extension

/-- The extension of a kind and a parameter. The kind is checked first. -/
def build (kind : MoveKind) (param : Int) : Except Fault Extension :=
  if hk : kind = .immediate then .error .immediateExtension
  else if param < 0 then .error (.negativeParam param)
  else if hp : param.toNat ≤ maxParam then .ok ⟨kind, param.toNat, hk, hp⟩
  else .error (.excessiveParam param)

/-- The letter of the kind, then the parameter. -/
def wire (e : Extension) : List Char :=
  e.kind.letters ++ Nat.toDigits 10 e.param

end Extension

namespace Command

/-- The command of a channel and a target. -/
def build (channel : Channel) (target : Int) (extension : Option Extension) :
    Except Fault Command :=
  if target < 0 then .error (.targetOutOfRange target)
  else if h : target.toNat ≤ Position.top.toNat then .ok ⟨channel, target.toNat, extension, h⟩
  else .error (.targetOutOfRange target)

/-- The command of a channel's name, a target and the kind and parameter of an extension. Of
several faults the extension's comes first and the channel's second. -/
def ofParts (channel : String) (target : Int) (extension : Option (MoveKind × Int)) :
    Except Fault Command := do
  let extension ←
    match extension with
    | none => pure none
    | some (kind, param) => some <$> Extension.build kind param
  match Channel.ofChars? channel.toList with
  | none => .error (.unknownChannel channel)
  | some channel => build channel target extension

def kind (c : Command) : MoveKind :=
  c.extension.elim .immediate Extension.kind

def param (c : Command) : Nat :=
  c.extension.elim 0 Extension.param

/-- The target as a fraction of the whole range. -/
def fraction (c : Command) : Binary64 :=
  Position.fraction c.target

/-- The target in all its digits. -/
def targetDigits (c : Command) : List Char :=
  let digits := Nat.toDigits 10 c.target
  List.replicate (Position.digits - digits.length) '0' ++ digits

/-- The canonical token of a command. -/
def wire (c : Command) : List Char :=
  c.channel.chars ++ c.targetDigits ++ c.extension.elim [] Extension.wire

/-- The canonical line of commands, without a line feed. -/
def wireLine (commands : List Command) : List Char :=
  List.intercalate [' '] (commands.map wire)

end Command

end MotionEmulator
