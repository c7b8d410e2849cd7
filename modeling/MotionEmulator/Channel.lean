/-!
# Channels

The six fixed channels of a device: three linear (`L0`, `L1`, `L2`) and three rotary (`R0`,
`R1`, `R2`). `PerChannel` holds one value for each of them; `get` after `set` gives the value
that was set on its channel (`get_set_same`) and the old one elsewhere (`get_set_of_ne`).
-/

namespace MotionEmulator

/-- The two kinds of channel. -/
inductive ChannelGroup where
  | linear
  | rotary
  deriving DecidableEq

/-- A channel of motion. -/
inductive Channel where
  | stroke
  | surge
  | sway
  | twist
  | roll
  | pitch
  deriving DecidableEq

namespace ChannelGroup

/-- The letter that channel names of the group begin with. -/
def letter : ChannelGroup → Char
  | linear => 'L'
  | rotary => 'R'

def name : ChannelGroup → String
  | linear => "LINEAR"
  | rotary => "ROTARY"

end ChannelGroup

namespace Channel

/-- The channels in their customary order. -/
def all : List Channel :=
  [stroke, surge, sway, twist, roll, pitch]

def group : Channel → ChannelGroup
  | stroke | surge | sway => .linear
  | twist | roll | pitch => .rotary

/-- The number of a channel within its group. -/
def index : Channel → Nat
  | stroke | twist => 0
  | surge | roll => 1
  | sway | pitch => 2

/-- What the channel moves. -/
def label : Channel → String
  | stroke => "stroke"
  | surge => "surge"
  | sway => "sway"
  | twist => "twist"
  | roll => "roll"
  | pitch => "pitch"

/-- The digit that channel names of this index end in. -/
def indexDigit (c : Channel) : Char :=
  Char.ofNat ('0'.toNat + c.index)

/-- The name of a channel, as two characters. -/
def chars (c : Channel) : List Char :=
  [c.group.letter, c.indexDigit]

/-- The name of a channel. -/
def name (c : Channel) : String :=
  String.ofList c.chars

/-- The channel of a name. -/
def ofChars? (text : List Char) : Option Channel :=
  all.find? fun c => c.chars = text

theorem mem_all (c : Channel) : c ∈ all := by
  cases c <;> decide

theorem ofChars?_chars (c : Channel) : ofChars? c.chars = some c := by
  cases c <;> decide

theorem chars_of_ofChars? {text : List Char} {c : Channel} (h : ofChars? text = some c) :
    c.chars = text := by
  simpa using List.find?_some h

end Channel

/-- One value for each channel. -/
structure PerChannel (α : Type) where
  stroke : α
  surge : α
  sway : α
  twist : α
  roll : α
  pitch : α
  deriving DecidableEq

namespace PerChannel

variable {α β : Type}

/-- The values that a function gives to the channels. -/
def ofFn (f : Channel → α) : PerChannel α :=
  ⟨f .stroke, f .surge, f .sway, f .twist, f .roll, f .pitch⟩

def get (p : PerChannel α) : Channel → α
  | .stroke => p.stroke
  | .surge => p.surge
  | .sway => p.sway
  | .twist => p.twist
  | .roll => p.roll
  | .pitch => p.pitch

def set (p : PerChannel α) (c : Channel) (a : α) : PerChannel α :=
  match c with
  | .stroke => { p with stroke := a }
  | .surge => { p with surge := a }
  | .sway => { p with sway := a }
  | .twist => { p with twist := a }
  | .roll => { p with roll := a }
  | .pitch => { p with pitch := a }

/-- The values in the order of the channels. -/
def toList (p : PerChannel α) : List α :=
  Channel.all.map p.get

/-- Each value through a function that may fail; the first failure in channel order counts. -/
def mapM {ε : Type} (p : PerChannel α) (f : α → Except ε β) : Except ε (PerChannel β) := do
  let stroke ← f p.stroke
  let surge ← f p.surge
  let sway ← f p.sway
  let twist ← f p.twist
  let roll ← f p.roll
  let pitch ← f p.pitch
  return ⟨stroke, surge, sway, twist, roll, pitch⟩

@[simp] theorem get_ofFn (f : Channel → α) (c : Channel) : (ofFn f).get c = f c := by
  cases c <;> rfl

@[simp] theorem get_set_same (p : PerChannel α) (c : Channel) (a : α) :
    (p.set c a).get c = a := by
  cases c <;> rfl

theorem get_set_of_ne (p : PerChannel α) {c d : Channel} (a : α) (h : d ≠ c) :
    (p.set c a).get d = p.get d := by
  cases c <;> cases d <;> first | rfl | exact absurd rfl h

theorem ext_get {p q : PerChannel α} (h : ∀ c, p.get c = q.get c) : p = q := by
  cases p
  cases q
  simp only [mk.injEq]
  exact ⟨h .stroke, h .surge, h .sway, h .twist, h .roll, h .pitch⟩

/-- Where the function fails on no channel, its values are all there. -/
theorem mapM_eq_ok {ε : Type} {p : PerChannel α} {q : PerChannel β} {f : α → Except ε β}
    (h : ∀ c, f (p.get c) = .ok (q.get c)) : p.mapM f = .ok q := by
  have stroke : f p.stroke = .ok q.stroke := h .stroke
  have surge : f p.surge = .ok q.surge := h .surge
  have sway : f p.sway = .ok q.sway := h .sway
  have twist : f p.twist = .ok q.twist := h .twist
  have roll : f p.roll = .ok q.roll := h .roll
  have pitch : f p.pitch = .ok q.pitch := h .pitch
  unfold mapM
  rw [stroke, surge, sway, twist, roll, pitch]
  rfl

end PerChannel

end MotionEmulator
