import MotionEmulator.Proofs.Link.Operations

/-!
# What a serial link holds

A serial link remembers whether it is connected and which port it holds, and the two can part.

* A link that is connected holds a port (`Holds`). Whether one that holds a port is connected
  depends on what was done to it: after any operations the two agree just if every operation that
  parts them is followed by one that settles (`Settled`), and only then does the link refuse bytes
  where it refuses text. This is `SerialLink.refuse_alike_iff_settled`.
* A port that is opened while another is held takes its place, and nobody closes the other one.
  `balance` counts the ports that any operations open, close and drop, and
  `SerialLink.all_closed_iff_none_dropped` says when a link that is disconnected at the end has
  closed all that it had opened.
-/

namespace MotionEmulator.SerialLink

variable {l : SerialLink} {op : Operation}

/-! ## The connection and the port -/

/-- The link is connected just if it holds a port. -/
def Agrees (l : SerialLink) : Prop :=
  l.connected = l.port.isSome

/-- The link is connected only if it holds a port. -/
def Holds (l : SerialLink) : Prop :=
  l.connected = true → l.port.isSome = true

/-- One of the operations settles. -/
def Settles (l : SerialLink) : List Operation → Prop
  | [] => False
  | op :: later => op.Settles l ∨ (op.on l).state.Settles later

/-- Every operation that parts the connection from the port is followed by one that settles. -/
def Settled (l : SerialLink) : List Operation → Prop
  | [] => True
  | op :: later =>
    (op.Parts l → (op.on l).state.Settles later) ∧ (op.on l).state.Settled later

theorem Operation.Settles.not_parts (settles : op.Settles l) : ¬ op.Parts l := by
  cases op with
  | connect name opener =>
    obtain ⟨port, found⟩ := settles
    rintro ⟨-, cause, refused, -⟩
    cases refused.symm.trans found
  | disconnect => exact id
  | read | write | writeRaw | disturb => exact settles.elim

section Takes

variable {connected held : Bool} {opens closes : Nat}

theorem Takes.holds (takes : l.Takes op connected held opens closes) (holds : l.Holds) :
    connected = true → held = true := by
  cases takes with
  | opens | fails => exact fun _ => rfl
  | refused | closes | interrupted => exact nofun
  | passes => exact holds

/-- **When the connection and the port agree after an operation.** It settles, or they agreed before
and it does not part them. -/
theorem Takes.agrees_iff (takes : l.Takes op connected held opens closes) (holds : l.Holds) :
    connected = held ↔ op.Settles l ∨ l.Agrees ∧ ¬ op.Parts l := by
  unfold Agrees
  cases takes with
  | opens found => exact iff_of_true rfl (.inl ⟨_, found⟩)
  | closes => exact iff_of_true rfl (.inl trivial)
  | @refused name opener cause found refusal =>
    have unsettled : ¬ (Operation.connect name opener).Settles l := by
      simp [Operation.Settles, found]
    cases port : l.port.isSome with
    | true =>
      have parts : (Operation.connect name opener).Parts l := ⟨port, cause, found, refusal⟩
      simp [unsettled, parts]
    | false =>
      have apart : l.connected = false := by
        by_contra joined
        cases port.symm.trans (holds (by simpa using joined))
      simp [apart, Operation.Parts, port]
  | fails joined port trouble =>
    have parts : Operation.read.Parts l := ⟨joined, _, _, port, trouble⟩
    simp [parts, Operation.Settles]
  | interrupted joined port trouble => simp [joined, port, trouble, Operation.Parts]
  | passes unsettled calm => simp [unsettled, calm]

end Takes

/-- The state after an operation agrees if it settles, or if it agreed and is not parted. -/
theorem agrees_on_iff (holds : l.Holds) (op : Operation) :
    (op.on l).state.Agrees ↔ op.Settles l ∨ l.Agrees ∧ ¬ op.Parts l :=
  (leaves_on l op).agrees_iff holds

theorem holds_operate (holds : l.Holds) (ops : List Operation) : (l.operate ops).Holds := by
  induction ops generalizing l with
  | nil => exact holds
  | cons op later ih => exact ih ((leaves_on l op).holds holds)

/-- **When the connection and the port agree after operations.** Either they agreed before or one
of the operations settled, and each that parted them was followed by one that settled. -/
theorem agrees_operate_iff (holds : l.Holds) (ops : List Operation) :
    (l.operate ops).Agrees ↔ (l.Agrees ∨ l.Settles ops) ∧ l.Settled ops := by
  induction ops generalizing l with
  | nil => simp [operate, Settles, Settled]
  | cons op later ih =>
    have step := agrees_on_iff holds op
    have rest := ih ((leaves_on l op).holds holds)
    have apart : op.Settles l → ¬ op.Parts l := Operation.Settles.not_parts
    rw [operate, List.foldl_cons, ← operate, rest, step, Settles, Settled]
    grind

/-! ## What is refused -/

theorem write_refuses_iff (holds : l.Holds) {text : List Char} {bytes : List UInt8}
    (encoded : l.config.encoding.encode text = .ok bytes) :
    (l.write text).result = .error .notConnected ↔ l.connected = false := by
  cases connected : l.connected with
  | true =>
    obtain ⟨port, held⟩ := Option.isSome_iff_exists.1 (holds connected)
    rw [write_of_joined connected held encoded]
    simp [Outcome.done]
  | false =>
    rw [write_of_apart (by simp [connected])]
    simp [Outcome.fault]

theorem writeRaw_refuses_iff (bytes : List UInt8) :
    (l.writeRaw bytes).result = .error .notConnected ↔ l.port.isSome = false := by
  cases held : l.port with
  | some port =>
    rw [writeRaw_of_port held]
    simp [Outcome.done]
  | none =>
    rw [writeRaw_of_none held]
    simp [Outcome.fault]

/-- **When text and bytes are refused alike.** After any operations on a new link, the connection
and the port agree just if each loss of the connection alone was followed by an operation that
settles. In those states, and in no other, the link refuses to send a text exactly if it refuses to
send the bytes of that text. Where it takes the text it puts those bytes on the port, as it does
with the bytes alone. -/
theorem refuse_alike_iff_settled (config : SerialConfig) (ops : List Operation) :
    let l := (fresh config).operate ops
    (l.Agrees ↔ (fresh config).Settled ops) ∧
      ∀ text bytes, l.config.encoding.encode text = .ok bytes →
        (((l.write text).result = .error .notConnected ↔
            (l.writeRaw bytes).result = .error .notConnected) ↔ (fresh config).Settled ops) ∧
          ((l.write text).result ≠ .error .notConnected →
            ∃ port, l.port = some port ∧ (l.write text).result = .ok () ∧
              (l.writeRaw bytes).result = .ok () ∧
              (l.write text).state.port = some (port.write bytes) ∧
              (l.writeRaw bytes).state.port = some (port.write bytes)) := by
  intro l
  have start : (fresh config).Holds := nofun
  have holds : l.Holds := holds_operate start ops
  have agrees : l.Agrees ↔ (fresh config).Settled ops := by
    rw [agrees_operate_iff start ops]
    exact and_iff_right (.inl rfl)
  refine ⟨agrees, fun text bytes encoded => ⟨?_, fun taken => ?_⟩⟩
  · rw [← agrees, write_refuses_iff holds encoded, writeRaw_refuses_iff, Agrees]
    cases l.connected <;> cases l.port.isSome <;> simp
  · rw [Ne, write_refuses_iff holds encoded, Bool.not_eq_false] at taken
    obtain ⟨port, held⟩ := Option.isSome_iff_exists.1 (holds taken)
    refine ⟨port, held, ?_⟩
    rw [write_of_joined taken held encoded, writeRaw_of_port held]
    exact ⟨rfl, rfl, rfl, rfl⟩

/-- After a failed read the link was disconnected and got hold of a port again. -/
theorem refuse_alike_iff_settled_replugged :
    let ops : List Operation :=
      [.connect "loop://" Port.ofName, .disturb (.failing "unplugged"), .read, .disconnect,
        .connect "loop://" Port.ofName]
    let l := (fresh {}).operate ops
    l.config.encoding.encode ['é'] = .ok [0xc3, 0xa9] ∧ (fresh {}).Settled ops ∧
      ((l.write ['é']).result = .error .notConnected ↔
        (l.writeRaw [0xc3, 0xa9]).result = .error .notConnected) := by
  intro ops l
  have encoded : l.config.encoding.encode ['é'] = .ok [0xc3, 0xa9] := by decide +kernel
  have agrees : l.connected = l.port.isSome := by decide +kernel
  obtain ⟨settled, alike⟩ := refuse_alike_iff_settled {} ops
  exact ⟨encoded, settled.1 agrees, (alike _ _ encoded).1.2 (settled.1 agrees)⟩

/-- An attempt to connect that fails leaves the port of the connection before: it takes bytes still,
but no text. -/
theorem failed_attempt_leaves_port :
    let l := (fresh {}).operate
      [.connect "loop://" Port.ofName, .connect "/dev/sr6" Port.ofName]
    ¬ l.Agrees ∧ (l.write ['L']).result = .error .notConnected ∧
      (l.writeRaw [0x4c]).result = .ok () := by
  unfold Agrees
  decide +kernel

/-! ## Ports opened and closed -/

/-- The number of ports that are put in the place of one that is held. -/
def dropped (l : SerialLink) : List Operation → Nat
  | [] => 0
  | op :: later => (op.drops l).toNat + (op.on l).state.dropped later

/-- **Every port is accounted for.** A port that was held or is opened is closed, dropped or still
held. -/
theorem Takes.balance {connected held : Bool} {opens closes : Nat}
    (takes : l.Takes op connected held opens closes) :
    l.port.isSome.toNat + opens = closes + (op.drops l).toNat + held.toNat := by
  cases takes with
  | opens found => simp [Operation.drops, found, Except.isOk, Except.toBool]
  | refused found => simp [Operation.drops, found, Except.isOk, Except.toBool]
  | fails _ port => simp [Operation.drops, port]
  | closes => simp [Operation.drops]
  | interrupted _ port => simp [Operation.drops, port]
  | passes _ _ whole => simp [whole]

theorem balance (l : SerialLink) (ops : List Operation) :
    l.port.isSome.toNat + opened (l.reported ops) =
      closed (l.reported ops) + l.dropped ops + (l.operate ops).port.isSome.toNat := by
  induction ops generalizing l with
  | nil => simp [reported, opened, closed, dropped, operate]
  | cons op later ih =>
    have step := (leaves_on l op).balance
    have rest := ih (op.on l).state
    simp only [reported, opened, closed, dropped, operate, List.countP_append,
      List.foldl_cons] at step rest ⊢
    omega

theorem reported_append_singleton (l : SerialLink) (ops : List Operation) (op : Operation) :
    l.reported (ops ++ [op]) = l.reported ops ++ (op.on (l.operate ops)).entries := by
  induction ops generalizing l with
  | nil => simp [reported, operate]
  | cons first later ih =>
    rw [List.cons_append, reported, ih, reported, List.append_assoc]
    rfl

/-- **When all that was opened has been closed.** After any operations and a disconnection as the
last one, the ports that were opened are those that were closed and those that were dropped, and at
no time are more closed than opened. So all are closed just if no attempt to connect succeeded while
a port was held. -/
theorem all_closed_iff_none_dropped (config : SerialConfig) (ops : List Operation) :
    let all := (fresh config).reported (ops ++ [.disconnect])
    opened all = closed all + (fresh config).dropped ops ∧
      (opened all = closed all ↔ (fresh config).dropped ops = 0) ∧
      closed ((fresh config).reported ops) ≤ opened ((fresh config).reported ops) := by
  intro all
  have before := balance (fresh config) ops
  have last := (leaves_on ((fresh config).operate ops) .disconnect).balance
  have none : (fresh config).port.isSome.toNat = 0 := rfl
  have released :
      (Operation.disconnect.on ((fresh config).operate ops)).state.port.isSome.toNat = 0 := rfl
  have kept : Operation.disconnect.drops ((fresh config).operate ops) = false := rfl
  simp only [all, reported_append_singleton, opened, closed, List.countP_append, kept,
    Bool.toNat_false] at before last ⊢
  omega

/-- A second attempt to connect that succeeds drops the port of the first one. -/
theorem second_attempt_drops_port :
    let all := (fresh {}).reported
      [.connect "loop://" Port.ofName, .connect "loop://" Port.ofName, .disconnect]
    opened all = 2 ∧ closed all = 1 := by
  decide +kernel

end MotionEmulator.SerialLink
