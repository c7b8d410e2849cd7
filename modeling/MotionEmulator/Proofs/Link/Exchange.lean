import MotionEmulator.Proofs.Link.Operations
import MotionEmulator.Proofs.Text.Utf8

/-!
# Exchanges over a serial link

From the moment a serial link has opened a port, bytes are written to it, as text or as they are,
and the link is read, in any order. `Exchanging` is what every such operation keeps: the bytes
written are those read and those still on the port, in this order, and what was read has been
decoded byte by byte. So it does not matter how the bytes were cut, neither in writing nor in
reading: `SerialLink.heard_eq_singleRead` compares what was heard with what one single read of all
the bytes returns, and with the text that was sent.
-/

namespace MotionEmulator

/-- The opener of the program opens empty ports. -/
theorem Port.opensEmpty_ofName : Port.Opener.OpensEmpty Port.ofName := by
  intro name baud port found
  unfold Port.ofName at found
  dsimp only at found
  split at found
  · split at found <;> cases found
  · split at found
    · cases found
    · split at found
      · cases found
      · split at found
        · cases found
        · split at found
          · cases found
          · exact (Except.ok.inj found).symm

namespace SerialLink

open Text

/-- The bytes that are written and not yet read. -/
def queue (l : SerialLink) : List UInt8 :=
  (l.port.map Port.queue).getD []

/-- An operation by which bytes go over the port. -/
def Operation.IsExchange : Operation → Prop
  | read | write _ | writeRaw _ => True
  | connect _ _ | disconnect | disturb _ => False

/-- The bytes that an operation puts on the port of a link that writes UTF-8. -/
def Operation.sent : Operation → List UInt8
  | write text => text.flatMap String.utf8EncodeChar
  | writeRaw bytes => bytes
  | read | connect _ _ | disconnect | disturb _ => []

/-- What the reads among some operations return, in order. -/
def heard (l : SerialLink) : List Operation → List Char
  | [] => []
  | op :: later => (op.on l).result.toOption.getD [] ++ (op.on l).state.heard later

/-- What one read returns of bytes that are all there, on a link of its own. -/
def singleRead (config : SerialConfig) (name : String) (opener : Port.Opener)
    (bytes : List UInt8) : Except Fault (List Char) :=
  let l := ((fresh { config with readSize := bytes.length }).connect name opener).state
  (l.writeRaw bytes).state.read.result

/-- A link that has exchanged bytes since its port was opened: `sent` were put on the port, and
`text` was heard. -/
structure Exchanging (sent : List UInt8) (text : List Char) (l : SerialLink) : Prop where
  connected : l.connected = true
  utf8 : l.config.encoding = .utf8
  /-- The port is whole. -/
  port : ∃ port, l.port = some port ∧ port.trouble = none
  /-- Nothing is lost, doubled or put elsewhere. -/
  taken : ∃ taken, sent = taken ++ l.queue ∧
    (Decoder.utf8 .start).decodeAll taken = (l.decoder, text)

variable {l : SerialLink} {sent : List UInt8} {text : List Char} {name : String}
  {opener : Port.Opener} {port : Port}

theorem exchanging_connect (opensEmpty : opener.OpensEmpty) (utf8 : l.config.encoding = .utf8)
    (found : opener name l.config.baudRate = .ok port) :
    Exchanging [] [] (l.connect name opener).state := by
  obtain rfl := opensEmpty _ _ _ found
  rw [connect_of_found found]
  exact {
    connected := rfl
    utf8 := utf8
    port := ⟨_, rfl, rfl⟩
    taken := ⟨[], rfl, by rw [utf8]; rfl⟩ }

/-- Bytes that are put on the port come behind those already there. -/
theorem Exchanging.put (exchanging : Exchanging sent text l) (held : l.port = some port)
    (bytes : List UInt8) :
    Exchanging (sent ++ bytes) text { l with port := some (port.write bytes) } := by
  obtain ⟨connected, utf8, ⟨port', held', whole⟩, taken, eq, decoded⟩ := exchanging
  obtain rfl := Option.some.inj (held.symm.trans held')
  have queue : l.queue = port.queue := by rw [SerialLink.queue, held]; rfl
  refine ⟨connected, utf8, ⟨_, rfl, whole⟩, taken, ?_, decoded⟩
  rw [eq, queue, List.append_assoc]
  rfl

/-- A read takes bytes from the front of the port and decodes them. -/
theorem Exchanging.read (exchanging : Exchanging sent text l) :
    ∃ more, l.read.result = .ok more ∧ Exchanging sent (text ++ more) l.read.state := by
  obtain ⟨connected, utf8, ⟨port, held, whole⟩, taken, eq, decoded⟩ := exchanging
  have queue : l.queue = port.queue := by rw [SerialLink.queue, held]; rfl
  rw [read_of_calm connected held whole]
  refine ⟨_, rfl, connected, utf8, ⟨_, rfl, whole⟩, taken ++ port.queue.take (l.readCount port),
    ?_, ?_⟩
  · rw [eq, queue, List.append_assoc]
    exact congrArg (taken ++ ·) (List.take_append_drop _ _).symm
  · rw [Decoder.decodeAll_append, decoded]
    rfl

/-- **What an exchange keeps.** Nothing is refused, what is written comes to the bytes that were
sent, and what is read comes to the text that was heard. -/
theorem Exchanging.on (exchanging : Exchanging sent text l) {op : Operation}
    (exchange : op.IsExchange) :
    ∃ more, (op.on l).result = .ok more ∧
      Exchanging (sent ++ op.sent) (text ++ more) (op.on l).state := by
  obtain ⟨port, held, -⟩ := exchanging.port
  cases op with
  | read =>
    rw [Operation.sent, List.append_nil]
    exact exchanging.read
  | write chars =>
    have encoded : l.config.encoding.encode chars = .ok (chars.flatMap String.utf8EncodeChar) := by
      rw [exchanging.utf8]
      rfl
    rw [Operation.on, write_of_joined exchanging.connected held encoded]
    refine ⟨[], rfl, ?_⟩
    rw [List.append_nil]
    exact exchanging.put held _
  | writeRaw bytes =>
    rw [Operation.on, writeRaw_of_port held]
    refine ⟨[], rfl, ?_⟩
    rw [List.append_nil]
    exact exchanging.put held bytes
  | connect | disconnect | disturb => exact exchange.elim

theorem Exchanging.operate (exchanging : Exchanging sent text l) {ops : List Operation}
    (exchange : ∀ op ∈ ops, op.IsExchange) :
    Exchanging (sent ++ ops.flatMap Operation.sent) (text ++ l.heard ops) (l.operate ops) := by
  induction ops generalizing l sent text with
  | nil =>
    rw [List.flatMap_nil, heard, List.append_nil, List.append_nil]
    exact exchanging
  | cons op later ih =>
    obtain ⟨more, result, step⟩ := exchanging.on (exchange op List.mem_cons_self)
    have rest := ih step fun op mem => exchange op (List.mem_cons_of_mem _ mem)
    rw [List.flatMap_cons, heard, result, ← List.append_assoc, ← List.append_assoc]
    exact rest

/-- What one read returns is the decoding of the bytes. -/
theorem singleRead_eq {config : SerialConfig} (opensEmpty : opener.OpensEmpty)
    (utf8 : config.encoding = .utf8) (found : opener name config.baudRate = .ok port)
    (bytes : List UInt8) :
    singleRead config name opener bytes = .ok ((Decoder.utf8 .start).decodeAll bytes).2 := by
  obtain rfl := opensEmpty _ _ _ found
  have count : (max 1 (min (bytes.length : Int) bytes.length)).toNat = max 1 bytes.length := by
    omega
  have all : bytes.take (max 1 bytes.length) = bytes :=
    List.take_of_length_le (Nat.le_max_right _ _)
  unfold singleRead
  dsimp only
  rw [connect_of_found found]
  simp only [Outcome.done, writeRaw, SerialLink.read, readFrom, readCount, Port.write, Port.read,
    List.nil_append, count, all, fresh, utf8]

/-- A read that finds bytes takes one of them at least, whatever the size of a read. -/
theorem Exchanging.length_queue_read (exchanging : Exchanging sent text l) :
    l.read.state.queue.length ≤ l.queue.length - 1 := by
  obtain ⟨port, held, whole⟩ := exchanging.port
  have count : 1 ≤ l.readCount port := by
    unfold readCount
    omega
  rw [read_of_calm exchanging.connected held whole]
  change (port.queue.drop (l.readCount port)).length ≤ ((l.port.map Port.queue).getD []).length - 1
  rw [List.length_drop, held]
  exact Nat.sub_le_sub_left count _

/-- Reads in a row empty the port. -/
theorem Exchanging.queue_reads (exchanging : Exchanging sent text l) (n : Nat) :
    (l.operate (List.replicate n .read)).queue.length ≤ l.queue.length - n := by
  induction n generalizing l text with
  | zero => exact Nat.le_refl _
  | succ n ih =>
    obtain ⟨more, -, step⟩ := exchanging.read
    have taken := exchanging.length_queue_read
    have rest := ih step
    rw [List.replicate_succ]
    exact Nat.le_trans rest (by omega)

/-- **What is heard does not depend on how the bytes are cut.** A link that writes UTF-8 opens a
port, whatever it held or had begun to decode before, by an opener of empty ports. Then texts and
bytes are written to it and it is read, in any order and with any size of a read. Nothing is
refused. At any time the bytes sent are those taken and those still on the port, and what was heard
is what one read of those taken returns. So once the port is empty it is what one read of all
returns, and the text, if they are the bytes of one. As many reads as bytes were sent empty the
port. -/
theorem heard_eq_singleRead (opensEmpty : opener.OpensEmpty) (utf8 : l.config.encoding = .utf8)
    (opens : (l.connect name opener).result = .ok ()) (ops : List Operation)
    (exchange : ∀ op ∈ ops, op.IsExchange) :
    let start := (l.connect name opener).state
    let now := start.operate ops
    let sent := ops.flatMap Operation.sent
    (∀ op : Operation, op.IsExchange → ∃ text, (op.on now).result = .ok text) ∧
      (∃ taken, sent = taken ++ now.queue ∧
        singleRead l.config name opener taken = .ok (start.heard ops)) ∧
      (now.queue = [] → singleRead l.config name opener sent = .ok (start.heard ops)) ∧
      (∀ text, sent = text.flatMap String.utf8EncodeChar → now.queue = [] →
        start.heard ops = text) ∧
      ∀ n, sent.length ≤ n → (now.operate (List.replicate n .read)).queue = [] := by
  intro start now sent
  cases found : opener name l.config.baudRate with
  | error cause =>
    rw [connect_of_error found] at opens
    cases opens
  | ok port =>
    have exchanging : Exchanging sent (start.heard ops) now :=
      (exchanging_connect opensEmpty utf8 found).operate exchange
    obtain ⟨taken, eq, decoded⟩ := exchanging.taken
    have single (bytes : List UInt8) := singleRead_eq opensEmpty utf8 found bytes
    have whole (empty : now.queue = []) : taken = sent := by rw [eq, empty, List.append_nil]
    refine ⟨fun op exchanges => ?_, ⟨taken, eq, ?_⟩, fun empty => ?_, fun text encoded empty => ?_,
      fun n enough => ?_⟩
    · obtain ⟨more, result, -⟩ := exchanging.on exchanges
      exact ⟨more, result⟩
    · rw [single, decoded]
    · rw [single, ← whole empty, decoded]
    · rw [whole empty, encoded, Decoder.decodeAll_encode_utf8] at decoded
      exact (congrArg Prod.snd decoded).symm
    · have short := exchanging.queue_reads n
      have part : now.queue.length ≤ sent.length := by
        rw [eq, List.length_append]
        exact Nat.le_add_left _ _
      exact List.eq_nil_of_length_eq_zero (by omega)

/-- A character was begun and a byte left over when the port was opened anew. Then a surrogate comes
in pieces, read one byte at a time, and the bytes of a character come in two. -/
theorem heard_eq_singleRead_reopened :
    let l := (fresh { readSize := -1 }).operate
      [.connect "loop://" Port.ofName, .writeRaw [0xc3, 0x41], .read]
    let ops : List Operation :=
      [.writeRaw [0xed], .read, .writeRaw [0xa0, 0x80, 0xe2], .read, .read, .write ['é'], .read,
        .read, .read]
    let start := (l.connect "loop://" Port.ofName).state
    Port.Opener.OpensEmpty Port.ofName ∧ l.config.encoding = .utf8 ∧
      (l.connect "loop://" Port.ofName).result = .ok () ∧ (∀ op ∈ ops, op.IsExchange) ∧
      (start.operate ops).queue = [] ∧
      singleRead l.config "loop://" Port.ofName [0xed, 0xa0, 0x80, 0xe2, 0xc3, 0xa9] =
        .ok (start.heard ops) := by
  intro l ops start
  have utf8 : l.config.encoding = .utf8 := by decide +kernel
  have opens : (l.connect "loop://" Port.ofName).result = .ok () := by decide +kernel
  have exchange : ∀ op ∈ ops, op.IsExchange := by simp [ops, Operation.IsExchange]
  have empty : (start.operate ops).queue = [] := by decide +kernel
  obtain ⟨-, -, whole, -⟩ :=
    heard_eq_singleRead Port.opensEmpty_ofName utf8 opens ops exchange
  exact ⟨Port.opensEmpty_ofName, utf8, opens, exchange, empty, whole empty⟩

end SerialLink

end MotionEmulator
