import Mathlib.Data.List.Basic
import MotionEmulator.Proofs.Receiver.Stream
import MotionEmulator.ReadLoop

/-!
# The course of a read loop

A read loop without a source of its own is `Engaged` with the link that its device had at the
start. `Engaged.step` says what one step does to that: until the loop is over it stays engaged,
and once it is over the link is `Released`, disconnected and let go of. A cancelled loop releases
the link too (`Engaged.cancel`).

`Alone` are the states of a loop that nobody interferes with and for which pauses are time that
passes, with the pieces it has written to its device. `Alone.run_eq` and `Finishes.run_eq` connect
them to `ReadLoop.run`, whatever the number of steps that it is granted beyond those it needs.
-/

namespace MotionEmulator

namespace Link

theorem isConnected_disconnect (link : Link) : link.disconnect.state.isConnected = false := by
  cases link <;> rfl

end Link

namespace Device

/-- A device has let go of its link at a place, which is disconnected. -/
def Released (d : Device) (place : Nat) : Prop :=
  d.attached = none ∧ ∃ link, d.links[place]? = some link ∧ link.isConnected = false

variable {d : Device} {place : Nat} {link : Link}

theorem result_disconnect (d : Device) : d.disconnect.result = .ok () := by
  unfold disconnect
  split <;> rfl

theorem disconnect_attached (attached : d.attached = some place)
    (found : d.links[place]? = some link) :
    d.disconnect.state =
      { d with links := d.links.set place link.disconnect.state, attached := none } := by
  have current : d.link? = some link := by
    rw [link?, attached, Option.bind_some, found]
  unfold disconnect
  rw [attached, current]
  rfl

theorem released_disconnect (attached : d.attached = some place)
    (inside : place < d.links.length) : d.disconnect.state.Released place := by
  rw [disconnect_attached attached (List.getElem?_eq_getElem inside)]
  refine ⟨rfl, _, List.getElem?_set_self inside, ?_⟩
  exact Link.isConnected_disconnect _

/-- A write touches nothing but the receiver. -/
theorem state_write (d : Device) (chunk : Chunk) (time : Binary64) :
    (d.write chunk time).state =
      { d with receiver := (d.receiver.write chunk (clock time)).state } := rfl

end Device

namespace ReadLoop

/-- A loop drains the link that its device is attached to. -/
structure Engaged (d : Device) (place : Nat) (l : ReadLoop) : Prop where
  attached : d.attached = some place
  inside : place < d.links.length
  source : l.source = .link place
  owned : l.owned = true

variable {d d₀ : Device} {place : Nat} {l l₀ : ReadLoop} {time t₀ : Binary64}

theorem Engaged.cancel (engaged : Engaged d place l) : (l.cancel d).state.Released place := by
  rw [ReadLoop.cancel, release, if_pos engaged.owned]
  exact Device.released_disconnect engaged.attached engaged.inside

theorem result_release (d : Device) (l : ReadLoop) : (release d l).result = .ok () := by
  unfold release
  split
  · exact d.result_disconnect
  · rfl

/-- The question that a loop puts to its link changes nothing but the link. -/
theorem Engaged.ask (engaged : Engaged d place l) :
    ∃ (answer : Pull Chunk) (links : List Link) (phase : Phase) (asked : List Entry),
      l.ask d = (answer, { d with links }, { l with phase }, asked) ∧
        links.length = d.links.length := by
  unfold ReadLoop.ask
  rw [engaged.source]
  dsimp only
  rw [List.getElem?_eq_getElem engaged.inside]
  exact ⟨_, _, _, _, rfl, List.length_set⟩

/-- **A loop stays engaged until it is over, and then its link is released.** -/
theorem Engaged.step (engaged : Engaged d place l) (time : Binary64) :
    ((l.step d time).status = .running ∨ ∃ seconds, (l.step d time).status = .asleep seconds) ∧
        Engaged (l.step d time).device place (l.step d time).loop ∨
      (∃ result, (l.step d time).status = .over result) ∧
        (l.step d time).device.Released place := by
  obtain ⟨answer, links, phase, asked, eq, length⟩ := engaged.ask
  obtain ⟨attached, inside, source, owned⟩ := engaged
  rw [← length] at inside
  -- Whatever the receiver becomes, the device is left with its links.
  have still (receiver : Receiver) :
      Engaged { d with links, receiver } place { l with phase } :=
    ⟨attached, inside, source, owned⟩
  unfold ReadLoop.step
  rw [eq]
  cases answer with
  | pause seconds => exact .inl ⟨.inr ⟨seconds, rfl⟩, still d.receiver⟩
  | finished cause => exact .inr ⟨⟨_, rfl⟩, (still d.receiver).cancel⟩
  | chunk c =>
    dsimp only
    split
    · exact .inl ⟨.inl rfl, still _⟩
    · exact .inr ⟨⟨_, rfl⟩, (still _).cancel⟩

/-! ## Loops that run alone -/

/-- What a step writes to its device. -/
def writes (d : Device) (l : ReadLoop) (time : Binary64) : List Piece :=
  match (l.ask d).1 with
  | .chunk c => [⟨c, Device.clock time⟩]
  | _ => []

/-- What a loop that runs alone comes to, with the time of its next step and with the pieces that
it has written. -/
inductive Alone (d₀ : Device) (l₀ : ReadLoop) (t₀ : Binary64) :
    Device → ReadLoop → Binary64 → List Piece → Prop
  | start : Alone d₀ l₀ t₀ d₀ l₀ t₀ []
  | running {d : Device} {l : ReadLoop} {time : Binary64} {wrote : List Piece}
      (way : Alone d₀ l₀ t₀ d l time wrote) (status : (l.step d time).status = .running) :
      Alone d₀ l₀ t₀ (l.step d time).device (l.step d time).loop time (wrote ++ l.writes d time)
  | asleep {d : Device} {l : ReadLoop} {time seconds : Binary64} {wrote : List Piece}
      (way : Alone d₀ l₀ t₀ d l time wrote)
      (status : (l.step d time).status = .asleep seconds) :
      Alone d₀ l₀ t₀ (l.step d time).device (l.step d time).loop (afterPause time seconds)
        (wrote ++ l.writes d time)

/-- A loop that runs alone comes to its end, with a result, a device and the pieces that it has
written. -/
def Finishes (d₀ : Device) (l₀ : ReadLoop) (t₀ : Binary64) (result : Except Fault Unit)
    (last : Device) (wrote : List Piece) : Prop :=
  ∃ d l time before, Alone d₀ l₀ t₀ d l time before ∧
    (l.step d time).status = .over result ∧ (l.step d time).device = last ∧
    before ++ l.writes d time = wrote

/-- So many steps lead to a state, whatever follows. -/
theorem Alone.run_eq {wrote : List Piece} (way : Alone d₀ l₀ t₀ d l time wrote) :
    ∃ n made, ∀ fuel entries,
      run (n + fuel) d₀ l₀ t₀ entries = run fuel d l time (entries ++ made) := by
  induction way with
  | start => exact ⟨0, [], fun fuel entries => by rw [Nat.zero_add, List.append_nil]⟩
  | @running d l time _ _ status ih =>
    obtain ⟨n, made, eq⟩ := ih
    refine ⟨n + 1, made ++ (l.step d time).entries, fun fuel entries => ?_⟩
    rw [Nat.add_assoc, Nat.add_comm 1, eq, run, status, List.append_assoc]
  | @asleep d l time seconds _ _ status ih =>
    obtain ⟨n, made, eq⟩ := ih
    refine ⟨n + 1, made ++ (l.step d time).entries, fun fuel entries => ?_⟩
    rw [Nat.add_assoc, Nat.add_comm 1, eq, run, status, List.append_assoc]

/-- **A loop that comes to its end does so in every run that is long enough.** -/
theorem Finishes.run_eq {result : Except Fault Unit} {last : Device} {wrote : List Piece}
    (finishes : Finishes d₀ l₀ t₀ result last wrote) :
    ∃ n, ∀ fuel, n ≤ fuel →
      (run fuel d₀ l₀ t₀ []).result = result.map some ∧
        (run fuel d₀ l₀ t₀ []).state.1 = last := by
  obtain ⟨d, l, time, _, way, status, rfl, -⟩ := finishes
  obtain ⟨n, made, eq⟩ := way.run_eq
  refine ⟨n + 1, fun fuel enough => ?_⟩
  obtain ⟨more, rfl⟩ := Nat.exists_eq_add_of_le enough
  rw [Nat.add_assoc, Nat.add_comm 1, eq, run, status]
  exact ⟨rfl, rfl⟩

end ReadLoop

end MotionEmulator
