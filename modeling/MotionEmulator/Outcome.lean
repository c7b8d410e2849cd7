import MotionEmulator.Fault
import MotionEmulator.Journal

/-!
# Outcomes

An operation on a state of the emulator leaves three things: its result or the fault that
stopped it, the state as it is then, and the entries it made. A fault undoes nothing.
-/

namespace MotionEmulator

/-- What an operation leaves behind. -/
structure Outcome (σ α : Type) where
  result : Except Fault α
  state : σ
  entries : List Entry := []

namespace Outcome

variable {σ τ α β : Type}

/-- An operation that succeeds. -/
def done (state : σ) (value : α) (entries : List Entry := []) : Outcome σ α :=
  ⟨.ok value, state, entries⟩

/-- An operation that a fault stops. -/
def fault (state : σ) (cause : Fault) (entries : List Entry := []) : Outcome σ α :=
  ⟨.error cause, state, entries⟩

/-- The outcome with its state put into a larger one. -/
def within (f : σ → τ) (o : Outcome σ α) : Outcome τ α :=
  ⟨o.result, f o.state, o.entries⟩

/-- Goes on from a success; a fault ends everything. -/
def andThen (o : Outcome σ α) (next : σ → α → Outcome σ β) : Outcome σ β :=
  match o.result with
  | .error cause => ⟨.error cause, o.state, o.entries⟩
  | .ok value =>
    let later := next o.state value
    ⟨later.result, later.state, o.entries ++ later.entries⟩

/-! ## Laws -/

@[simp] theorem within_done (f : σ → τ) (state : σ) (value : α) (entries : List Entry) :
    (done state value entries).within f = done (f state) value entries := rfl

@[simp] theorem done_andThen (state : σ) (value : α) (next : σ → α → Outcome σ β) :
    (done state value).andThen next = next state value := rfl

/-- Two successes in a row are one, with the entries of both. -/
theorem done_andThen_of_eq {state : σ} {value : α} {entries : List Entry}
    {next : σ → α → Outcome σ β} {state' : σ} {value' : β} {later : List Entry}
    (h : next state value = done state' value' later) :
    (done state value entries).andThen next = done state' value' (entries ++ later) := by
  simp only [andThen, done] at h ⊢
  rw [h]

/-- What follows a success need only agree on the state that it left. -/
theorem andThen_congr {o : Outcome σ α} {next next' : σ → α → Outcome σ β}
    (h : ∀ value, next o.state value = next' o.state value) :
    o.andThen next = o.andThen next' := by
  unfold andThen
  simp only [h]

/-- What both operations keep, the two in a row keep, whether or not the second one is reached. -/
theorem andThen_keeps {kept : σ → Prop} {o : Outcome σ α} {next : σ → α → Outcome σ β}
    (first : kept o.state) (second : ∀ s value, kept s → kept (next s value).state) :
    kept (o.andThen next).state := by
  unfold andThen
  split
  · exact first
  · exact second _ _ first

theorem andThen_assoc {γ : Type} (o : Outcome σ α) (next : σ → α → Outcome σ β)
    (last : σ → β → Outcome σ γ) :
    (o.andThen next).andThen last = o.andThen fun s a => (next s a).andThen last := by
  rcases o with ⟨_ | value, state, entries⟩
  · rfl
  · unfold andThen
    dsimp only
    split <;> simp [*]

end Outcome

end MotionEmulator
