import MotionEmulator.Proofs.Binary64.Order
import MotionEmulator.Proofs.Link.Conservation

/-!
# What sources bring

`Brings` relates a source to the chunks that a reader gets of it from a time on, each with the time
at which it comes, and to the fault at their end if there is one. It has one rule for each answer of
a source and none for how many questions are allowed, so a source that brings anything also comes to
its end.

A sequence brings all its chunks, after the delays before each (`Sequence.brings`). A scripted link
brings what remains of its script until it breaks or is found disconnected, an interval apart
(`ScriptedLink.brings`).
-/

namespace MotionEmulator

section

variable {σ α : Type}

/-- What a source in a phase brings from a time on, how it ends, and what is then left of it. -/
inductive Brings (pull : σ → Phase → Pulled σ α) :
    σ → Phase → Binary64 → List (Binary64 × α) → Option Fault → σ → Prop
  | finished {source last : σ} {phase next : Phase} {time : Binary64} {cause : Option Fault}
      (answer : pull source phase = ⟨.finished cause, last, next, []⟩) :
      Brings pull source phase time [] cause last
  | pause {source source' last : σ} {phase phase' : Phase} {time seconds : Binary64}
      {arrivals : List (Binary64 × α)} {cause : Option Fault}
      (answer : pull source phase = ⟨.pause seconds, source', phase', []⟩)
      (later : Brings pull source' phase' (afterPause time seconds) arrivals cause last) :
      Brings pull source phase time arrivals cause last
  | chunk {source source' last : σ} {phase phase' : Phase} {time : Binary64} {c : α}
      {arrivals : List (Binary64 × α)} {cause : Option Fault}
      (answer : pull source phase = ⟨.chunk c, source', phase', []⟩)
      (later : Brings pull source' phase' time arrivals cause last) :
      Brings pull source phase time ((time, c) :: arrivals) cause last

/-- Two phases in which a source answers alike are as good as each other. -/
theorem Brings.of_pull_eq {pull : σ → Phase → Pulled σ α} {source last : σ} {phase phase' : Phase}
    {time : Binary64} {arrivals : List (Binary64 × α)} {cause : Option Fault}
    (same : pull source phase' = pull source phase)
    (brings : Brings pull source phase time arrivals cause last) :
    Brings pull source phase' time arrivals cause last := by
  cases brings with
  | finished answer => exact .finished (same.trans answer)
  | pause answer later => exact .pause (same.trans answer) later
  | chunk answer later => exact .chunk (same.trans answer) later

end

/-! ## Sequences -/

namespace Sequence

variable {α : Type}

/-- Chunks with their times, if each comes after its own pauses. -/
def timed : List (List Binary64) → List α → Binary64 → List (Binary64 × α)
  | _, [], _ => []
  | delays, c :: rest, time =>
    let now := (delays.headD []).foldl afterPause time
    (now, c) :: timed delays.tail rest now

/-- The chunks of a sequence with the times at which they come. -/
def arrivals (s : Sequence α) (time : Binary64) : List (Binary64 × α) :=
  timed s.delays s.chunks time

/-- Pauses come first, one after the other. -/
theorem brings_after_pauses (s : Sequence α) {last : Sequence α} {pauses : List Binary64}
    {later : List (List Binary64)} {time : Binary64} {arrivals : List (Binary64 × α)}
    {cause : Option Fault}
    (brings : Brings pull { s with delays := [] :: later } .looking
      (pauses.foldl afterPause time) arrivals cause last) :
    Brings pull { s with delays := pauses :: later } .looking time arrivals cause last := by
  induction pauses generalizing time with
  | nil => exact brings
  | cons seconds more ih => exact .pause rfl (ih brings)

/-- Letting others run takes no time. -/
theorem brings_handed {s last : Sequence α} {time : Binary64} {arrivals : List (Binary64 × α)}
    {cause : Option Fault} (brings : Brings pull s .looking time arrivals cause last) :
    Brings pull s .handed time arrivals cause last := by
  cases yielding : s.yielding with
  | true =>
    have answer : s.pull .handed = ⟨.pause 0, s, .looking, []⟩ := if_pos ⟨rfl, yielding⟩
    have still : afterPause time 0 = time := afterPause_of_le_zero (by decide +kernel)
    rw [← still] at brings
    exact .pause answer brings
  | false =>
    have same : s.pull .handed = s.pull .looking := by
      unfold pull
      rw [if_neg (by simp [yielding]), if_neg (by simp)]
    exact brings.of_pull_eq same

/-- **What a sequence brings.** -/
theorem brings (s : Sequence α) (time : Binary64) :
    ∃ last, Brings pull s .looking time (s.arrivals time) s.failure last := by
  obtain ⟨chunks, failure, yielding, delays⟩ := s
  unfold arrivals
  dsimp only
  induction chunks generalizing delays time with
  | nil =>
    cases delays with
    | nil => exact ⟨_, .finished rfl⟩
    | cons pauses later =>
      exact ⟨_, brings_after_pauses ⟨[], failure, yielding, []⟩ (.finished rfl)⟩
  | cons c rest ih =>
    obtain ⟨last, brings⟩ := ih ((delays.headD []).foldl afterPause time) delays.tail
    cases delays with
    | nil => exact ⟨last, .chunk rfl (brings_handed brings)⟩
    | cons pauses later =>
      exact ⟨last, brings_after_pauses ⟨c :: rest, failure, yielding, []⟩
        (.chunk rfl (brings_handed brings))⟩

end Sequence

/-! ## Scripted links -/

namespace ScriptedLink

/-- Chunks with their times, if each but the first comes an interval after the one before. -/
def spaced (interval : Binary64) : List (List Char) → Binary64 → List (Binary64 × List Char)
  | [], _ => []
  | c :: rest, time => (time, c) :: spaced interval rest (afterPause time interval)

/-- The chunks that a reader still gets of a link. -/
def remaining (l : ScriptedLink) : List (List Char) :=
  if l.connected then
    match l.failAfter with
    | none => l.scripted
    | some limit => l.scripted.take (limit - l.delivered.length).toNat
  else []

/-- The chunks that a link still delivers, with the times at which they come. -/
def arrivals (l : ScriptedLink) (time : Binary64) : List (Binary64 × List Char) :=
  spaced l.interval l.remaining time

/-- How the stream of a link ends: it breaks before the first chunk that it may not deliver. -/
def fate (l : ScriptedLink) : Option Fault :=
  if l.connected ∧ l.remaining.length < l.scripted.length then some .dropped else none

variable {l : ScriptedLink}

/-! A reader who asks on finds that the link is spent, breaks or delivers (`Answers`). -/

theorem remaining_of_spent (spent : l.Spent) : l.remaining = [] := by
  unfold remaining
  rcases spent with script | apart
  · rw [script]
    split
    · split
      · rfl
      · exact List.take_nil
    · rfl
  · rw [apart]
    rfl

theorem fate_of_spent (spent : l.Spent) : l.fate = none := by
  refine if_neg ?_
  rintro ⟨connected, less⟩
  rcases spent with script | apart
  · rw [script] at less
    exact Nat.not_lt_zero _ less
  · cases apart.symm.trans connected

theorem remaining_of_breaks (breaks : l.Breaks) : l.remaining = [] := by
  obtain ⟨connected, -, limit, set, reached⟩ := breaks
  unfold remaining
  rw [if_pos connected, set]
  dsimp only
  rw [Int.toNat_eq_zero.2 (by omega), List.take_zero]

theorem fate_of_breaks (breaks : l.Breaks) : l.fate = some .dropped := by
  refine if_pos ⟨breaks.1, ?_⟩
  rw [remaining_of_breaks breaks]
  exact List.length_pos_iff.2 breaks.2.1

section

variable {c : List Char} {rest : List (List Char)}

theorem remaining_of_delivers (script : l.scripted = c :: rest) (connected : l.connected = true)
    (whole : l.isBroken = false) :
    l.remaining = c :: remaining { l with scripted := rest, delivered := l.delivered ++ [c] } := by
  unfold remaining
  dsimp only
  rw [if_pos connected, if_pos connected]
  cases set : l.failAfter with
  | none => exact script
  | some limit =>
    have below := length_delivered_lt whole set
    have more : (limit - l.delivered.length).toNat =
        (limit - (l.delivered ++ [c]).length).toNat + 1 := by
      rw [List.length_append, List.length_singleton]
      omega
    dsimp only
    rw [script, more, List.take_succ_cons]

theorem fate_of_delivers (script : l.scripted = c :: rest) (connected : l.connected = true)
    (whole : l.isBroken = false) :
    l.fate = fate { l with scripted := rest, delivered := l.delivered ++ [c] } := by
  unfold fate
  rw [remaining_of_delivers script connected whole, script, List.length_cons, List.length_cons]
  simp only [Nat.add_lt_add_iff_right]

end

/-- **What a scripted link brings.** -/
theorem brings (l : ScriptedLink) (time : Binary64) :
    ∃ last, Brings pull l .looking time (l.arrivals time) l.fate last := by
  unfold arrivals
  have answer := l.answers_pull .looking
  generalize asked : l.pull .looking = p at answer
  cases answer with
  | ends _ spent =>
    rw [remaining_of_spent spent, fate_of_spent spent]
    exact ⟨l, .finished asked⟩
  | breaks _ breaks =>
    rw [remaining_of_breaks breaks, fate_of_breaks breaks]
    exact ⟨l.disconnect, .finished asked⟩
  | @delivers _ c rest _ script connected whole =>
    obtain ⟨last, later⟩ := brings { l with scripted := rest, delivered := l.delivered ++ [c] }
      (afterPause time l.interval)
    rw [remaining_of_delivers script connected whole, fate_of_delivers script connected whole]
    exact ⟨last, .chunk asked (.pause rfl later)⟩
termination_by l.scripted.length
decreasing_by
  rw [script]
  exact Nat.lt_succ_self _

end ScriptedLink

end MotionEmulator
