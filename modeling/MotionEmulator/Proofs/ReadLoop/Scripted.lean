import MotionEmulator.Proofs.Binary64.Order
import MotionEmulator.Proofs.ReadLoop.Course

/-!
# The course of a loop over a script

A loop that drains a fresh scripted link takes the chunks of the script in order, one interval
after the other, and writes each to its device at the time at which it takes it
(`ScriptedLink.deliveries`). `Plays` are all the states that it comes to alone (`Alone.plays`), so
at each of them what was delivered is a beginning of the script and is what the device was given.
The loop ends without a fault once it has taken all that the link lets it have,
`ScriptedLink.deliverable` (`Finishes.played`).
-/

namespace MotionEmulator

namespace ScriptedLink

/-- Nothing was taken from the link yet, and its interval is a finite number. A negative one is no
pause at all. -/
structure IsFresh (l : ScriptedLink) : Prop where
  delivered : l.delivered = []
  connected : l.connected = true
  finite : l.interval.IsFinite

/-- The time after a number of intervals. -/
def timeOf (l : ScriptedLink) (t₀ : Binary64) : Nat → Binary64
  | 0 => t₀
  | n + 1 => afterPause (l.timeOf t₀ n) l.interval

/-- The first chunks of the script as pieces, an interval apart. -/
def deliveries (l : ScriptedLink) (t₀ : Binary64) (chunks : List (List Char)) : List Piece :=
  chunks.mapIdx fun n c => ⟨.text c, Device.clock (l.timeOf t₀ n)⟩

/-- The chunks that the link delivers before it ends or breaks. -/
def deliverable (l : ScriptedLink) : List (List Char) :=
  match l.failAfter with
  | none => l.scripted
  | some n => l.scripted.take n.toNat

/-- The link with some of its chunks delivered. -/
def after (l : ScriptedLink) (done rest : List (List Char)) : ScriptedLink :=
  { l with scripted := rest, delivered := done }

variable {l : ScriptedLink} {c : List Char} {done rest : List (List Char)}

theorem deliveries_concat (l : ScriptedLink) (t₀ : Binary64) (done : List (List Char))
    (c : List Char) :
    l.deliveries t₀ (done ++ [c]) =
      l.deliveries t₀ done ++ [⟨.text c, Device.clock (l.timeOf t₀ done.length)⟩] :=
  List.mapIdx_concat

theorem pull_handed (l : ScriptedLink) :
    l.pull .handed = ⟨.pause l.interval, l, .looking, []⟩ := rfl

theorem pull_nil (l : ScriptedLink) (done : List (List Char)) :
    (l.after done []).pull .looking = ⟨.finished none, l.after done [], .looking, []⟩ := rfl

theorem pull_cons (connected : l.connected = true) :
    (l.after done (c :: rest)).pull .looking =
      if (l.after done (c :: rest)).isBroken then
        ⟨.finished (some .dropped), (l.after done (c :: rest)).disconnect, .looking, []⟩
      else ⟨.chunk c, l.after (done ++ [c]) rest, .handed, []⟩ := by
  unfold pull
  rw [if_neg Phase.noConfusion]
  change (if !l.connected then _ else _) = _
  rw [connected]
  rfl

/-- The number of delivered chunks that the link allows. -/
def Allows (l : ScriptedLink) (count : Nat) : Prop :=
  ∀ n, l.failAfter = some n → count ≤ n.toNat

theorem allows_zero (l : ScriptedLink) : l.Allows 0 :=
  fun _ _ => Nat.zero_le _

/-- A link that does not break allows one chunk more. -/
theorem Allows.succ (allows : l.Allows done.length)
    (whole : (l.after done rest).isBroken = false) : l.Allows (done.length + 1) := by
  intro n limited
  have within := allows n limited
  have below : ¬ n ≤ (done.length : Int) := by
    simpa [isBroken, after, limited] using whole
  omega

/-- A link that breaks has delivered all that it lets its reader have. -/
theorem Allows.eq_deliverable (allows : l.Allows done.length) (script : done ++ rest = l.scripted)
    (ended : rest = [] ∨ (l.after done rest).isBroken = true) : done = l.deliverable := by
  unfold deliverable
  cases limited : l.failAfter with
  | none =>
    rcases ended with rfl | broken
    · rw [← script, List.append_nil]
    · simp [isBroken, after, limited] at broken
  | some n =>
    have within := allows n limited
    rcases ended with rfl | broken
    · rw [List.append_nil] at script
      rw [← script]
      exact (List.take_of_length_le within).symm
    · have reached : n ≤ (done.length : Int) := by
        simpa [isBroken, after, limited] using broken
      have length : done.length = n.toNat := by omega
      change done = l.scripted.take n.toNat
      rw [← script, ← length, List.take_left]

end ScriptedLink

/-- The device with its link at a place as it is after a loop, and with what the loop wrote. -/
def Device.drained (d : Device) (place : Nat) (link : ScriptedLink) (wrote : List Piece) :
    Device :=
  { d with
    links := d.links.set place (.scripted link)
    receiver := (d.receiver.writeAll wrote).state }

namespace ReadLoop

/-- A device with sound axes and with a fresh script as its link. -/
structure Scripted (d₀ : Device) (place : Nat) (link : ScriptedLink) : Prop where
  attached : d₀.attached = some place
  found : d₀.links[place]? = some (.scripted link)
  fresh : link.IsFresh
  sound : d₀.receiver.Sound

theorem Scripted.inside {d₀ : Device} {place : Nat} {link : ScriptedLink}
    (scripted : Scripted d₀ place link) : place < d₀.links.length :=
  (List.getElem?_eq_some_iff.1 scripted.found).1

/-- The loop over the link at a place. -/
def ofLink (place : Nat) (phase : Phase) : ReadLoop :=
  { source := .link place, owned := true, phase }

/-- What a loop over a fresh script comes to. -/
inductive Plays (d₀ : Device) (place : Nat) (link : ScriptedLink) (t₀ : Binary64) :
    Device → ReadLoop → Binary64 → List Piece → Prop
  | looking {done rest : List (List Char)} (script : done ++ rest = link.scripted)
      (allows : link.Allows done.length) :
      Plays d₀ place link t₀
        (d₀.drained place (link.after done rest) (link.deliveries t₀ done))
        (ofLink place .looking) (link.timeOf t₀ done.length) (link.deliveries t₀ done)
  | handed {done rest : List (List Char)} {c : List Char}
      (script : done ++ [c] ++ rest = link.scripted) (allows : link.Allows (done ++ [c]).length) :
      Plays d₀ place link t₀
        (d₀.drained place (link.after (done ++ [c]) rest) (link.deliveries t₀ (done ++ [c])))
        (ofLink place .handed) (link.timeOf t₀ done.length) (link.deliveries t₀ (done ++ [c]))

/-- What a loop over a fresh script leaves of its device once it is over. -/
def Played (d₀ : Device) (place : Nat) (link : ScriptedLink) (t₀ : Binary64)
    (done : List (List Char)) (d : Device) : Prop :=
  ∃ rest, done ++ rest = link.scripted ∧
    d = { d₀.drained place (link.after done rest).disconnect (link.deliveries t₀ done) with
      attached := none }

section Course

variable {d₀ d : Device} {place : Nat} {link : ScriptedLink} {t₀ time : Binary64} {l : ReadLoop}
  {wrote : List Piece}

/-- What a loop asks of a scripted link. -/
theorem ask_drained (inside : place < d₀.links.length) (link : ScriptedLink)
    (wrote : List Piece) (phase : Phase) :
    (ofLink place phase).ask (d₀.drained place link wrote) =
      (match (link.pull phase).pull with
        | .chunk c => .chunk (.text c)
        | .pause seconds => .pause seconds
        | .finished cause => .finished cause,
        d₀.drained place (link.pull phase).source wrote, ofLink place (link.pull phase).phase,
        (link.pull phase).entries) := by
  have found : (d₀.drained place link wrote).links[place]? = some (.scripted link) :=
    List.getElem?_set_self inside
  unfold ask ofLink
  dsimp only
  rw [found]
  have same : ∀ pulled, { d₀.drained place link wrote with
      links := (d₀.drained place link wrote).links.set place pulled } =
        { d₀.drained place link wrote with links := d₀.links.set place pulled } := by
    intro pulled
    rw [Device.drained, List.set_set]
  exact Prod.ext rfl (Prod.ext (same _) rfl)

theorem released_drained (inside : place < d₀.links.length) (attached : d₀.attached = some place)
    (link : ScriptedLink) (wrote : List Piece) (phase : Phase) :
    (release (d₀.drained place link wrote) (ofLink place phase)).state =
      { d₀.drained place link.disconnect wrote with attached := none } := by
  have found : (d₀.drained place link wrote).links[place]? = some (.scripted link) :=
    List.getElem?_set_self inside
  change (d₀.drained place link wrote).disconnect.state = _
  rw [Device.disconnect_attached (d := d₀.drained place link wrote) attached found]
  unfold Device.drained
  dsimp only [Link.disconnect, Outcome.done]
  rw [List.set_set]

/-- **One step of a loop over a fresh script.** -/
theorem Plays.step (plays : Plays d₀ place link t₀ d l time wrote)
    (scripted : Scripted d₀ place link) :
    ((l.step d time).status = .running ∧
        Plays d₀ place link t₀ (l.step d time).device (l.step d time).loop time
          (wrote ++ l.writes d time)) ∨
      ((l.step d time).status = .asleep link.interval ∧
        Plays d₀ place link t₀ (l.step d time).device (l.step d time).loop
          (afterPause time link.interval) (wrote ++ l.writes d time)) ∨
      ((l.step d time).status = .over (.ok ()) ∧
        Played d₀ place link t₀ link.deliverable (l.step d time).device ∧
        wrote ++ l.writes d time = link.deliveries t₀ link.deliverable) := by
  have inside := scripted.inside
  have attached := scripted.attached
  cases plays with
  | @looking done rest script allows =>
    -- Whatever ends the stream, the loop lets go of the link, which no longer delivers.
    have ends {rest : List (List Char)} (script : done ++ rest = link.scripted)
        (ended : rest = [] ∨ (link.after done rest).isBroken = true) :
        Played d₀ place link t₀ link.deliverable
            { d₀.drained place (link.after done rest).disconnect (link.deliveries t₀ done) with
              attached := none } ∧
          link.deliveries t₀ done = link.deliveries t₀ link.deliverable := by
      have all := allows.eq_deliverable script ended
      rw [← all]
      exact ⟨⟨rest, script, rfl⟩, rfl⟩
    cases rest with
    | nil =>
      have asks := ask_drained inside (link.after done []) (link.deliveries t₀ done) .looking
      rw [ScriptedLink.pull_nil] at asks
      refine .inr (.inr ?_)
      unfold ReadLoop.step writes
      rw [asks, List.append_nil]
      dsimp only
      rw [released_drained inside attached]
      exact ⟨rfl, ends script (.inl rfl)⟩
    | cons c rest =>
      have asks := ask_drained inside (link.after done (c :: rest)) (link.deliveries t₀ done)
        .looking
      rw [ScriptedLink.pull_cons scripted.fresh.connected] at asks
      cases broken : (link.after done (c :: rest)).isBroken with
      | true =>
        rw [broken, if_pos rfl] at asks
        refine .inr (.inr ?_)
        unfold ReadLoop.step writes
        rw [asks, List.append_nil]
        dsimp only
        rw [released_drained inside attached]
        exact ⟨rfl, ends script (.inr broken)⟩
      | false =>
        rw [broken, if_neg Bool.false_ne_true] at asks
        refine .inl ?_
        have script' : done ++ [c] ++ rest = link.scripted := by
          rw [List.append_assoc, List.singleton_append, script]
        have allows' : link.Allows (done ++ [c]).length := by
          rw [List.length_append]
          exact allows.succ broken
        have later : Plays d₀ place link t₀ _ _ _ _ := .handed script' allows'
        rw [ScriptedLink.deliveries_concat] at later
        obtain ⟨written, state⟩ := scripted.sound.write_last (link.deliveries t₀ done)
          ⟨.text c, Device.clock (link.timeOf t₀ done.length)⟩
        have result : ((d₀.drained place (link.after (done ++ [c]) rest)
            (link.deliveries t₀ done)).write (.text c) (link.timeOf t₀ done.length)).result =
              .ok () := written
        unfold ReadLoop.step writes
        rw [asks]
        dsimp only
        rw [result, Device.state_write]
        unfold Device.drained at later ⊢
        dsimp only at later ⊢
        rw [← state] at later
        exact ⟨rfl, later⟩
  | @handed done rest c script allows =>
    have asks := ask_drained inside (link.after (done ++ [c]) rest)
      (link.deliveries t₀ (done ++ [c])) .handed
    rw [ScriptedLink.pull_handed] at asks
    refine .inr (.inl ?_)
    unfold ReadLoop.step writes
    rw [asks, List.append_nil]
    refine ⟨rfl, ?_⟩
    have later : Plays d₀ place link t₀ _ _ _ _ := .looking script allows
    rw [List.length_append, List.length_singleton] at later
    exact later

theorem Scripted.plays (scripted : Scripted d₀ place link) (t₀ : Binary64) :
    Plays d₀ place link t₀ d₀ (ofLink place .looking) t₀ [] := by
  have whole : link.after [] link.scripted = link := by
    rw [ScriptedLink.after, ← scripted.fresh.delivered]
  have same : d₀.drained place (link.after [] link.scripted) [] = d₀ := by
    obtain ⟨inside, at'⟩ := List.getElem?_eq_some_iff.1 scripted.found
    rw [whole, Device.drained, ← at', List.set_getElem_self]
    rfl
  have start : Plays d₀ place link t₀ (d₀.drained place (link.after [] link.scripted) [])
      (ofLink place .looking) t₀ [] :=
    .looking rfl link.allows_zero
  rwa [same] at start

/-- **A loop over a fresh script that runs alone comes to nothing else.** -/
theorem Alone.plays (scripted : Scripted d₀ place link)
    (way : Alone d₀ (ofLink place .looking) t₀ d l time wrote) :
    Plays d₀ place link t₀ d l time wrote := by
  induction way with
  | start => exact scripted.plays t₀
  | running _ status ih =>
    rcases ih.step scripted with ⟨-, later⟩ | ⟨asleep, -⟩ | ⟨ended, -⟩
    · exact later
    · cases status.symm.trans asleep
    · cases status.symm.trans ended
  | asleep _ status ih =>
    rcases ih.step scripted with ⟨running, -⟩ | ⟨asleep, later⟩ | ⟨ended, -⟩
    · cases status.symm.trans running
    · cases status.symm.trans asleep
      exact later
    · cases status.symm.trans ended

/-- **A loop over a fresh script ends without a fault, with all that can be delivered written.** -/
theorem Finishes.played (scripted : Scripted d₀ place link) {result : Except Fault Unit}
    (finishes : Finishes d₀ (ofLink place .looking) t₀ result d wrote) :
    result = .ok () ∧ Played d₀ place link t₀ link.deliverable d ∧
      wrote = link.deliveries t₀ link.deliverable := by
  obtain ⟨d', l, time, before, way, status, rfl, rfl⟩ := finishes
  rcases (way.plays scripted).step scripted with ⟨running, -⟩ | ⟨asleep, -⟩ | ⟨ended, played, all⟩
  · cases status.symm.trans running
  · cases status.symm.trans asleep
  · cases status.symm.trans ended
    exact ⟨rfl, played, all⟩

/-- The pause of a loop over a fresh script is the interval of its link. -/
theorem Alone.seconds_eq (scripted : Scripted d₀ place link)
    (way : Alone d₀ (ofLink place .looking) t₀ d l time wrote) {seconds : Binary64}
    (status : (l.step d time).status = .asleep seconds) : seconds = link.interval := by
  rcases (way.plays scripted).step scripted with ⟨running, -⟩ | ⟨asleep, -⟩ | ⟨ended, -⟩
  · cases status.symm.trans running
  · cases status.symm.trans asleep
    rfl
  · cases status.symm.trans ended

/-- What was written to a device are the chunks that its link counts as delivered, an interval
apart, and these are a beginning of the script. -/
structure Relayed (d₀ d : Device) (place : Nat) (link : ScriptedLink) (t₀ : Binary64)
    (wrote : List Piece) : Prop where
  link : ∃ l : ScriptedLink, d.links[place]? = some (.scripted l) ∧
    l.delivered ++ l.scripted = link.scripted ∧ wrote = link.deliveries t₀ l.delivered
  receiver : d.receiver = (d₀.receiver.writeAll wrote).state

theorem Plays.relayed (plays : Plays d₀ place link t₀ d l time wrote)
    (inside : place < d₀.links.length) : Relayed d₀ d place link t₀ wrote := by
  cases plays with
  | looking script => exact ⟨⟨_, List.getElem?_set_self inside, script, rfl⟩, rfl⟩
  | handed script => exact ⟨⟨_, List.getElem?_set_self inside, script, rfl⟩, rfl⟩

theorem Played.relayed {done : List (List Char)} (played : Played d₀ place link t₀ done d)
    (inside : place < d₀.links.length) :
    Relayed d₀ d place link t₀ (link.deliveries t₀ done) := by
  obtain ⟨rest, script, rfl⟩ := played
  exact ⟨⟨_, List.getElem?_set_self inside, script, rfl⟩, rfl⟩

/-- Cancelling a loop takes back nothing that it has written and loses nothing that it has taken. -/
theorem Plays.relayed_cancel (plays : Plays d₀ place link t₀ d l time wrote)
    (scripted : Scripted d₀ place link) :
    Relayed d₀ (l.cancel d).state place link t₀ wrote := by
  have inside := scripted.inside
  cases plays with
  | @looking done rest script =>
    have played : Played d₀ place link t₀ done (cancel _ (ofLink place .looking)).state :=
      ⟨rest, script, released_drained inside scripted.attached _ _ _⟩
    exact played.relayed inside
  | @handed done rest c script =>
    have played : Played d₀ place link t₀ (done ++ [c]) (cancel _ (ofLink place .handed)).state :=
      ⟨rest, script, released_drained inside scripted.attached _ _ _⟩
    exact played.relayed inside

/-- A device is left as its loop leaves it when it runs alone, with all that its link delivers
written to it. -/
structure AsAlone (d₀ d : Device) (place : Nat) (link : ScriptedLink) (time : Binary64)
    (wrote : List Piece) : Prop where
  all : wrote = link.deliveries time link.deliverable
  played : Played d₀ place link time link.deliverable d
  alone : ∃ steps, ∀ fuel, steps ≤ fuel → (d₀.readLoop none fuel time).result = .ok (some ()) ∧
    (d₀.readLoop none fuel time).state.1 = d

theorem readLoop_eq (attached : d₀.attached = some place) (fuel : Nat) (time : Binary64) :
    d₀.readLoop none fuel time = (ofLink place .looking).run fuel d₀ time [] := by
  unfold Device.readLoop ReadLoop.start
  rw [attached]
  rfl

theorem Finishes.asAlone {result : Except Fault Unit}
    (finishes : Finishes d₀ (ofLink place .looking) time result d wrote)
    (scripted : Scripted d₀ place link) : AsAlone d₀ d place link time wrote := by
  obtain ⟨rfl, played, all⟩ := finishes.played scripted
  obtain ⟨steps, eq⟩ := finishes.run_eq
  refine ⟨all, played, steps, fun fuel enough => ?_⟩
  rw [readLoop_eq scripted.attached]
  exact eq fuel enough

end Course

end ReadLoop

end MotionEmulator
