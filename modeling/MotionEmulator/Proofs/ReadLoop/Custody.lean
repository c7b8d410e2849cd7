import MotionEmulator.Proofs.Link.Conservation
import MotionEmulator.Proofs.Link.Operations
import MotionEmulator.Proofs.ReadLoop.Course

/-!
# The custody of a link

A read loop without a source of its own is `Bound` to the link that its device had at the start,
whatever becomes of the device. `Meanwhile` are the turns of the loop with all that may be done to
its device between them, in any order, and `Ends` are the ways in which the loop comes to its end.

`Custody` is what a loop owes its device then: the link that it drained is disconnected, and another
link that the device has been given is left alone. But the loop lets go of the link that its device
has at the end (`Ends.asked`), so it keeps `Custody` just if the device has no other link then and,
if it has none at all, the drained link is disconnected already (`custody_iff`).
-/

namespace MotionEmulator

/-- No question connects a link. -/
theorem Link.isConnected_pull {link : Link} (apart : link.isConnected = false) (phase : Phase) :
    (link.pull phase).source.isConnected = false := by
  cases link with
  | scripted l =>
    change (l.pull phase).source.connected = false
    have answers := l.answers_pull phase
    generalize l.pull phase = p at answers
    cases answers with
    | rests | ends => exact apart
    | breaks => rfl
    | delivers _ _ connected => cases apart.symm.trans connected
  | serial l =>
    have read : l.read.state.connected = false := by
      rw [SerialLink.read_of_apart fun joined => by cases apart.symm.trans joined.1]
      exact apart
    change (l.pull phase).source.connected = false
    unfold SerialLink.pull
    cases phase with
    | due =>
      dsimp only
      split <;> exact read
    | looking | handed =>
      dsimp only
      split <;> exact apart

namespace Device

variable {d d' : Device} {place : Nat}

theorem attached_disconnect (d : Device) : d.disconnect.state.attached = none := by
  unfold disconnect
  split <;> rfl

/-- Only the current link is disconnected. -/
theorem links_disconnect (d : Device) (i : Nat) :
    d.disconnect.state.links[i]? =
      if d.attached = some i then d.links[i]?.map (·.disconnect.state) else d.links[i]? := by
  unfold disconnect link?
  cases attached : d.attached with
  | none => rfl
  | some j =>
    rw [Option.bind_some]
    cases found : d.links[j]? with
    | none =>
      change d.links[i]? = _
      split
      · next same =>
        cases same
        rw [found]
        rfl
      · rfl
    | some link =>
      change (d.links.set j link.disconnect.state)[i]? = _
      rw [List.getElem?_set]
      by_cases same : j = i
      · subst same
        have inside : j < d.links.length := (List.getElem?_eq_some_iff.1 found).1
        rw [if_pos rfl, if_pos inside, if_pos rfl, found]
        rfl
      · rw [if_neg same, if_neg fun eq => same (Option.some.inj eq)]

theorem length_disconnect (d : Device) : d.disconnect.state.links.length = d.links.length := by
  unfold disconnect
  split
  · exact List.length_set
  · rfl

/-- A device keeps its current link, or the lack of one, and no link is connected that was not. -/
structure Spares (d d' : Device) : Prop where
  attached : d'.attached = d.attached
  length : d'.links.length = d.links.length
  idle : ∀ (i : Nat) (link : Link), d.links[i]? = some link → link.isConnected = false →
    ∃ link' : Link, d'.links[i]? = some link' ∧ link'.isConnected = false

theorem Spares.released (spares : d.Spares d') (released : d.Released place) :
    d'.Released place := by
  obtain ⟨none, link, found, apart⟩ := released
  exact ⟨spares.attached.trans none, spares.idle place link found apart⟩

/-- A device that has no link has none to disconnect. -/
theorem Released.disconnect (released : d.Released place) :
    d.disconnect.state.Released place := by
  obtain ⟨none, link, found, apart⟩ := released
  refine ⟨d.attached_disconnect, link, ?_, apart⟩
  rw [links_disconnect, if_neg (by simp [none])]
  exact found

end Device

namespace ReadLoop

/-- What may be done to a device while a loop drains one of its links. -/
inductive Deed where
  | attach (link : Link)
  /-- A link that the device has had before is made the current one again. -/
  | reattach (place : Nat)
  | connect (port : String) (opener : Port.Opener)
  | disconnect

/-- A deed. An attempt to connect may fail, and no place beyond the device's links can be meant. -/
def Deed.on (d : Device) : Deed → Device
  | attach link => d.attach link
  | reattach place => if place < d.links.length then { d with attached := some place } else d
  | connect port opener => (d.connect port opener).state
  | disconnect => d.disconnect.state

/-- A deed that means to give the device another link than the one at a place. -/
def Deed.Swaps (place : Nat) : Deed → Prop
  | attach _ | connect _ _ => True
  | reattach other => other ≠ place
  | disconnect => False

/-- The turns of a loop that goes on, with the deeds between them and with all that may befall the
links. -/
inductive Meanwhile (d₀ : Device) (l₀ : ReadLoop) : List Deed → Device → ReadLoop → Prop
  | start : Meanwhile d₀ l₀ [] d₀ l₀
  | turn {deeds : List Deed} {d : Device} {l : ReadLoop} (way : Meanwhile d₀ l₀ deeds d l)
      (time : Binary64) (goes : ∀ result, (l.step d time).status ≠ .over result) :
      Meanwhile d₀ l₀ deeds (l.step d time).device (l.step d time).loop
  | deed {deeds : List Deed} {d : Device} {l : ReadLoop} (way : Meanwhile d₀ l₀ deeds d l)
      (deed : Deed) : Meanwhile d₀ l₀ (deeds ++ [deed]) (deed.on d) l
  | befalls {deeds : List Deed} {d d' : Device} {l : ReadLoop} (way : Meanwhile d₀ l₀ deeds d l)
      (spares : d.Spares d') : Meanwhile d₀ l₀ deeds d' l

/-- The end of a loop, by itself or by cancellation, with the device that it leaves. -/
inductive Ends (d : Device) (l : ReadLoop) : Device → Prop
  | stopped {time : Binary64} {result : Except Fault Unit}
      (stops : (l.step d time).status = .over result) : Ends d l (l.step d time).device
  | cancelled : Ends d l (l.cancel d).state

/-- What a loop that ends owes its device: the link that it drained is disconnected, and another
one that the device has in its place stays with the device as it is. -/
structure Custody (place : Nat) (d d' : Device) : Prop where
  drained : ∃ link, d'.links[place]? = some link ∧ link.isConnected = false
  others : ∀ other, other ≠ place → d.attached = some other →
    d'.attached = some other ∧ d'.links[other]? = d.links[other]?

/-- A loop drains a link of its device and was not given it. -/
structure Bound (d : Device) (place : Nat) (l : ReadLoop) : Prop where
  inside : place < d.links.length
  source : l.source = .link place
  owned : l.owned = true

/-- No link of a device has been asked but the one at a place. -/
structure Asked (place : Nat) (d d' : Device) : Prop extends d.Spares d' where
  others : ∀ i, i ≠ place → d'.links[i]? = d.links[i]?

variable {d d' d₀ : Device} {place : Nat} {l l₀ : ReadLoop} {deeds : List Deed}

theorem Asked.refl (place : Nat) (d : Device) : Asked place d d :=
  ⟨⟨rfl, rfl, fun _ link found apart => ⟨link, found, apart⟩⟩, fun _ _ => rfl⟩

/-! ## One turn -/

theorem Bound.ask (bound : Bound d place l) :
    ∃ answer links phase asked, l.ask d = (answer, { d with links }, { l with phase }, asked) ∧
      ∀ receiver, Asked place d { d with links, receiver } := by
  obtain ⟨inside, source, -⟩ := bound
  have found := List.getElem?_eq_getElem inside
  generalize d.links[place] = link at found
  unfold ReadLoop.ask
  rw [source]
  dsimp only
  rw [found]
  refine ⟨_, _, _, _, rfl, fun receiver => ⟨⟨rfl, List.length_set, ?_⟩, ?_⟩⟩
  · intro i link' found' apart
    by_cases same : place = i
    · subst same
      cases found.symm.trans found'
      exact ⟨_, List.getElem?_set_self inside, link.isConnected_pull apart l.phase⟩
    · exact ⟨link', (List.getElem?_set_ne same).trans found', apart⟩
  · intro i other
    exact List.getElem?_set_ne other.symm

/-- **A turn of a loop asks the link that it is bound to.** If it is the last one, the device's
current link, whichever it is, is then disconnected and let go of. -/
theorem Bound.step (bound : Bound d place l) (time : Binary64) :
    ∃ d₁, Asked place d d₁ ∧
      ((∀ result, (l.step d time).status ≠ .over result) ∧ (l.step d time).device = d₁ ∧
          Bound d₁ place (l.step d time).loop ∨
        (∃ result, (l.step d time).status = .over result) ∧
          (l.step d time).device = d₁.disconnect.state) := by
  obtain ⟨answer, links, phase, entries, eq, asked⟩ := bound.ask
  obtain ⟨inside, source, owned⟩ := bound
  -- What is left, whatever the receiver becomes, if the loop goes on and if it ends.
  have still (receiver : Receiver) :
      Bound { d with links, receiver } place { l with phase } :=
    ⟨(asked receiver).length ▸ inside, source, owned⟩
  have lets (receiver : Receiver) :
      (release { d with links, receiver } { l with phase }).state =
        ({ d with links, receiver } : Device).disconnect.state := by
    rw [release, if_pos owned]
  unfold ReadLoop.step
  rw [eq]
  cases answer with
  | pause seconds =>
    refine ⟨_, asked d.receiver, .inl ⟨?_, rfl, still d.receiver⟩⟩
    rintro _ ⟨⟩
  | finished cause => exact ⟨_, asked d.receiver, .inr ⟨⟨_, rfl⟩, lets d.receiver⟩⟩
  | chunk c =>
    dsimp only
    split
    · refine ⟨_, asked _, .inl ⟨?_, rfl, still _⟩⟩
      rintro _ ⟨⟩
    · exact ⟨_, asked _, .inr ⟨⟨_, rfl⟩, lets _⟩⟩

/-- **However a loop ends, it lets go of the current link of its device.** -/
theorem Ends.asked (bound : Bound d place l) (ends : Ends d l d') :
    ∃ d₁, Asked place d d₁ ∧ d' = d₁.disconnect.state := by
  cases ends with
  | cancelled =>
    refine ⟨d, .refl place d, ?_⟩
    rw [ReadLoop.cancel, release, if_pos bound.owned]
  | @stopped time result stops =>
    obtain ⟨d₁, asked, ⟨goes, -⟩ | ⟨-, last⟩⟩ := bound.step time
    · exact absurd stops (goes result)
    · exact ⟨d₁, asked, last⟩

/-! ## Until the end -/

/-- A loop that is given no source is bound to the link that its device has. -/
theorem Bound.of_start (starts : ReadLoop.start d none = .ok l) (attached : d.attached = some place)
    (inside : place < d.links.length) : Bound d place l := by
  unfold ReadLoop.start at starts
  rw [attached] at starts
  cases starts
  exact ⟨inside, rfl, rfl⟩

theorem Bound.deed (bound : Bound d place l) (deed : Deed) : Bound (deed.on d) place l := by
  obtain ⟨inside, source, owned⟩ := bound
  refine ⟨?_, source, owned⟩
  have longer (link : Link) : place < (d.attach link).links.length := by
    rw [Device.attach, List.length_append]
    exact Nat.lt_add_right _ inside
  cases deed with
  | attach link => exact longer link
  | reattach other =>
    dsimp only [Deed.on]
    split <;> exact inside
  | connect port opener =>
    change place < (d.connect port opener).state.links.length
    unfold Device.connect
    dsimp only
    split
    · exact inside
    · exact longer _
  | disconnect => exact d.length_disconnect.symm ▸ inside

/-- A loop is bound to its link until it ends. -/
theorem Meanwhile.bound (way : Meanwhile d₀ l₀ deeds d l) (bound : Bound d₀ place l₀) :
    Bound d place l := by
  induction way with
  | start => exact bound
  | @turn deeds d l way time goes ih =>
    obtain ⟨d₁, -, ⟨-, same, still⟩ | ⟨⟨result, stops⟩, -⟩⟩ := ih.step time
    · exact same ▸ still
    · exact absurd stops (goes result)
  | deed way deed ih => exact ih.deed deed
  | befalls way spares ih => exact ⟨spares.length ▸ ih.inside, ih.source, ih.owned⟩

/-- While a device is given no other link, it has the one that is drained or has let go of it. -/
theorem Meanwhile.unswapped (way : Meanwhile d₀ l₀ deeds d l) (bound : Bound d₀ place l₀)
    (attached : d₀.attached = some place) (faithful : ∀ deed ∈ deeds, ¬ deed.Swaps place) :
    d.attached = some place ∨ d.Released place := by
  induction way with
  | start => exact .inl attached
  | @turn deeds d l way time goes ih =>
    obtain ⟨d₁, asked, ⟨-, same, -⟩ | ⟨⟨result, stops⟩, -⟩⟩ := (way.bound bound).step time
    · rw [same]
      exact (ih faithful).imp asked.attached.trans asked.released
    · exact absurd stops (goes result)
  | @deed deeds d l way deed ih =>
    obtain ⟨before, last⟩ := List.forall_mem_append.1 faithful
    have same := last deed (List.mem_singleton_self deed)
    cases deed with
    | attach | connect => exact absurd trivial same
    | reattach other =>
      obtain rfl : other = place := Decidable.not_not.1 same
      exact .inl (congrArg Device.attached (if_pos (way.bound bound).inside))
    | disconnect =>
      rcases ih before with attached | released
      · exact .inr (Device.released_disconnect attached (way.bound bound).inside)
      · exact .inr released.disconnect
  | befalls way spares ih => exact (ih faithful).imp spares.attached.trans spares.released

/-! ## The end -/

section End

variable (bound : Bound d place l) (ends : Ends d l d')

include bound ends

theorem Ends.attached : d'.attached = none := by
  obtain ⟨d₁, -, rfl⟩ := ends.asked bound
  exact d₁.attached_disconnect

/-- The link that the device has at the end is disconnected. -/
theorem Ends.disconnects {i : Nat} {link : Link} (attached : d.attached = some i)
    (found : d'.links[i]? = some link) : link.isConnected = false := by
  obtain ⟨d₁, asked, rfl⟩ := ends.asked bound
  rw [Device.links_disconnect, if_pos (asked.attached.trans attached)] at found
  obtain ⟨link, -, rfl⟩ := Option.map_eq_some_iff.1 found
  exact link.isConnected_disconnect

/-- Links that are neither drained nor the device's at the end are left alone. -/
theorem Ends.spares {i : Nat} (other : i ≠ place) (unattached : d.attached ≠ some i) :
    d'.links[i]? = d.links[i]? := by
  obtain ⟨d₁, asked, rfl⟩ := ends.asked bound
  rw [Device.links_disconnect, if_neg (asked.attached ▸ unattached)]
  exact asked.others i other

/-- A device that has the drained link at the end, or has let go of it, has let go of it then. -/
theorem Ends.released (has : d.attached = some place ∨ d.Released place) : d'.Released place := by
  obtain ⟨d₁, asked, rfl⟩ := ends.asked bound
  rcases has with attached | released
  · exact Device.released_disconnect (asked.attached.trans attached) (asked.length ▸ bound.inside)
  · exact (asked.released released).disconnect

/-- **When a loop keeps custody of its link.** -/
theorem Ends.custody :
    Custody place d d' ↔
      d.attached = some place ∨ d.attached = none ∧ d'.Released place := by
  constructor
  · intro custody
    cases has : d.attached with
    | none => exact .inr ⟨rfl, ends.attached bound, custody.drained⟩
    | some other =>
      by_cases own : other = place
      · exact .inl (congrArg some own)
      · cases (custody.others other own has).1.symm.trans (ends.attached bound)
  · rintro (own | ⟨none, released⟩)
    · exact {
        drained := (ends.released bound (.inl own)).2
        others := fun other different has =>
          absurd (Option.some.inj (has.symm.trans own)) different }
    · exact {
        drained := released.2
        others := fun other _ has => by cases has.symm.trans none }

end End

/-- **When a loop releases the link that it drained and no other.** Whatever was done to the device
while the loop went on, and however the loop ends, the device is left without a link, and the one
that it had is disconnected. So the loop keeps custody of its link just if the device has that link
at the end, or has none and the link is disconnected already. It does if the device was given no
other link in the meantime. -/
theorem custody_iff {d₀ d d' : Device} {l₀ l : ReadLoop} {place : Nat}
    {deeds : List Deed} (starts : ReadLoop.start d₀ none = .ok l₀)
    (attached : d₀.attached = some place) (inside : place < d₀.links.length)
    (way : Meanwhile d₀ l₀ deeds d l) (ends : Ends d l d') :
    (Custody place d d' ↔ d.attached = some place ∨ d.attached = none ∧ d'.Released place) ∧
      ((∀ deed ∈ deeds, ¬ deed.Swaps place) → Custody place d d') ∧
      d'.attached = none ∧
      (∀ i link, d.attached = some i → d'.links[i]? = some link → link.isConnected = false) ∧
      ∀ i, i ≠ place → d.attached ≠ some i → d'.links[i]? = d.links[i]? := by
  have first := Bound.of_start starts attached inside
  have bound := way.bound first
  refine ⟨ends.custody bound, fun faithful => ?_, ends.attached bound,
    fun i link => ends.disconnects bound, fun i => ends.spares bound⟩
  have has := way.unswapped first attached faithful
  exact (ends.custody bound).2 (has.imp_right fun released =>
    ⟨released.1, ends.released bound (.inr released)⟩)

/-- A device that lets its link go and takes it back, and whose loop is then cancelled. -/
theorem custody_iff_taken_back :
    let link : ScriptedLink := { scripted := ["L05\n".toList, "L09\n".toList], interval := 1 }
    let d₀ := (Device.fresh {} "sr6").attach (.scripted link)
    let l₀ : ReadLoop := { source := .link 0, owned := true }
    let deeds : List Deed := [.disconnect, .reattach 0]
    ∃ d l, Meanwhile d₀ l₀ deeds d l ∧ d.attached = some 0 ∧
      Custody 0 d (l.cancel d).state ∧ (l.cancel d).state.attached = none := by
  intro link d₀ l₀ deeds
  have starts : ReadLoop.start d₀ none = .ok l₀ := rfl
  have attached : d₀.attached = some 0 := rfl
  have opened : Meanwhile d₀ l₀ [] (l₀.step d₀ 0).device (l₀.step d₀ 0).loop :=
    Meanwhile.start.turn 0 nofun
  have way := (opened.deed .disconnect).deed (.reattach 0)
  obtain ⟨-, keeps, letsGo, -⟩ :=
    custody_iff starts attached (by decide) way .cancelled
  exact ⟨_, _, way, rfl, keeps (by simp [Deed.Swaps]), letsGo⟩

/-- A loop disconnects a link that its device was given in the meantime, and leaves the one that it
drained connected. -/
theorem loop_releases_link_given_later :
    let link : ScriptedLink := { scripted := ["L05\n".toList] }
    let other : ScriptedLink := { scripted := ["L09\n".toList], interval := 1 }
    let d₀ := (Device.fresh {} "sr6").attach (.scripted link)
    let l₀ : ReadLoop := { source := .link 0, owned := true }
    let first := l₀.step d₀ 0
    let swapped := (Deed.attach (.scripted other)).on first.device
    let second := first.loop.step swapped 0
    let last := second.loop.step second.device 0
    ReadLoop.start d₀ none = .ok l₀ ∧ d₀.attached = some 0 ∧ swapped.isConnected = true ∧
      last.entries.map (·.message) = ["sr6: end of stream"] ∧ last.device.attached = none ∧
      last.device.links.map Link.isConnected = [true, false] ∧
      ¬ Custody 0 second.device last.device := by
  intro link other d₀ l₀ first swapped second last
  have states : last.device.links.map Link.isConnected = [true, false] := by decide +kernel
  refine ⟨rfl, rfl, by decide +kernel, by decide +kernel, by decide +kernel, states, ?_⟩
  intro custody
  obtain ⟨drained, found, apart⟩ := custody.drained
  have state : (last.device.links.map Link.isConnected)[0]? = some false := by
    rw [List.getElem?_map, found, Option.map_some, apart]
  cases (congrArg (·[0]?) states).symm.trans state

end ReadLoop

end MotionEmulator
