import MotionEmulator.Binary64.Arithmetic

/-!
# Timers

A `Timer` is due at a time and carries who waits for it; of two that are due at one time the one
set first comes before the other. `Timers` keeps timers in a binary heap: the places below place
`i` are `2 * i + 1` and `2 * i + 2`, and no timer comes before the one above it. `push` sets a
timer, `pop?` takes the first one out and `popDue` takes out all that are due.

A timer due at no number comes before no other and no other before it. So the place that it got
decides when it is first, and the heap is the rule for that: `rise` carries a timer up as long as
it comes before the one above it, and `sink` fills a place from below along the first of each two
and lets the timer that was to stand there rise from where that path ends.

No operation loses a timer or makes one up (`push_perm`, `pop?_perm`).
-/

namespace MotionEmulator

/-- A timer and who waits for it. -/
structure Timer (α : Type) where
  due : Binary64
  /-- The number of timers set before this one. -/
  order : Nat
  owner : α
  deriving DecidableEq

/-- Whether a timer comes before another one. -/
def Timer.before {α : Type} (a b : Timer α) : Bool :=
  a.due < b.due || (a.due ≤ b.due && b.due ≤ a.due && a.order < b.order)

/-- The timers that are set. -/
abbrev Timers (α : Type) := Array (Timer α)

namespace Timers

variable {α : Type}

/-- Carries the timer at a place up as long as it comes before the one above it. -/
def rise (timers : Timers α) (i : Nat) : Timers α :=
  if h : 0 < i ∧ i < timers.size then
    let above := (i - 1) / 2
    have : above < timers.size := by omega
    if timers[i].before timers[above] then rise (timers.swap i above) above else timers
  else timers
termination_by i
decreasing_by omega

/-- The place of the first of the two timers below a place; the right one if neither comes before
the other. -/
def firstBelow (timers : Timers α) (i : Nat) (h : 2 * i + 1 < timers.size) : Nat :=
  if h' : 2 * i + 2 < timers.size then
    if timers[2 * i + 1].before timers[2 * i + 2] then 2 * i + 1 else 2 * i + 2
  else 2 * i + 1

theorem firstBelow_bounds (timers : Timers α) (i : Nat) (h : 2 * i + 1 < timers.size) :
    i < timers.firstBelow i h ∧ timers.firstBelow i h < timers.size := by
  unfold firstBelow
  split <;> (try split) <;> omega

/-- Carries the timer at a place down, the first of those below taking its place each time, and
from the end up as far as it belongs. -/
def sink (timers : Timers α) (i : Nat) : Timers α :=
  if h : 2 * i + 1 < timers.size then
    let below := timers.firstBelow i h
    have := timers.firstBelow_bounds i h
    sink (timers.swap i below) below
  else timers.rise i
termination_by timers.size - i
decreasing_by simp only [Array.size_swap]; omega

/-- Sets a timer. -/
def push (timers : Timers α) (t : Timer α) : Timers α :=
  rise (Array.push timers t) timers.size

/-- The first timer and the others. -/
def pop? (timers : Timers α) : Option (Timer α × Timers α) :=
  if h : 0 < timers.size then
    let others := timers.pop
    some (timers[0], if h' : 0 < others.size then sink (others.set 0 timers.back) 0 else others)
  else none

/-! ## Nothing is lost -/

theorem rise_perm (timers : Timers α) (i : Nat) : (timers.rise i).Perm timers := by
  fun_induction rise timers i with
  | case1 timers i h above ha _ ih => exact ih.trans (Array.swap_perm h.2 ha)
  | case2 => exact .rfl
  | case3 => exact .rfl

theorem sink_perm (timers : Timers α) (i : Nat) : (timers.sink i).Perm timers := by
  fun_induction sink timers i with
  | case1 timers i h below hb ih => exact ih.trans (Array.swap_perm (by omega) hb.2)
  | case2 timers i _ => exact rise_perm timers i

/-- Setting a timer adds it to those that are set. -/
theorem push_perm (timers : Timers α) (t : Timer α) :
    (timers.push t).toList.Perm (t :: timers.toList) := by
  refine (rise_perm _ _).toList.trans ?_
  rw [Array.toList_push]
  exact List.perm_append_comm

/-- Taking out a timer leaves the others. -/
theorem pop?_perm {timers others : Timers α} {t : Timer α} (h : timers.pop? = some (t, others)) :
    (t :: others.toList).Perm timers.toList := by
  unfold pop? at h
  split at h
  case isFalse => cases h
  case isTrue hpos =>
    obtain ⟨rfl, rfl⟩ := Prod.mk.inj (Option.some.inj h)
    obtain ⟨list⟩ := timers
    match list, hpos with
    | [t], _ => simp
    | t :: u :: rest, _ =>
      have hsize : 0 < (Array.mk (t :: u :: rest)).pop.size := by simp
      rw [dif_pos hsize]
      refine .cons t ((sink_perm _ _).toList.trans ?_)
      have hback : (Array.mk (t :: u :: rest)).back = (u :: rest).getLast (by simp) := by
        simp [Array.back, List.getLast_eq_getElem]
      rw [hback, Array.toList_set, Array.toList_pop, List.dropLast_cons_cons, List.set_cons_zero]
      exact List.perm_append_comm.trans
        (.of_eq (List.dropLast_concat_getLast (List.cons_ne_nil u rest)))

theorem size_pop? {timers others : Timers α} {t : Timer α} (h : timers.pop? = some (t, others)) :
    others.size + 1 = timers.size := by
  simpa using (pop?_perm h).length_eq

/-! ## What is due -/

/-- The owners of the timers that are due at a time, in the order in which they are taken out,
and the other timers. It ends at the first timer that is due later. -/
def popDue (timers : Timers α) (time : Binary64) : List α × Timers α :=
  match h : timers.pop? with
  | none => ([], timers)
  | some (t, others) =>
    if time < t.due then ([], timers)
    else
      have := size_pop? h
      let (owners, others) := popDue others time
      (t.owner :: owners, others)
termination_by timers.size

end Timers

end MotionEmulator
