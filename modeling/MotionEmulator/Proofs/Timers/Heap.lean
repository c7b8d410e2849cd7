import Mathlib.Data.Prod.Lex
import MotionEmulator.Proofs.Binary64.Order
import MotionEmulator.Timers

/-!
# The first timer is due first

Where every due time is a number, timers are ordered by their `Timer.key`, the place of the due
time and then the number of timers set before. `Timers.IsHeap` says that no timer has a smaller
key than the one above it. `push`, `pop?` and `popDue` keep it, by way of what `rise` and `sink`
do to timers that are in order but around one place:

* `RisesFrom.isHeap_rise`: a timer that is in order with those below it may have to rise;
* `HollowAt.isHeap_sink`: at a hollow place nothing is known about the timer itself.

So the first timer is due no later than any other (`IsHeap.first_le`), and `popDue_perm` says that
those which `popDue` takes out and those which it leaves are all there were.
-/

namespace MotionEmulator

open Binary64

/-- The place of a timer in the order of timers. -/
def Timer.key {α : Type} (t : Timer α) : Int ×ₗ Nat :=
  toLex (t.due.level, t.order)

namespace Timers

variable {α : Type} {timers others : Timers α} {t u : Timer α} {i j : Nat}

/-- All timers are due at times. -/
def AllDue (timers : Timers α) : Prop :=
  ∀ t ∈ timers, t.due.IsDue

theorem before_iff_key (ht : t.due ≠ .nan) (hu : u.due ≠ .nan) :
    t.before u = true ↔ t.key < u.key := by
  rw [Timer.key, Timer.key, Prod.Lex.toLex_lt_toLex]
  simp only [Timer.before, Bool.or_eq_true, Bool.and_eq_true, decide_eq_true_eq,
    lt_iff_level ht hu, le_iff_level ht hu, le_iff_level hu ht]
  omega

/-! ## Keys by place -/

/-- The key of the timer at a place. -/
def keyAt (timers : Timers α) (i : Nat) : Int ×ₗ Nat :=
  timers[i]?.elim (toLex (0, 0)) Timer.key

theorem keyAt_of_lt (h : i < timers.size) : timers.keyAt i = timers[i].key := by
  rw [keyAt, Array.getElem?_eq_getElem h]
  rfl

theorem before_iff_keyAt (due : AllDue timers) (hi : i < timers.size) (hj : j < timers.size) :
    timers[i].before timers[j] = true ↔ timers.keyAt i < timers.keyAt j := by
  rw [keyAt_of_lt hi, keyAt_of_lt hj]
  exact before_iff_key (due _ (Array.getElem_mem hi)).ne_nan (due _ (Array.getElem_mem hj)).ne_nan

theorem keyAt_swap (hi : i < timers.size) (hj : j < timers.size) (k : Nat) :
    keyAt (timers.swap i j) k =
      if k = i then timers.keyAt j else if k = j then timers.keyAt i else timers.keyAt k := by
  rw [keyAt, Array.getElem?_swap]
  by_cases second : k = j
  · rw [if_pos second.symm, if_pos second, Option.elim_some, ← keyAt_of_lt hi]
    split
    · next first => rw [← second, first]
    · rfl
  · rw [if_neg (Ne.symm second), if_neg second]
    by_cases first : k = i
    · rw [if_pos first.symm, if_pos first, Option.elim_some, ← keyAt_of_lt hj]
    · rw [if_neg (Ne.symm first), if_neg first]
      rfl

/-- No timer comes before the one above it. -/
def IsHeap (timers : Timers α) : Prop :=
  ∀ j, 0 < j → j < timers.size → timers.keyAt ((j - 1) / 2) ≤ timers.keyAt j

/-- The timers are in order, save perhaps the one at a place and the one above it. -/
structure RisesFrom (timers : Timers α) (i : Nat) : Prop where
  others : ∀ j, 0 < j → j < timers.size → j ≠ i → timers.keyAt ((j - 1) / 2) ≤ timers.keyAt j
  below : 0 < i → ∀ j, 0 < j → j < timers.size → (j - 1) / 2 = i →
    timers.keyAt ((i - 1) / 2) ≤ timers.keyAt j

/-- The timers are in order, whatever the one at a place is. -/
structure HollowAt (timers : Timers α) (i : Nat) : Prop where
  others : ∀ j, 0 < j → j < timers.size → j ≠ i → (j - 1) / 2 ≠ i →
    timers.keyAt ((j - 1) / 2) ≤ timers.keyAt j
  below : 0 < i → ∀ j, 0 < j → j < timers.size → (j - 1) / 2 = i →
    timers.keyAt ((i - 1) / 2) ≤ timers.keyAt j

/-! ## Rising and sinking -/

theorem AllDue.swap (due : AllDue timers) (hi : i < timers.size) (hj : j < timers.size) :
    AllDue (timers.swap i j) :=
  fun t mem => due t ((Array.swap_perm hi hj).mem_iff.1 mem)

/-- A timer that comes before the one above it changes places with it. -/
theorem RisesFrom.swap (rises : RisesFrom timers i) (pos : 0 < i) (hi : i < timers.size)
    (ha : (i - 1) / 2 < timers.size) (before : timers.keyAt i < timers.keyAt ((i - 1) / 2)) :
    RisesFrom (timers.swap i ((i - 1) / 2) hi ha) ((i - 1) / 2) where
  others j hj size ne := by
    rw [Array.size_swap] at size
    rw [keyAt_swap hi ha, keyAt_swap hi ha]
    by_cases own : j = i
    · rw [own, if_pos rfl, if_neg (by omega), if_pos rfl]
      exact before.le
    · rw [if_neg own, if_neg ne]
      by_cases child : (j - 1) / 2 = i
      · rw [if_pos child]
        exact rises.below pos j hj size child
      · have order := rises.others j hj size own
        rw [if_neg child]
        split
        · next sibling =>
          rw [sibling] at order
          exact before.le.trans order
        · exact order
  below pos' j hj size child := by
    rw [Array.size_swap] at size
    have above := rises.others ((i - 1) / 2) pos' (by omega) (by omega)
    rw [keyAt_swap hi ha, keyAt_swap hi ha, if_neg (by omega), if_neg (by omega)]
    by_cases own : j = i
    · rw [if_pos own]
      exact above
    · have order := rises.others j hj size own
      rw [child] at order
      rw [if_neg own, if_neg (by omega)]
      exact above.trans order

theorem RisesFrom.isHeap (rises : RisesFrom timers i)
    (order : 0 < i → i < timers.size → timers.keyAt ((i - 1) / 2) ≤ timers.keyAt i) :
    IsHeap timers := by
  intro j hj size
  by_cases own : j = i
  · subst own
    exact order hj size
  · exact rises.others j hj size own

theorem RisesFrom.isHeap_rise (due : AllDue timers) (rises : RisesFrom timers i) :
    IsHeap (timers.rise i) := by
  fun_induction rise timers i with
  | case1 timers i h above ha before ih =>
    have less := (before_iff_keyAt due h.2 ha).1 before
    exact ih (due.swap h.2 ha) (rises.swap h.1 h.2 ha less)
  | case2 timers i h above ha not_before =>
    refine rises.isHeap fun _ _ => ?_
    exact not_lt.1 fun less => not_before ((before_iff_keyAt due h.2 ha).2 less)
  | case3 timers i h => exact rises.isHeap fun pos size => absurd ⟨pos, size⟩ h

theorem firstBelow_child (timers : Timers α) (i : Nat) (h : 2 * i + 1 < timers.size) :
    (timers.firstBelow i h - 1) / 2 = i := by
  unfold firstBelow
  split <;> (try split) <;> omega

/-- Neither of the two timers below a place comes before the first of them. -/
theorem keyAt_firstBelow_le (due : AllDue timers) (h : 2 * i + 1 < timers.size) (hj : 0 < j)
    (size : j < timers.size) (child : (j - 1) / 2 = i) :
    timers.keyAt (timers.firstBelow i h) ≤ timers.keyAt j := by
  have left_or_right : j = 2 * i + 1 ∨ j = 2 * i + 2 := by omega
  unfold firstBelow
  split
  · next both =>
    have order := before_iff_keyAt due h both
    split
    · next before =>
      rcases left_or_right with rfl | rfl
      · exact le_refl _
      · exact (order.1 before).le
    · next not_before =>
      rcases left_or_right with rfl | rfl
      · exact not_lt.1 fun less => not_before (order.2 less)
      · exact le_refl _
  · rcases left_or_right with rfl | rfl
    · exact le_refl _
    · omega

/-- The first of the timers below a hollow place fills it and leaves its own place hollow. -/
theorem HollowAt.swap (hollow : HollowAt timers i) (hi : i < timers.size) {b : Nat}
    (hb : b < timers.size) (pos : 0 < b) (child : (b - 1) / 2 = i)
    (first : ∀ j, 0 < j → j < timers.size → (j - 1) / 2 = i → timers.keyAt b ≤ timers.keyAt j) :
    HollowAt (timers.swap i b) b where
  others j hj size ne other := by
    rw [Array.size_swap] at size
    rw [keyAt_swap hi hb, keyAt_swap hi hb, if_neg other, if_neg ne]
    by_cases own : j = i
    · rw [if_pos own, if_neg (by omega), own]
      exact hollow.below (by omega) b pos hb child
    · rw [if_neg own]
      split
      · next sibling => exact first j hj size sibling
      · next elsewhere => exact hollow.others j hj size own elsewhere
  below _ j hj size grandchild := by
    rw [Array.size_swap] at size
    rw [keyAt_swap hi hb, keyAt_swap hi hb, child, if_pos rfl, if_neg (by omega),
      if_neg (by omega), ← grandchild]
    exact hollow.others j hj size (by omega) (by omega)

theorem HollowAt.isHeap_sink (due : AllDue timers) (hollow : HollowAt timers i) :
    IsHeap (timers.sink i) := by
  fun_induction sink timers i with
  | case1 timers i h below bounds ih =>
    have child : (below - 1) / 2 = i := timers.firstBelow_child i h
    exact ih (due.swap (by omega) bounds.2)
      (hollow.swap (by omega) bounds.2 (by omega) child fun j => keyAt_firstBelow_le due h)
  | case2 timers i leaf =>
    -- Nothing stands below the place, so the timer there can only have to rise.
    refine RisesFrom.isHeap_rise due ⟨fun j hj size ne => ?_, hollow.below⟩
    exact hollow.others j hj size ne (by omega)

/-! ## Setting and taking out -/

theorem isHeap_empty : IsHeap (#[] : Timers α) := by
  intro j _ size
  exact absurd size (Nat.not_lt_zero j)

theorem keyAt_push_of_lt (t : Timer α) (h : i < timers.size) :
    keyAt (Array.push timers t) i = timers.keyAt i := by
  rw [keyAt, keyAt, Array.getElem?_push_lt h, Array.getElem?_eq_getElem h]

theorem isHeap_push (due : AllDue timers) (heap : IsHeap timers) (ht : t.due.IsDue) :
    IsHeap (timers.push t) := by
  have due' : AllDue (Array.push timers t) := by
    intro u mem
    rcases Array.mem_push.1 mem with old | rfl
    · exact due u old
    · exact ht
  refine RisesFrom.isHeap_rise due' ⟨fun j hj size ne => ?_, fun _ j _ size child => ?_⟩
  · rw [Array.size_push] at size
    rw [keyAt_push_of_lt t (by omega), keyAt_push_of_lt t (by omega)]
    exact heap j hj (by omega)
  · rw [Array.size_push] at size
    omega

theorem allDue_push (due : AllDue timers) (ht : t.due.IsDue) : AllDue (timers.push t) := by
  intro u mem
  have mem' := (push_perm timers t).mem_iff.1 (Array.mem_toList_iff.2 mem)
  rcases List.mem_cons.1 mem' with rfl | old
  · exact ht
  · exact due u (Array.mem_toList_iff.1 old)

theorem AllDue.of_perm (due : AllDue timers) {rest : List (Timer α)}
    (perm : (rest ++ others.toList).Perm timers.toList) : AllDue others := by
  intro u mem
  have mem' := perm.mem_iff.1 (List.mem_append_right _ (Array.mem_toList_iff.2 mem))
  exact due u (Array.mem_toList_iff.1 mem')

theorem isHeap_pop? (due : AllDue timers) (heap : IsHeap timers)
    (h : timers.pop? = some (t, others)) : IsHeap others := by
  unfold pop? at h
  split at h
  case isFalse => cases h
  case isTrue pos =>
    obtain ⟨-, rfl⟩ := Prod.mk.inj (Option.some.inj h)
    split
    · next rest =>
      have due' : AllDue (timers.pop.set 0 timers.back rest) := by
        intro u mem
        rcases Array.mem_or_eq_of_mem_set mem with old | rfl
        · rw [← Array.mem_toList_iff, Array.toList_pop] at old
          exact due u (Array.mem_toList_iff.1 (List.dropLast_subset _ old))
        · exact due _ (Array.back_mem pos)
      have same {j : Nat} (hj : 0 < j) (size : j < timers.pop.size) :
          keyAt (timers.pop.set 0 timers.back rest) j = timers.keyAt j := by
        rw [Array.size_pop] at size
        rw [keyAt, keyAt, Array.getElem?_set_ne _ (Nat.ne_of_lt hj), Array.getElem?_pop,
          if_pos size]
      refine HollowAt.isHeap_sink due' ⟨fun j hj size ne other => ?_, fun absurd => ?_⟩
      · rw [Array.size_set] at size
        rw [same (by omega) (by omega), same hj size]
        rw [Array.size_pop] at size
        exact heap j hj (by omega)
      · omega
    · next none =>
      intro j _ size
      omega

/-- No timer has a smaller key than the first one. -/
theorem IsHeap.keyAt_zero_le (heap : IsHeap timers) (h : i < timers.size) :
    timers.keyAt 0 ≤ timers.keyAt i := by
  induction i using Nat.strongRecOn with
  | ind i ih =>
    rcases Nat.eq_zero_or_pos i with rfl | pos
    · exact le_refl _
    · exact (ih ((i - 1) / 2) (by omega) (by omega)).trans (heap i pos h)

/-- **The first timer is due no later than any other.** -/
theorem IsHeap.first_le (heap : IsHeap timers) {first : Timer α} (h : timers[0]? = some first)
    (mem : t ∈ timers) : first.due.level ≤ t.due.level := by
  obtain ⟨i, size, rfl⟩ := Array.mem_iff_getElem.1 mem
  have key := heap.keyAt_zero_le size
  rw [keyAt_of_lt size, keyAt, h] at key
  have lex := Prod.Lex.toLex_le_toLex.1 key
  rcases lex with lt | ⟨eq, -⟩
  · exact lt.le
  · exact eq.le

/-! ## What is due -/

/-- **Every timer is taken out or left, and what is taken out is due.** -/
theorem popDue_perm (timers : Timers α) (time : Binary64) :
    ∃ taken : List (Timer α), (timers.popDue time).1 = taken.map Timer.owner ∧
      (taken ++ (timers.popDue time).2.toList).Perm timers.toList ∧
      ∀ t ∈ taken, ¬ time < t.due := by
  fun_induction popDue timers time with
  | case1 timers none => exact ⟨[], rfl, .refl _, by simp⟩
  | case2 timers t others h later => exact ⟨[], rfl, .refl _, by simp⟩
  | case3 timers t others h due less owners rest eq ih =>
    obtain ⟨taken, owners_eq, perm, all⟩ := ih
    rw [eq] at owners_eq perm
    refine ⟨t :: taken, ?_, ?_, ?_⟩
    · rw [List.map_cons, ← owners_eq]
    · exact (perm.cons t).trans (pop?_perm h)
    · intro u mem
      rcases List.mem_cons.1 mem with rfl | old
      · exact due
      · exact all u old

theorem isHeap_popDue (due : AllDue timers) (heap : IsHeap timers) (time : Binary64) :
    IsHeap (timers.popDue time).2 := by
  fun_induction popDue timers time with
  | case1 timers none => exact heap
  | case2 timers t others h later => exact heap
  | case3 timers t others h _ less owners rest eq ih =>
    have perm : ([t] ++ others.toList).Perm timers.toList := pop?_perm h
    have due' : AllDue others := due.of_perm perm
    have heap' := ih due' (isHeap_pop? due heap h)
    rwa [eq] at heap'

end Timers

end MotionEmulator
