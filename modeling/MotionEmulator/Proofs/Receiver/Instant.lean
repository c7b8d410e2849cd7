import Mathlib.Data.List.Induction
import MotionEmulator.Proofs.Axis.Trajectory
import MotionEmulator.Proofs.Receiver.Independence

/-!
# Orders of one instant

All commands of a line are carried out at one moment. What an axis makes of orders that are
`GivenAt` one moment depends on two of them only, the `decisive` ones: the last immediate order and
the last order of all.

* `Sound.obey_congr`: two axes on which an order finds the same position are the same after it, and
  after an immediate order they are the same in any case;
* `Sound.resolved_obeyAll`: where an axis stands at the moment itself is up to the last immediate
  order, since a move that takes time does not change it;
* `Sound.obeyAll_decisive` follows for a whole list, and `Sound.obeyAll_without` says that an order
  that `Travels` can be left out where another order comes after it.

`Axis.Reachable.instant_collapses` is the main statement, with its meaning for the commands of a
line.
-/

namespace MotionEmulator

namespace Axis

/-- Orders toward finite amounts, all at one moment. -/
def GivenAt (now : Binary64) (orders : List Order) : Prop :=
  ∀ o ∈ orders, o.now = now ∧ o.amount.IsFinite

/-- The last immediate order of a list. -/
def lastImmediate? (orders : List Order) : Option Order :=
  (orders.filter (·.IsImmediate)).getLast?

/-- The last immediate order of a list, if there is one, and then the last order. -/
def decisive (orders : List Order) : List Order :=
  (lastImmediate? orders).toList ++ orders.getLast?.toList

variable {a b : Axis} {now : Binary64} {o : Order} {before after orders : List Order}

theorem GivenAt.left (given : GivenAt now (before ++ after)) : GivenAt now before :=
  fun o mem => given o (List.mem_append_left after mem)

theorem GivenAt.last (given : GivenAt now (orders ++ [o])) : o.now = now ∧ o.amount.IsFinite :=
  given o (List.mem_append_right orders (List.mem_singleton.2 rfl))

/-! ## One order -/

theorem period_started (a : Axis) (origin target : Int) (kind : MoveKind) (param : Int)
    (now : Binary64) : (a.started origin target kind param now).period = a.period := by
  unfold started
  split <;> rfl

theorem period_obey (a : Axis) (o : Order) : (a.obey o).state.period = a.period := by
  unfold obey moveTo
  split
  · rfl
  · split
    · rfl
    · exact a.period_started _ _ _ _ _

theorem period_obeyAll (a : Axis) (orders : List Order) :
    (a.obeyAll orders).period = a.period := by
  induction orders generalizing a with
  | nil => rfl
  | cons o rest ih => exact (ih _).trans (a.period_obey o)

/-- Of the axis that it finds, an order keeps the period, and the position if it is not
immediate. -/
theorem started_congr (period : a.period = b.period) {p q : Int} (target : Int)
    (same : o.IsImmediate ∨ p = q) :
    a.started p target o.kind o.param o.now = b.started q target o.kind o.param o.now := by
  unfold Order.IsImmediate at same
  unfold started
  split
  · simp only [period]
  · next moves =>
    obtain rfl := same.resolve_left moves
    simp only [period]

/-- Two axes on which an order finds the same position are the same after it. An immediate order
does not look for the position. -/
theorem Sound.obey_congr (sound : a.Sound) (sound' : b.Sound) (period : a.period = b.period)
    (finite : o.amount.IsFinite) (same : o.IsImmediate ∨ a.resolved o.now = b.resolved o.now) :
    (a.obey o).state = (b.obey o).state := by
  rcases Position.nearest_cases o.amount with ⟨-, target, nearest, -⟩ | ⟨not_finite, -⟩
  · obtain ⟨p, stands, -⟩ := sound.resolved o.now
    obtain ⟨q, stands', -⟩ := sound'.resolved o.now
    have origins : o.IsImmediate ∨ p = q := by
      rcases same with immediate | same
      · exact .inl immediate
      · rw [stands, stands'] at same
        exact .inr (Except.ok.inj same)
    rw [obey_eq_done nearest stands, obey_eq_done nearest stands']
    exact started_congr period target origins
  · exact absurd finite not_finite

/-- An order that takes time does not change where the axis stands at its moment. -/
theorem Sound.resolved_obey (sound : a.Sound) (travels : o.Travels) :
    (a.obey o).state.resolved o.now = a.resolved o.now := by
  obtain ⟨-, p, stood, stands, -⟩ := sound.carriesOver travels
  rw [stood, stands]

/-- **An order that is repeated at its moment changes nothing.** -/
theorem Sound.obey_twice (sound : a.Sound) (finite : o.amount.IsFinite) :
    ((a.obey o).state.obey o).state = (a.obey o).state := by
  apply (sound.obey o).obey_congr sound (a.period_obey o) finite
  by_cases immediate : o.IsImmediate
  · exact .inl immediate
  · exact .inr (sound.resolved_obey (Order.travels_iff.2 ⟨finite, immediate⟩))

/-! ## Lists of orders -/

theorem obeyAll_concat (a : Axis) (orders : List Order) (o : Order) :
    a.obeyAll (orders ++ [o]) = ((a.obeyAll orders).obey o).state :=
  obeyAll_append orders [o] a

theorem lastImmediate?_concat_of_immediate (immediate : o.IsImmediate) :
    lastImmediate? (orders ++ [o]) = some o := by
  rw [lastImmediate?, List.filter_append, List.filter_cons_of_pos (by simpa using immediate)]
  exact List.getLast?_concat

theorem lastImmediate?_concat_of_not (moves : ¬ o.IsImmediate) :
    lastImmediate? (orders ++ [o]) = lastImmediate? orders := by
  rw [lastImmediate?, List.filter_append, List.filter_cons_of_neg (by simpa using moves),
    List.filter_nil, List.append_nil]
  rfl

theorem decisive_concat (orders : List Order) (o : Order) :
    decisive (orders ++ [o]) = (lastImmediate? (orders ++ [o])).toList ++ [o] := by
  rw [decisive, List.getLast?_concat]
  rfl

/-- **Where an axis stands at one moment is up to the last immediate order of that moment.** -/
theorem Sound.resolved_obeyAll (sound : a.Sound) (given : GivenAt now orders) :
    (a.obeyAll orders).resolved now =
      (a.obeyAll (lastImmediate? orders).toList).resolved now := by
  -- From the last order: only an immediate one counts, and it does not look at what was before.
  induction orders using List.reverseRecOn with
  | nil => rfl
  | append_singleton rest o ih =>
    obtain ⟨rfl, finite⟩ := given.last
    have sound' := sound.obeyAll rest
    rw [obeyAll_concat]
    by_cases immediate : o.IsImmediate
    · have same := sound'.obey_congr sound (a.period_obeyAll rest) finite (.inl immediate)
      rw [lastImmediate?_concat_of_immediate immediate, same]
      rfl
    · have travels := Order.travels_iff.2 ⟨finite, immediate⟩
      rw [lastImmediate?_concat_of_not immediate, sound'.resolved_obey travels]
      exact ih given.left

/-- **Orders of one moment do what the decisive ones of them do.** -/
theorem Sound.obeyAll_decisive (sound : a.Sound) (given : GivenAt now orders) :
    a.obeyAll orders = a.obeyAll (decisive orders) := by
  rcases orders.eq_nil_or_concat with rfl | ⟨rest, o, rfl⟩
  · rfl
  · rw [List.concat_eq_append] at given ⊢
    obtain ⟨rfl, finite⟩ := given.last
    rw [decisive_concat, obeyAll_concat, obeyAll_concat]
    have period := (a.period_obeyAll rest).trans
      (a.period_obeyAll (lastImmediate? (rest ++ [o])).toList).symm
    apply (sound.obeyAll _).obey_congr (sound.obeyAll _) period finite
    by_cases immediate : o.IsImmediate
    · exact .inl immediate
    · right
      rw [lastImmediate?_concat_of_not immediate]
      exact sound.resolved_obeyAll given.left

theorem decisive_without (moves : ¬ o.IsImmediate) (later : after ≠ []) :
    decisive (before ++ o :: after) = decisive (before ++ after) := by
  have last : (before ++ o :: after).getLast? = (before ++ after).getLast? := by
    rw [List.getLast?_append_of_ne_nil _ (List.cons_ne_nil o after),
      List.getLast?_append_of_ne_nil _ later, List.getLast?_cons_of_ne_nil later]
  have immediate : (before ++ o :: after).filter (·.IsImmediate) =
      (before ++ after).filter (·.IsImmediate) := by
    rw [List.filter_append, List.filter_append, List.filter_cons_of_neg (by simpa using moves)]
  rw [decisive, decisive, lastImmediate?, lastImmediate?, last, immediate]

/-- **An order that takes time has no effect where another order of the moment comes after it.** -/
theorem Sound.obeyAll_without (sound : a.Sound) (given : GivenAt now (before ++ o :: after))
    (travels : o.Travels) (later : after ≠ []) :
    a.obeyAll (before ++ o :: after) = a.obeyAll (before ++ after) := by
  have given' : GivenAt now (before ++ after) := by
    intro p mem
    apply given
    rcases List.mem_append.1 mem with mem | mem
    · exact List.mem_append_left _ mem
    · exact List.mem_append_right _ (List.mem_cons_of_mem o mem)
  obtain ⟨-, moves⟩ := Order.travels_iff.1 travels
  rw [sound.obeyAll_decisive given, sound.obeyAll_decisive given', decisive_without moves later]

end Axis

/-! ## Commands of one line -/

variable {channel : Channel} {line line' : List Char} {now : Binary64}

theorem givenAt_lineOrders (channel : Channel) (line : List Char) (now : Binary64) :
    Axis.GivenAt now (lineOrders channel (line, now)) := by
  intro o mem
  obtain ⟨c, -, rfl⟩ := List.mem_map.1 mem
  exact ⟨rfl, trivial⟩

/-- A command that takes time can be left out of a line where another one for its axis follows. -/
theorem Receiver.Sound.execute_without {r : Receiver} (sound : r.Sound)
    {before after : List Command} {c : Command}
    (commands : Command.ofLine line = before ++ c :: after)
    (commands' : Command.ofLine line' = before ++ after) (travels : (c.order now).Travels)
    (later : ∃ d ∈ after, d.channel = c.channel) :
    (r.execute line now).state.axes = (r.execute line' now).state.axes := by
  obtain ⟨performed, -⟩ := execute_sound sound.axes line now
  obtain ⟨performed', -⟩ := execute_sound sound.axes line' now
  rw [performed, performed']
  apply PerChannel.ext_get
  intro channel
  change (MotionEmulator.performed r.axes (line, now)).get channel =
    (MotionEmulator.performed r.axes (line', now)).get channel
  rw [get_performed, get_performed]
  have given := givenAt_lineOrders channel line now
  have orders : lineOrders channel (line', now) =
      ((before ++ after).filter (·.channel = channel)).map (·.order now) := by
    rw [lineOrders, commands']
  have orders' : lineOrders channel (line, now) =
      ((before ++ c :: after).filter (·.channel = channel)).map (·.order now) := by
    rw [lineOrders, commands]
  rw [List.filter_append, List.map_append] at orders orders'
  by_cases own : c.channel = channel
  · rw [List.filter_cons_of_pos (by simpa using own), List.map_cons] at orders'
    rw [orders'] at given ⊢
    rw [orders]
    apply (sound.axes channel).obeyAll_without given travels
    obtain ⟨d, mem, same⟩ := later
    have kept : d ∈ after.filter (·.channel = channel) :=
      List.mem_filter.2 ⟨mem, by simpa using same.trans own⟩
    exact List.ne_nil_of_mem (List.mem_map_of_mem kept)
  · rw [List.filter_cons_of_neg (by simpa using own)] at orders'
    rw [orders, orders']

/-- **Orders of one instant collapse.** Whatever an axis has been told, orders toward finite amounts
that are all given at one moment, which may be any double, leave it as the last immediate one of
them, if there is one, and then the last of all. So an order that is repeated at its moment changes
nothing, and an order that takes time changes nothing where another one comes after it. On a line a
command that takes time can be left out where another command for its axis follows: of those that
take time only the last has an effect. -/
theorem Axis.Reachable.instant_collapses {period : Binary64} (finite : period.IsFinite)
    (pos : 0 < period) {a : Axis} (reach : Reachable period a) (now : Binary64) :
    (∀ orders, GivenAt now orders → a.obeyAll orders = a.obeyAll (decisive orders)) ∧
      (∀ o : Order, o.amount.IsFinite → a.obeyAll [o, o] = a.obeyAll [o]) ∧
      (∀ before o after, GivenAt now (before ++ o :: after) → o.Travels → after ≠ [] →
        a.obeyAll (before ++ o :: after) = a.obeyAll (before ++ after)) ∧
      ∀ logged pieces,
        let r := ((Receiver.fresh period logged).writeAll pieces).state
        ∀ line line' before c after,
          Command.ofLine line = before ++ c :: after → Command.ofLine line' = before ++ after →
          (c.order now).Travels → (∃ d ∈ after, d.channel = c.channel) →
            (r.execute line now).state.axes = (r.execute line' now).state.axes := by
  have sound := reach.sound finite pos
  refine ⟨?_, ?_, ?_, ?_⟩
  · intro orders given
    exact sound.obeyAll_decisive given
  · intro o amount
    exact sound.obey_twice amount
  · intro before o after given travels later
    exact sound.obeyAll_without given travels later
  · intro logged pieces r line line' before c after commands commands' travels later
    have receiver : r.Sound := (Receiver.sound_fresh finite pos logged).state_writeAll pieces
    exact receiver.execute_without commands commands' travels later

/-- On an axis under way, an order without a parameter is the last immediate one; the orders around
it have no effect but for the last. Of two strokes on a line the first one has none. -/
theorem Axis.instant_collapses_mixed :
    let a := (fresh defaultPeriod).obeyAll [⟨.whole 9999, .speed, 250, 0⟩]
    let orders : List Order :=
      [⟨.whole 5, .speed, 3, 1000⟩, ⟨.whole 5000, .immediate, 0, 1000⟩,
        ⟨.whole 3000, .interpolate, 0, 1000⟩, ⟨.whole 20, .interpolate, 700, 1000⟩,
        ⟨.whole 8000, .speed, 10 ^ 20, 1000⟩]
    let first : Command := ⟨.stroke, 5000, some ⟨.interpolate, 7, by decide, by decide⟩, by decide⟩
    let twist : Command := ⟨.twist, 1500, none, by decide⟩
    let second : Command := ⟨.stroke, 2000, some ⟨.speed, 9, by decide, by decide⟩, by decide⟩
    let r := ((Receiver.fresh defaultPeriod true).writeAll [⟨.text "L09I3\nR0".toList, 400⟩]).state
    defaultPeriod.IsFinite ∧ 0 < defaultPeriod ∧ Reachable defaultPeriod a ∧ GivenAt 1000 orders ∧
      a.obeyAll orders = a.obeyAll
        [⟨.whole 3000, .interpolate, 0, 1000⟩, ⟨.whole 8000, .speed, 10 ^ 20, 1000⟩] ∧
      Command.ofLine "L05I7 R015 L02S9".toList = [first, twist, second] ∧
      Command.ofLine "R015 L02S9".toList = [twist, second] ∧ (first.order 1000).Travels ∧
      (r.execute "L05I7 R015 L02S9".toList 1000).state.axes =
        (r.execute "R015 L02S9".toList 1000).state.axes := by
  intro a orders first twist second r
  have reach : Reachable defaultPeriod a := Reachable.fresh.obeyAll _
  have given : GivenAt 1000 orders := by
    intro o mem
    simp only [orders, List.mem_cons, List.not_mem_nil, or_false] at mem
    rcases mem with rfl | rfl | rfl | rfl | rfl <;> exact ⟨rfl, trivial⟩
  have commands : Command.ofLine "L05I7 R015 L02S9".toList = [first, twist, second] := by
    decide
  have commands' : Command.ofLine "R015 L02S9".toList = [twist, second] := by decide
  have travels : (first.order 1000).Travels := ⟨trivial, MoveKind.noConfusion, by decide⟩
  obtain ⟨collapses, -, -, line⟩ :=
    Reachable.instant_collapses defaultPeriod_isFinite defaultPeriod_pos reach 1000
  refine ⟨defaultPeriod_isFinite, defaultPeriod_pos, reach, given, collapses orders given,
    commands, commands', travels, ?_⟩
  apply line true _ _ _ [] first [twist, second] commands commands' travels
  exact ⟨second, by simp, rfl⟩

end MotionEmulator
