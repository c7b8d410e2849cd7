import Mathlib.Data.List.Basic
import Mathlib.Logic.Function.Iterate
import MotionEmulator.Link.Scripted

/-!
# Conservation of chunks

A scripted link neither loses nor invents chunks. `ScriptedLink.Leads` is all that can befall a
link, in any order: a chunk is fed, it is disconnected, or some reader asks it in some phase. What
every such step keeps is proved once, by induction on that relation.

A `ScriptedLink.pass` is a reading of so many questions. `Asked` is what one question does to it
(`asked_next`), and `Passed` what all of them have done; a pass that is given up after any number of
questions is no special case. `ScriptedLink.conserved` puts feeding, disconnecting and passes
together, for every script and every sequence of them.
-/

namespace MotionEmulator

namespace Reading

variable {σ α : Type} {pull : σ → Phase → Pulled σ α} {react : Reaction σ}

/-- A reading and its phase after one more question. A reading that has ended asks none. -/
def next (pull : σ → Phase → Pulled σ α) (react : Reaction σ) (p : Reading σ α × Phase) :
    Reading σ α × Phase :=
  match p.1.ending with
  | some _ => p
  | none => p.1.step pull react p.2

theorem next_ended {p : Reading σ α × Phase} {ending : ReadingEnd}
    (ended : p.1.ending = some ending) : next pull react p = p := by
  rw [next, ended]

theorem next_going {p : Reading σ α × Phase} (going : p.1.ending = none) :
    next pull react p = p.1.step pull react p.2 := by
  rw [next, going]

/-- A run is so many questions one after the other. -/
theorem run_eq_iterate (pull : σ → Phase → Pulled σ α) (react : Reaction σ) (count : Nat)
    (p : Reading σ α × Phase) :
    run pull react count p.1 p.2 = ((next pull react)^[count] p).1 := by
  induction count generalizing p with
  | zero => rfl
  | succ count ih =>
    rw [run, Function.iterate_succ_apply]
    cases going : p.1.ending with
    | none =>
      rw [next_going going]
      exact ih _
    | some ending =>
      have fixed : next pull react p = p := next_ended going
      rw [fixed, Function.iterate_fixed fixed]

end Reading

namespace ScriptedLink

/-- No chunk is left, or the link is disconnected. -/
def Spent (l : ScriptedLink) : Prop :=
  l.scripted = [] ∨ l.connected = false

/-- A reader that goes on now will find the link broken. -/
def Breaks (l : ScriptedLink) : Prop :=
  l.connected = true ∧ l.scripted ≠ [] ∧
    ∃ limit, l.failAfter = some limit ∧ limit ≤ (l.delivered.length : Int)

/-- The link has not delivered more than it may. -/
def Limited (l : ScriptedLink) : Prop :=
  ∀ limit, l.failAfter = some limit → (l.delivered.length : Int) ≤ max 0 limit

theorem isBroken_iff {l : ScriptedLink} :
    l.isBroken = true ↔
      ∃ limit, l.failAfter = some limit ∧ limit ≤ (l.delivered.length : Int) := by
  rw [isBroken, Option.any_eq_true]
  simp only [decide_eq_true_eq]

/-- A link that is not broken is below its limit. -/
theorem length_delivered_lt {l : ScriptedLink} {limit : Int} (whole : l.isBroken = false)
    (set : l.failAfter = some limit) : (l.delivered.length : Int) < limit := by
  refine Int.not_le.1 fun reached => ?_
  cases whole.symm.trans (isBroken_iff.2 ⟨limit, set, reached⟩)

theorem Breaks.isBroken {l : ScriptedLink} (breaks : l.Breaks) : l.isBroken = true :=
  isBroken_iff.2 breaks.2.2

/-! ## Questions to a link -/

/-- What a question does to a link. -/
inductive Answers (l : ScriptedLink) : Phase → Pulled ScriptedLink (List Char) → Prop
  | rests : Answers l .handed ⟨.pause l.interval, l, .looking, []⟩
  | ends {phase : Phase} (asks : phase ≠ .handed) (spent : l.Spent) :
      Answers l phase ⟨.finished none, l, .looking, []⟩
  | breaks {phase : Phase} (asks : phase ≠ .handed) (breaks : l.Breaks) :
      Answers l phase ⟨.finished (some .dropped), l.disconnect, .looking, []⟩
  | delivers {phase : Phase} {chunk : List Char} {rest : List (List Char)}
      (asks : phase ≠ .handed) (script : l.scripted = chunk :: rest)
      (connected : l.connected = true) (whole : l.isBroken = false) :
      Answers l phase
        ⟨.chunk chunk, { l with scripted := rest, delivered := l.delivered ++ [chunk] }, .handed,
          []⟩

theorem answers_pull (l : ScriptedLink) (phase : Phase) : l.Answers phase (l.pull phase) := by
  by_cases asks : phase = .handed
  · subst asks
    exact .rests
  · unfold pull
    rw [if_neg asks]
    split
    case h_1 script => exact .ends asks (.inl script)
    case h_2 chunk rest script =>
      split
      case isTrue apart => exact .ends asks (.inr (by simpa using apart))
      case isFalse joined =>
        have connected : l.connected = true := by simpa using joined
        split
        case isTrue broken =>
          have scripted : l.scripted ≠ [] := by
            rw [script]
            exact List.cons_ne_nil _ _
          exact .breaks asks ⟨connected, scripted, isBroken_iff.1 broken⟩
        case isFalse whole =>
          exact .delivers asks script connected (Bool.eq_false_iff.2 whole)

/-- What can befall a link, with the chunks that were fed on the way. -/
inductive Leads (l : ScriptedLink) : List (List Char) → ScriptedLink → Prop
  | refl : Leads l [] l
  | feed {fed : List (List Char)} {l' : ScriptedLink} (way : Leads l fed l')
      (chunk : List Char) : Leads l (fed ++ [chunk]) (l'.feed chunk)
  | disconnect {fed : List (List Char)} {l' : ScriptedLink} (way : Leads l fed l') :
      Leads l fed l'.disconnect
  | ask {fed : List (List Char)} {l' : ScriptedLink} {phase : Phase}
      {p : Pulled ScriptedLink (List Char)} (way : Leads l fed l') (answer : l'.Answers phase p) :
      Leads l fed p.source

namespace Leads

variable {l l' l'' : ScriptedLink} {fed fed' : List (List Char)}

theorem trans (first : Leads l fed l') (second : Leads l' fed' l'') :
    Leads l (fed ++ fed') l'' := by
  induction second with
  | refl =>
    rw [List.append_nil]
    exact first
  | feed _ chunk ih =>
    rw [← List.append_assoc]
    exact ih.feed chunk
  | disconnect _ ih => exact ih.disconnect
  | ask _ answer ih => exact ih.ask answer

/-- **Every chunk is either still scripted or delivered, in the order of the script.** -/
theorem chunks (way : Leads l fed l') : l'.chunks = l.chunks ++ fed := by
  induction way with
  | refl => rw [List.append_nil]
  | feed _ chunk ih =>
    rw [← List.append_assoc, ← ih]
    exact (List.append_assoc _ _ _).symm
  | disconnect _ ih => exact ih
  | ask _ answer ih =>
    rw [← ih]
    cases answer with
    | rests | ends | breaks => rfl
    | delivers asks script =>
      rw [ScriptedLink.chunks, ScriptedLink.chunks, script, List.append_assoc]
      rfl

theorem failAfter (way : Leads l fed l') : l'.failAfter = l.failAfter := by
  induction way with
  | refl => rfl
  | feed _ _ ih => exact ih
  | disconnect _ ih => exact ih
  | ask _ answer ih =>
    rw [← ih]
    cases answer <;> rfl

/-- **A link never delivers more than it may.** It delivers only while it is below its limit. -/
theorem limited (way : Leads l fed l') (limited : l.Limited) : l'.Limited := by
  induction way with
  | refl => exact limited
  | feed _ _ ih => exact ih
  | disconnect _ ih => exact ih
  | @ask fed l' phase p way answer ih =>
    cases answer with
    | rests | ends | breaks => exact ih
    | delivers asks script connected whole =>
      intro limit set
      have below := length_delivered_lt whole set
      change ((l'.delivered ++ [_]).length : Int) ≤ max 0 limit
      rw [List.length_append, List.length_singleton]
      omega

/-- **Once a link is disconnected it stays so and delivers nothing more.** -/
theorem still (way : Leads l fed l') (apart : l.connected = false) :
    l'.connected = false ∧ l'.delivered = l.delivered := by
  induction way with
  | refl => exact ⟨apart, rfl⟩
  | feed _ _ ih => exact ih
  | disconnect _ ih => exact ⟨rfl, ih.2⟩
  | ask _ answer ih =>
    cases answer with
    | rests | ends => exact ih
    | breaks => exact ⟨rfl, ih.2⟩
    | delivers asks script connected => cases ih.1.symm.trans connected

end Leads

/-! ## Passes -/

/-- What a habit has fed once so many chunks have come. -/
def Habit.fedBy : Habit → Nat → List (List Char)
  | feedAt count chunk, arrived => if 1 ≤ count ∧ count ≤ (arrived : Int) then [chunk] else []
  | _, _ => []

theorem Habit.length_fedBy_le (habit : Habit) (arrived : Nat) :
    (habit.fedBy arrived).length ≤ 1 := by
  cases habit with
  | drain | take | disconnectAt => exact Nat.zero_le 1
  | feedAt count chunk =>
    rw [fedBy]
    split
    · exact Nat.le_refl 1
    · exact Nat.zero_le 1

theorem Habit.fedBy_zero (habit : Habit) : habit.fedBy 0 = [] := by
  cases habit with
  | drain | take | disconnectAt => rfl
  | feedAt count chunk => exact if_neg (by omega)

/-- A habit goes on or stops, and reports nothing. -/
theorem Habit.exists_reaction (habit : Habit) (arrived : Nat) (l : ScriptedLink) :
    ∃ stop, habit.reaction arrived l = .done (habit.reaction arrived l).state stop := by
  cases habit <;> exact ⟨_, rfl⟩

/-- A habit delivers nothing, and feeds its chunk when it is time for it. -/
theorem Habit.reaction_leads (habit : Habit) (arrived : Nat) (l : ScriptedLink) :
    ∃ fed, habit.fedBy (arrived + 1) = habit.fedBy arrived ++ fed ∧
      Leads l fed (habit.reaction (arrived + 1) l).state ∧
      (habit.reaction (arrived + 1) l).state.delivered = l.delivered := by
  cases habit with
  | drain | take => exact ⟨[], rfl, .refl, rfl⟩
  | disconnectAt count =>
    refine ⟨[], rfl, ?_⟩
    unfold reaction
    dsimp only [Outcome.done]
    split
    · exact ⟨Leads.refl.disconnect, rfl⟩
    · exact ⟨.refl, rfl⟩
  | feedAt count chunk =>
    unfold reaction fedBy
    dsimp only [Outcome.done]
    by_cases now : ((arrived + 1 : Nat) : Int) = count
    · refine ⟨[chunk], ?_, ?_⟩
      · rw [if_pos (by omega), if_neg (by omega), List.nil_append]
      · rw [if_pos now]
        exact ⟨Leads.refl.feed chunk, rfl⟩
    · refine ⟨[], ?_, ?_⟩
      · have same : (1 ≤ count ∧ count ≤ ((arrived + 1 : Nat) : Int)) ↔
            1 ≤ count ∧ count ≤ (arrived : Int) := by
          omega
        rw [if_congr same rfl rfl, List.append_nil]
      · rw [if_neg now]
        exact ⟨.refl, rfl⟩

/-- A reading of a scripted link, and its phase. -/
abbrev Pass : Type :=
  Reading ScriptedLink (List Char) × Phase

/-- A reading of the link after so many questions. A reader who gives up before the end leaves it
at that. -/
def pass (l : ScriptedLink) (habit : Habit) (time : Binary64) (questions : Nat) : Pass :=
  (Reading.next pull habit.reaction)^[questions] ({ source := l, time }, .looking)

/-- The reader goes on and looks for a chunk. -/
def Pass.Asks (p : Pass) : Prop :=
  p.1.ending = none ∧ p.2 ≠ .handed

/-- What one more question does to a pass. -/
inductive Asked (habit : Habit) : Pass → Pass → Prop
  | stays {p : Pass} {ending : ReadingEnd} (ended : p.1.ending = some ending) : Asked habit p p
  | rests {r : Reading ScriptedLink (List Char)} (going : r.ending = none) :
      Asked habit (r, .handed)
        ({ r with time := afterPause r.time r.source.interval }, .looking)
  | ends {r : Reading ScriptedLink (List Char)} {phase : Phase} (going : r.ending = none)
      (asks : phase ≠ .handed) (spent : r.source.Spent) :
      Asked habit (r, phase) ({ r with ending := some (.ended none) }, .looking)
  | breaks {r : Reading ScriptedLink (List Char)} {phase : Phase} (going : r.ending = none)
      (asks : phase ≠ .handed) (breaks : r.source.Breaks) :
      Asked habit (r, phase)
        ({ r with source := r.source.disconnect, ending := some (.ended (some .dropped)) },
          .looking)
  | delivers {r : Reading ScriptedLink (List Char)} {phase : Phase} {l : ScriptedLink}
      {chunk : List Char} {ending : Option ReadingEnd} (going : r.ending = none)
      (asks : phase ≠ .handed) (whole : ¬ r.source.Breaks)
      (delivered : l.delivered = r.source.delivered ++ [chunk])
      (way : Leads r.source [] l) (goes : ∀ cause, ending ≠ some (.ended cause)) :
      Asked habit (r, phase)
        ({ r with
            source := (habit.reaction (r.arrivals.size + 1) l).state
            arrivals := r.arrivals.push (r.time, chunk)
            ending }, .handed)

theorem asked_next (habit : Habit) (p : Pass) :
    Asked habit p (Reading.next pull habit.reaction p) := by
  obtain ⟨r, phase⟩ := p
  cases going : r.ending with
  | some ending =>
    rw [Reading.next_ended going]
    exact .stays going
  | none =>
    rw [Reading.next_going going]
    have answer := r.source.answers_pull phase
    have asked : Leads r.source [] (r.source.pull phase).source := Leads.refl.ask answer
    unfold Reading.step
    dsimp only
    generalize r.source.pull phase = answered at answer asked ⊢
    cases answer with
    | rests => simpa using Asked.rests going
    | ends asks spent => simpa using Asked.ends going asks spent
    | breaks asks breaks => simpa using Asked.breaks going asks breaks
    | @delivers phase chunk rest asks script connected whole =>
      obtain ⟨stop, reacts⟩ := habit.exists_reaction (r.arrivals.size + 1)
        { r.source with scripted := rest, delivered := r.source.delivered ++ [chunk] }
      have unbroken : ¬ r.source.Breaks := fun breaks => by
        cases whole.symm.trans breaks.isBroken
      dsimp only
      rw [Array.size_push, reacts]
      have after (ending : Option ReadingEnd) (goes : ∀ cause, ending ≠ some (.ended cause)) :=
        @Asked.delivers habit r phase _ chunk ending going asks unbroken rfl asked goes
      cases stop with
      | true => simpa [Outcome.done] using after (some .stopped) (by simp)
      | false => simpa [Outcome.done, going] using after none (by simp)

/-- What a pass of so many questions over a link has come to. -/
structure Passed (l : ScriptedLink) (habit : Habit) (questions : Nat) (p : Pass) : Prop where
  way : Leads l (habit.fedBy p.1.arrivals.size) p.1.source
  arrived : p.1.source.delivered = l.delivered ++ p.1.arrivals.toList.map (·.2)
  broken : ∀ cause, p.1.ending = some (.ended (some cause)) → p.1.source.connected = false
  /-- Until the end each chunk has taken two questions, the one after it included. -/
  asked : p.1.ending = none →
    questions + (if p.2 = .handed then 1 else 0) = 2 * p.1.arrivals.size

variable {l : ScriptedLink} {habit : Habit} {time : Binary64} {n m : Nat}

theorem Passed.next {p p' : Pass} (passed : Passed l habit n p) (asked : Asked habit p p') :
    Passed l habit (n + 1) p' := by
  obtain ⟨way, arrived, broken, count⟩ := passed
  cases asked with
  | stays ended => exact ⟨way, arrived, broken, fun going => by cases ended.symm.trans going⟩
  | rests going =>
    refine ⟨way, arrived, broken, fun _ => ?_⟩
    rw [if_neg Phase.noConfusion]
    exact count going
  | ends => exact ⟨way, arrived, nofun, nofun⟩
  | breaks => exact ⟨way.disconnect, arrived, fun _ _ => rfl, nofun⟩
  | @delivers r phase l' chunk ending going asks whole delivered taken goes =>
    obtain ⟨fed, feeds, acts, same⟩ := habit.reaction_leads r.arrivals.size l'
    refine ⟨?_, ?_, fun cause ended => absurd ended (goes _), fun _ => ?_⟩
    · rw [Array.size_push, feeds]
      have whole := (way.trans taken).trans acts
      rw [List.append_nil] at whole
      exact whole
    · rw [same, delivered, arrived, Array.toList_push, List.map_append, List.append_assoc]
      rfl
    · have before : n + 0 = 2 * r.arrivals.size := by
        have before := count going
        rw [if_neg asks] at before
        exact before
      rw [if_pos rfl, Array.size_push]
      omega

theorem pass_succ (l : ScriptedLink) (habit : Habit) (time : Binary64) (n : Nat) :
    l.pass habit time (n + 1) = Reading.next pull habit.reaction (l.pass habit time n) :=
  Function.iterate_succ_apply' _ _ _

theorem asked_pass (l : ScriptedLink) (habit : Habit) (time : Binary64) (n : Nat) :
    Asked habit (l.pass habit time n) (l.pass habit time (n + 1)) := by
  rw [pass_succ]
  exact asked_next habit _

theorem passed (l : ScriptedLink) (habit : Habit) (time : Binary64) (n : Nat) :
    Passed l habit n (l.pass habit time n) := by
  induction n with
  | zero =>
    refine ⟨?_, (List.append_nil _).symm, nofun, fun _ => rfl⟩
    have start : Leads l (habit.fedBy 0) l := by
      rw [habit.fedBy_zero]
      exact .refl
    exact start
  | succ n ih => exact ih.next (l.asked_pass habit time n)

/-- **A pass comes to its end.** Each chunk takes two questions, one more may be fed, and the end
takes one. -/
theorem ending_pass (l : ScriptedLink) (habit : Habit) (time : Binary64)
    (enough : 2 * l.scripted.length + 3 ≤ n) : (l.pass habit time n).1.ending ≠ none := by
  intro going
  have passed := l.passed habit time n
  -- The questions are twice the arrivals, and only what is scripted or fed can arrive.
  have asked := passed.asked going
  have chunks := congrArg List.length passed.way.chunks
  have arrived := congrArg List.length passed.arrived
  have fed := habit.length_fedBy_le (l.pass habit time n).1.arrivals.size
  simp only [ScriptedLink.chunks, List.length_append, List.length_map, Array.length_toList]
    at chunks arrived
  omega

/-- A pass that has ended stays as it is. -/
theorem pass_eq_of_ended {ending : ReadingEnd}
    (ended : (l.pass habit time n).1.ending = some ending) (later : n ≤ m) :
    l.pass habit time m = l.pass habit time n := by
  induction later with
  | refl => rfl
  | step _ ih => rw [pass_succ, ih, Reading.next_ended ended]

theorem read_eq_pass (l : ScriptedLink) (habit : Habit) (time : Binary64) :
    l.read habit time = (l.pass habit time (2 * l.scripted.length + 3)).1 :=
  Reading.run_eq_iterate pull habit.reaction _ ({ source := l, time }, .looking)

/-- A pass that goes on later only adds to what it was. -/
theorem leads_pass (l : ScriptedLink) (habit : Habit) (time : Binary64) (later : n ≤ m) :
    ∃ fed, Leads (l.pass habit time n).1.source fed (l.pass habit time m).1.source := by
  induction later with
  | refl => exact ⟨[], .refl⟩
  | @step m _ ih =>
    obtain ⟨fed, way⟩ := ih
    have asked := l.asked_pass habit time m
    generalize l.pass habit time (m + 1) = p' at asked ⊢
    generalize l.pass habit time m = p at asked way
    cases asked with
    | stays | rests | ends => exact ⟨fed, way⟩
    | breaks => exact ⟨fed, way.disconnect⟩
    | @delivers r phase l' chunk ending going asks whole delivered taken goes =>
      obtain ⟨fed', -, acts, -⟩ := habit.reaction_leads r.arrivals.size l'
      exact ⟨_, (way.trans taken).trans acts⟩

/-- A pass has failed if it had before or if it now goes on over a link that breaks. -/
theorem Asked.fails_iff {p p' : Pass} (asked : Asked habit p p') {cause : Fault} :
    p'.1.ending = some (.ended (some cause)) ↔
      p.1.ending = some (.ended (some cause)) ∨
        cause = .dropped ∧ p.Asks ∧ p.1.source.Breaks := by
  unfold Pass.Asks
  cases asked with
  | stays ended => simp [ended]
  | rests going => simp [going]
  | ends going asks spent =>
    have whole : ¬ Breaks _ := fun breaks => spent.elim breaks.2.1 (by simp [breaks.1])
    simp [going, whole]
  | breaks going asks breaks => simp [going, asks, breaks, eq_comm]
  | delivers going asks whole delivered way goes => simp [going, whole, goes]

/-- **When a pass fails.** It goes on over a connected link with a chunk still to come and as many
delivered as the link allows. -/
theorem pass_fails_iff (l : ScriptedLink) (habit : Habit) (time : Binary64) (n : Nat)
    (cause : Fault) :
    (l.pass habit time n).1.ending = some (.ended (some cause)) ↔
      cause = .dropped ∧
        ∃ m < n, (l.pass habit time m).Asks ∧ (l.pass habit time m).1.source.Breaks := by
  induction n with
  | zero => simp [pass]
  | succ n ih =>
    rw [(l.asked_pass habit time n).fails_iff, ih, Nat.exists_lt_succ_right]
    exact and_or_left.symm

/-! ## Histories -/

/-- What is done to a link from outside. A pass that is granted few questions is given up. -/
inductive Operation where
  | feed (chunk : List Char)
  | disconnect
  | pass (habit : Habit) (time : Binary64) (questions : Nat)

/-- The link after an operation. -/
def Operation.on (l : ScriptedLink) : Operation → ScriptedLink
  | feed chunk => l.feed chunk
  | disconnect => l.disconnect
  | pass habit time questions => (l.pass habit time questions).1.source

/-- What an operation feeds. -/
def Operation.fed (l : ScriptedLink) : Operation → List (List Char)
  | feed chunk => [chunk]
  | disconnect => []
  | pass habit time questions => habit.fedBy (l.pass habit time questions).1.arrivals.size

/-- The link after operations. -/
def operate (l : ScriptedLink) (ops : List Operation) : ScriptedLink :=
  ops.foldl Operation.on l

/-- What operations feed, in order. -/
def fedBy (l : ScriptedLink) : List Operation → List (List Char)
  | [] => []
  | op :: later => op.fed l ++ (op.on l).fedBy later

theorem Operation.leads (l : ScriptedLink) (op : Operation) : Leads l (op.fed l) (op.on l) := by
  cases op with
  | feed chunk => exact Leads.refl.feed chunk
  | disconnect => exact Leads.refl.disconnect
  | pass habit time questions => exact (l.passed habit time questions).way

theorem leads_operate (l : ScriptedLink) (ops : List Operation) :
    Leads l (l.fedBy ops) (l.operate ops) := by
  induction ops generalizing l with
  | nil => exact .refl
  | cons op later ih => exact (op.leads l).trans (ih (op.on l))

/-- What is true of a link to which operations have led, and of each pass that may follow. The last
of the operations may be a pass at any of its points. -/
structure Conserved (l₀ : ScriptedLink) (ops : List Operation) (l : ScriptedLink) : Prop where
  /-- Nothing is lost, doubled or put elsewhere. -/
  chunks : l.delivered ++ l.scripted = l₀.scripted ++ l₀.fedBy ops
  limited : ∀ limit, l₀.failAfter = some limit → (l.delivered.length : Int) ≤ max 0 limit
  /-- What a pass brings is what the link delivers. -/
  arrived : ∀ habit time n, (l.pass habit time n).1.source.delivered =
    l.delivered ++ (l.pass habit time n).1.arrivals.toList.map (·.2)
  /-- A pass to its end is one of enough questions. -/
  ends : ∀ habit time, (l.read habit time).ending ≠ none ∧
    ∀ n, 2 * l.scripted.length + 3 ≤ n → (l.pass habit time n).1 = l.read habit time
  /-- A pass fails when it goes on over a link that breaks, and then only. -/
  fails : ∀ habit time n cause,
    (l.pass habit time n).1.ending = some (.ended (some cause)) ↔ cause = .dropped ∧
      ∃ m < n, (l.pass habit time m).Asks ∧ (l.pass habit time m).1.source.Breaks
  /-- After a failure the link is never connected again. -/
  broken : ∀ habit time n cause later,
    (l.pass habit time n).1.ending = some (.ended (some cause)) →
      (l.operate (.pass habit time n :: later)).connected = false
  /-- A disconnected link delivers nothing more, whatever is done to it. -/
  still : l.connected = false → ∀ later, (l.operate later).delivered = l.delivered
  /-- Nor does it within a pass that goes on after the link was disconnected. -/
  stillWithin : ∀ habit time n m, n ≤ m → (l.pass habit time n).1.source.connected = false →
    (l.pass habit time m).1.source.delivered = (l.pass habit time n).1.source.delivered

/-- **A scripted link conserves its chunks**, whatever is fed to it, however it is read and wherever
its readers give up. -/
theorem conserved (script : List (List Char)) (failAfter : Option Int) (interval : Binary64)
    (ops : List Operation) :
    let l₀ : ScriptedLink := { scripted := script, failAfter, interval }
    Conserved l₀ ops (l₀.operate ops) := by
  intro l₀
  have way := l₀.leads_operate ops
  generalize l₀.operate ops = l at way ⊢
  exact {
    chunks := way.chunks
    limited := fun limit set => by
      have fresh : l₀.Limited := fun limit _ => Int.le_max_left 0 limit
      exact way.limited fresh limit (way.failAfter.trans set)
    arrived := fun habit time n => (l.passed habit time n).arrived
    ends := fun habit time => by
      have ends := l.ending_pass habit time (Nat.le_refl _)
      rw [← read_eq_pass] at ends
      obtain ⟨ending, ended⟩ := Option.ne_none_iff_exists'.1 ends
      refine ⟨ends, fun n enough => ?_⟩
      rw [read_eq_pass] at ended ⊢
      rw [pass_eq_of_ended ended enough]
    fails := l.pass_fails_iff
    broken := fun habit time n cause later failed => by
      have apart := (l.passed habit time n).broken cause failed
      exact ((leads_operate _ later).still apart).1
    still := fun apart later => ((l.leads_operate later).still apart).2
    stillWithin := fun habit time n m later apart => by
      obtain ⟨fed, way⟩ := l.leads_pass habit time later
      exact (way.still apart).2 }

/-- A link that may deliver as many chunks as its script has breaks only once one more is fed. -/
example :
    let l : ScriptedLink := { scripted := [['a']], failAfter := some 1 }
    (l.read .drain 0).ending = some (.ended none) ∧
      (((l.read .drain 0).source.feed ['b']).read .drain 0).ending =
        some (.ended (some .dropped)) := by
  decide +kernel

end ScriptedLink

end MotionEmulator
