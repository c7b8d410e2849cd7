import MotionEmulator.Proofs.Link.Conservation
import MotionEmulator.Proofs.ReadLoop.Contract
import MotionEmulator.Proofs.Service.Delivery

/-!
# What is told of the end of read loops

A read loop over a script tells of its end with its last step, once, and with no other step
(`Performs.step`). So, turn by turn, what has been told of a device's end is the number of its read
loops that are over (`Goes.told`).

The frame loop may come to its limit while a read loop goes on. That loop is then cut off
(`CutsOff`), and a loop that is cut off says nothing. `serve_tells_ends` has this as its condition,
for all scripts, states and intervals of the links and for every limit.
-/

namespace MotionEmulator

/-- The entry tells of the end of the read loop of a device of that name. -/
def Entry.TellsEnd (name : String) (e : Entry) : Prop :=
  (e.level = .info ∧ e.message = name ++ ": end of stream") ∨
    (e.level = .critical ∧ e.message = name ++ ": transport failed, read loop stopped")

instance (name : String) : DecidablePred (Entry.TellsEnd name) :=
  fun _ => inferInstanceAs (Decidable ((_ ∧ _) ∨ (_ ∧ _)))

/-- How many entries tell of the end of a device's read loop. -/
def endsTold (name : String) (entries : List Entry) : Nat :=
  entries.countP (·.TellsEnd name)

@[simp] theorem endsTold_nil (name : String) : endsTold name [] = 0 := rfl

@[simp] theorem endsTold_append (name : String) (entries later : List Entry) :
    endsTold name (entries ++ later) = endsTold name entries + endsTold name later :=
  List.countP_append

/-- Commands and positions tell of no end. -/
theorem endsTold_of_level {entries : List Entry}
    (level : ∀ e ∈ entries, e.level = .command ∨ e.level = .axis) (name : String) :
    endsTold name entries = 0 := by
  refine List.countP_eq_zero.2 fun e mem tells => ?_
  rcases of_decide_eq_true tells with ⟨info, -⟩ | ⟨critical, -⟩
  · rcases level e mem with eq | eq <;> cases info.symm.trans eq
  · rcases level e mem with eq | eq <;> cases critical.symm.trans eq

namespace ReadLoop

variable {d : Device} {l : ReadLoop} {cause : Option Fault}

/-- The farewell of a loop that a transport has ended names its device and no other. -/
theorem endsTold_farewell (d : Device) (transport : ∀ c, cause = some c → c.isTransport = true)
    (name : String) : endsTold name (farewell d cause).1 = if d.name = name then 1 else 0 := by
  cases cause with
  | none =>
    change List.countP _ [_] = _
    rw [List.countP_singleton]
    simp [Entry.TellsEnd, String.append_left_inj]
  | some c =>
    unfold farewell
    dsimp only
    rw [if_pos (transport c rfl)]
    change List.countP _ [_] = _
    rw [List.countP_singleton]
    simp [Entry.TellsEnd, String.append_left_inj]

/-- A loop performs the script that its own device is attached to. -/
def Performs (d : Device) (l : ReadLoop) : Prop :=
  ∃ place phase link, l = ofLink place phase ∧ d.attached = some place ∧
    d.links[place]? = some (.scripted link)

/-- What a step of a loop over a script does. The last one tells of the end of its device's loop, no
other step tells of any. -/
structure StepTells (d : Device) (step : LoopStep) : Prop where
  name : step.device.name = d.name
  sound : step.device.receiver.Sound
  performs : step.status.reached ≠ .over → Performs step.device step.loop
  told : ∀ name, endsTold name step.entries =
    if step.status.reached = .over ∧ d.name = name then 1 else 0

/-- **The steps of a loop over a script.** -/
theorem Performs.step (performs : Performs d l) (sound : d.receiver.Sound) (time : Binary64) :
    StepTells d (l.step d time) := by
  obtain ⟨place, phase, link, rfl, attached, found⟩ := performs
  obtain ⟨inside, at'⟩ := List.getElem?_eq_some_iff.1 found
  have same : { d with links := d.links.set place (.scripted link) } = d := by
    rw [← at', List.set_getElem_self]
  have carries := carries_link inside true
  have kept (link' : ScriptedLink) :
      (d.links.set place (.scripted link'))[place]? = some (.scripted link') :=
    List.getElem?_set_self inside
  -- A loop that a transport ends lets go of the link without another word.
  have ends {link' : ScriptedLink} {cause : Option Fault}
      (transport : ∀ c, cause = some c → c.isTransport = true)
      (answer : link.pull phase = ⟨.finished cause, link', .looking, []⟩) :
      StepTells d ((ofLink place phase).step d time) := by
    have step := step_of_finished (d := d) carries answer time
    rw [same] at step
    change (ofLink place phase).step d time = _ at step
    have released := release_own (d := { d with links := d.links.set place (.scripted link') })
      (l := ofLink place .looking) rfl attached (kept link')
    unfold ofLink at released
    dsimp only at step
    rw [step, released]
    refine ⟨rfl, sound, fun live => absurd rfl live, fun name => ?_⟩
    change endsTold name ((farewell d cause).1 ++ []) = _
    rw [List.append_nil, endsTold_farewell d transport]
    exact if_congr (and_iff_right rfl).symm rfl rfl
  have answers := link.answers_pull phase
  generalize answer : link.pull phase = p at answers
  cases answers with
  | rests =>
    have step := step_of_pause (d := d) carries answer time
    rw [same] at step
    change (ofLink place _).step d time = _ at step
    rw [step]
    refine ⟨rfl, sound, fun _ => ⟨place, _, link, rfl, attached, found⟩, fun name => ?_⟩
    rw [if_neg fun both => ReaderStatus.noConfusion both.1]
    rfl
  | ends =>
    refine ends ?_ answer
    nofun
  | breaks =>
    have transport (c : Fault) (eq : some Fault.dropped = some c) : c.isTransport = true := by
      cases eq
      rfl
    exact ends transport answer
  | @delivers _ chunk =>
    obtain ⟨r, made, written, sound', all⟩ :=
      sound.writeAll_cons ⟨.text chunk, Device.clock time⟩ []
    have step := step_of_chunk carries answer written
    rw [same] at step
    change (ofLink place _).step d time = _ at step
    rw [step]
    refine ⟨rfl, sound', fun _ => ⟨place, _, _, rfl, attached, kept _⟩, fun name => ?_⟩
    rw [if_neg fun both => ReaderStatus.noConfusion both.1]
    refine endsTold_of_level (fun e mem => .inl ?_) name
    refine sound.level_of_mem_writeAll [⟨.text chunk, Device.clock time⟩] e ?_
    rw [all]
    exact List.mem_append_left _ mem

theorem Performs.cancel (performs : Performs d l) : (l.cancel d).entries = [] := by
  obtain ⟨place, phase, link, rfl, attached, found⟩ := performs
  rw [ReadLoop.cancel, release_own rfl attached found]
  rfl

end ReadLoop

namespace Emulator

/-- Frames tell of positions only. -/
theorem level_of_mem_renderAll (time : Binary64) (devices : List Device) (r : Renderer) :
    ∀ e ∈ (renderAll time devices r).entries, e.level = .axis := by
  induction devices generalizing r with
  | nil => nofun
  | cons d rest ih =>
    unfold renderAll
    split
    · nofun
    · next f read =>
      intro e mem
      rcases List.mem_append.1 mem with own | later
      · change e ∈ (r.render f).2 at own
        cases r with
        | recording => cases own
        | logging =>
          unfold Renderer.render at own
          dsimp only at own
          split at own
          · rw [List.mem_singleton.1 own]
            rfl
          · cases own
      · exact ih _ e later

theorem endsTold_frame (e : Emulator) (name : String) : endsTold name e.frame.entries = 0 := by
  refine endsTold_of_level (fun x mem => .inr ?_) name
  refine level_of_mem_renderAll e.time e.devices e.renderer x ?_
  unfold frame Outcome.andThen Outcome.within at mem
  dsimp only at mem
  split at mem
  · exact mem
  · exact (List.mem_append.1 mem).resolve_right List.not_mem_nil

/-- Each device of an emulator has a name of its own and sound axes, and whatever is connected to it
is a script. -/
structure Staged (e : Emulator) : Prop where
  rate_finite : e.settings.frameRate.IsFinite
  rate_pos : 0 < e.settings.frameRate
  names : (e.devices.map Device.name).Nodup
  sound : ∀ d ∈ e.devices, d.receiver.Sound
  scripts : ∀ d ∈ e.devices, d.isConnected = true → ∃ link, d.link? = some (.scripted link)

theorem deviceName_injective : Function.Injective deviceName := by
  intro i j eq
  have digits : Nat.toDigits 10 i = Nat.toDigits 10 j :=
    String.ofList_injective ((String.append_right_inj "device").1 eq)
  calc
    i = Nat.ofDigitChars 10 (Nat.toDigits 10 i) 0 := Nat.ofDigitChars_ten_toDigits.symm
    _ = Nat.ofDigitChars 10 (Nat.toDigits 10 j) 0 := by rw [digits]
    _ = j := Nat.ofDigitChars_ten_toDigits

/-- A new emulator with settings that it can run on is staged. -/
theorem staged_fresh {settings : Settings} (rate_finite : settings.frameRate.IsFinite)
    (rate_pos : 0 < settings.frameRate) (period_finite : settings.period.IsFinite)
    (period_pos : 0 < settings.period) (renderer : Renderer) (time : Binary64) :
    (fresh settings renderer time).Staged where
  rate_finite := rate_finite
  rate_pos := rate_pos
  names := by
    unfold fresh
    rw [List.map_map]
    exact List.nodup_range.map deviceName_injective
  sound d mem := by
    obtain ⟨i, -, rfl⟩ := List.mem_map.1 mem
    exact Receiver.sound_fresh period_finite period_pos _
  scripts d mem connected := by
    obtain ⟨i, -, rfl⟩ := List.mem_map.1 mem
    cases connected

/-- A staged emulator may be given any scripts. -/
theorem Staged.attach {e : Emulator} (staged : e.Staged) (link : ScriptedLink) (i : Nat) :
    (e.attachDevice i (.scripted link)).Staged where
  rate_finite := staged.rate_finite
  rate_pos := staged.rate_pos
  names := by
    have same : (e.attachDevice i (.scripted link)).devices.map Device.name =
        e.devices.map Device.name := by
      apply List.ext_getElem?
      intro j
      rw [attachDevice, List.getElem?_map, List.getElem?_modify, List.getElem?_map]
      cases e.devices[j]? with
      | none => rfl
      | some d =>
        change some (if i = j then d.attach (.scripted link) else d).name = some d.name
        split <;> rfl
    rw [same]
    exact staged.names
  sound d mem := by
    obtain ⟨d', old, rfl | rfl⟩ := exists_of_mem_attachDevice mem
    · exact staged.sound d old
    · exact staged.sound d' old
  scripts d mem connected := by
    obtain ⟨d', old, rfl | rfl⟩ := exists_of_mem_attachDevice mem
    · exact staged.scripts d old connected
    · exact ⟨link, List.getElem?_concat_length⟩

end Emulator

namespace Service

open ReadLoop Emulator

variable {s t u : Service} {made : List Entry} {past : List Service} {rest : List Call}
  {place i : Nat} {r : Reader} {d d₀ : Device} {turn : Turn} {e : Emulator} {limit : Option Int}

/-! ## Loops that are over -/

/-- The number of read loops over the device at a place that are over. -/
def endings (s : Service) (i : Nat) : Nat :=
  s.readers.countP fun r => r.status = .over ∧ r.device = i

theorem endings_stepped (reader : s.readers[place]? = some r) (live : r.status ≠ .over)
    (step : LoopStep) (i : Nat) :
    (s.stepped place r step).endings i =
      s.endings i + if step.status.reached = .over ∧ r.device = i then 1 else 0 := by
  obtain ⟨inside, at'⟩ := List.getElem?_eq_some_iff.1 reader
  have going : decide (r.status = .over ∧ r.device = i) = false :=
    decide_eq_false fun both => live both.1
  change (s.readers.set place (r.after step)).countP _ = _
  rw [List.countP_set inside, at', going, if_neg Bool.false_ne_true]
  exact congrArg _ (if_congr decide_eq_true_iff rfl rfl)

theorem endings_start (e : Emulator) (limit : Option Int) (i : Nat) :
    (start e limit).endings i = 0 := by
  refine List.countP_eq_zero.2 fun r mem ended => ?_
  obtain ⟨i, d, place, -, -, -, rfl⟩ := mem_readersOf.1 mem
  cases (of_decide_eq_true ended).1

/-- No device has two loops. -/
theorem Seated.endings_le_one (seated : s.Seated) (i : Nat) : s.endings i ≤ 1 :=
  calc
    s.endings i ≤ s.readers.countP fun r => r.device = i :=
      List.countP_mono_left fun r _ both => decide_eq_true (of_decide_eq_true both).2
    _ = (s.readers.map Reader.device).count i := by
      rw [List.count, List.countP_map]
      rfl
    _ ≤ 1 := List.nodup_iff_count_le_one.1 seated.distinct i

theorem Seated.eq_of_device (seated : s.Seated) {r' : Reader} (mem : r ∈ s.readers)
    (mem' : r' ∈ s.readers) (same : r.device = r'.device) : r = r' :=
  List.inj_on_of_nodup_map seated.distinct mem mem' same

/-- The loop over a device that has one counts. -/
theorem Seated.endings_eq_one_iff (seated : s.Seated) (mem : r ∈ s.readers) :
    s.endings r.device = 1 ↔ r.status = .over := by
  constructor
  · intro one
    obtain ⟨r', mem', both⟩ := List.countP_pos_iff.1 (Nat.lt_of_lt_of_eq Nat.one_pos one.symm)
    obtain ⟨last, same⟩ := of_decide_eq_true both
    rw [← seated.eq_of_device mem' mem same]
    exact last
  · intro last
    have some : 0 < s.endings r.device :=
      List.countP_pos_iff.2 ⟨r, mem, decide_eq_true ⟨last, rfl⟩⟩
    exact Nat.le_antisymm (seated.endings_le_one r.device) some

/-! ## What a turn tells -/

/-- The read loops that are not over drain scripts, each that of its own device. -/
def Performing (s : Service) : Prop :=
  ∀ (place : Nat) (r : Reader) (d : Device), s.readers[place]? = some r →
    s.emulator.devices[r.device]? = some d → r.status ≠ .over → Performs d r.loop

theorem Performing.put (performing : s.Performing) (seated : s.Seated)
    (reader : s.readers[place]? = some r) (device : s.emulator.devices[r.device]? = some d)
    {r' : Reader} {d' : Device} (same : r'.device = r.device)
    (own : r'.status ≠ .over → Performs d' r'.loop) : (s.put place r' d').Performing := by
  intro q r₁ d₁ reader₁ device₁ live
  by_cases at' : q = place
  · subst at'
    rw [reader_put reader] at reader₁
    cases reader₁
    rw [← same] at device
    cases (device_put device).symm.trans device₁
    exact own live
  · rw [reader_put_of_ne at'] at reader₁
    have ne : r₁.device ≠ r'.device := same ▸ seated.device_ne reader₁ reader at'
    exact performing q r₁ d₁ reader₁ ((device_put_of_ne ne).symm.trans device₁) live

/-- What a service keeps of a staged emulator. -/
structure Attends (e : Emulator) (s : Service) : Prop where
  settings : s.emulator.settings = e.settings
  names : s.emulator.devices.map Device.name = e.devices.map Device.name
  sound : ∀ d ∈ s.emulator.devices, d.receiver.Sound
  performing : s.Performing

theorem attends_start (staged : e.Staged) (limit : Option Int) : Attends e (start e limit) where
  settings := rfl
  names := rfl
  sound := staged.sound
  performing place r d reader device _ := by
    obtain ⟨i, d', k, device', connected, attached, rfl⟩ :=
      mem_readersOf.1 (List.mem_of_getElem? reader)
    cases device.symm.trans device'
    obtain ⟨link, current⟩ := staged.scripts d (List.mem_of_getElem? device) connected
    rw [Device.link?, attached, Option.bind_some] at current
    exact ⟨k, .looking, link, rfl, attached, current⟩

theorem Attends.of_eq (attends : Attends e s)
    (settings : t.emulator.settings = s.emulator.settings)
    (devices : t.emulator.devices = s.emulator.devices) (readers : t.readers = s.readers) :
    Attends e t where
  settings := settings.trans attends.settings
  names := by
    rw [devices]
    exact attends.names
  sound := by
    rw [devices]
    exact attends.sound
  performing := by
    unfold Performing
    rw [readers, devices]
    exact attends.performing

theorem Attends.stepped (attends : Attends e s) (seated : s.Seated)
    (reader : s.readers[place]? = some r) (device : s.emulator.devices[r.device]? = some d)
    (live : r.status ≠ .over) :
    Attends e (s.stepped place r (r.loop.step d s.emulator.time)) := by
  have performs := attends.performing place r d reader device live
  obtain ⟨inside, at'⟩ := List.getElem?_eq_some_iff.1 device
  obtain ⟨name, sound, goes_on, -⟩ :=
    performs.step (attends.sound d (List.mem_of_getElem? device)) s.emulator.time
  refine ⟨attends.settings, ?_, fun d' mem => ?_,
    attends.performing.put seated reader device rfl goes_on⟩
  · change (s.emulator.devices.set r.device _).map Device.name = _
    have inside' : r.device < (s.emulator.devices.map Device.name).length := by
      rwa [List.length_map]
    have same : d.name = (s.emulator.devices.map Device.name)[r.device] := by
      rw [List.getElem_map, at']
    rw [List.map_set, name, same, List.set_getElem_self]
    exact attends.names
  · rcases List.mem_or_eq_of_mem_set mem with old | rfl
    · exact attends.sound d' old
    · exact sound

/-- A turn goes on performing scripts. -/
theorem Goes.attends (goes : Goes s t made) (orderly : s.Orderly) (attends : Attends e s) :
    Attends e t := by
  have step {rest : List Call} {place : Nat} {r : Reader} {d : Device}
      (head : s.round = .turn (.reader place) :: rest) (reader : s.readers[place]? = some r)
      (device : s.emulator.devices[r.device]? = some d) :
      Attends e (s.stepped place r (r.loop.step d s.emulator.time)) := by
    obtain ⟨r', reader', live⟩ := orderly.live_of_turn head
    cases reader.symm.trans reader'
    exact attends.stepped orderly.toSeated reader device live
  cases goes with
  | shown =>
    refine attends.of_eq ?_ ?_ (readers_sleep ..)
    · rw [emulator_sleep]
      exact s.emulator.settings_frame
    · rw [emulator_sleep]
      exact s.emulator.devices_frame
  | idle => exact attends.of_eq rfl rfl rfl
  | running head reader device => exact step head reader device
  | asleep head reader device =>
    refine (step head reader device).of_eq ?_ ?_ (readers_sleep ..) <;> rw [emulator_sleep]
  | ended head reader device => exact (step head reader device).of_eq rfl rfl rfl
  | alarm => exact attends.of_eq rfl rfl rfl
  | began => exact attends.of_eq rfl rfl rfl

/-- Of staged devices each has a name of its own, whatever becomes of them. -/
theorem Attends.name_eq_iff (attends : Attends e s) (staged : e.Staged) {j : Nat}
    (device₀ : e.devices[i]? = some d₀) (device : s.emulator.devices[j]? = some d) :
    d.name = d₀.name ↔ j = i := by
  have name₀ : (e.devices.map Device.name)[i]? = some d₀.name := by
    rw [List.getElem?_map, device₀, Option.map_some]
  have name : (e.devices.map Device.name)[j]? = some d.name := by
    rw [← attends.names, List.getElem?_map, device, Option.map_some]
  constructor
  · intro eq
    have inside := (List.getElem?_eq_some_iff.1 name).1
    refine (List.getElem?_inj inside staged.names).1 ?_
    rw [name, name₀, eq]
  · rintro rfl
    exact Option.some.inj (name.symm.trans name₀)

/-- **What a turn tells of the end of a device's loops is how many of them it ends.** -/
theorem Goes.told (goes : Goes s t made) (orderly : s.Orderly) (attends : Attends e s)
    (staged : e.Staged) (device₀ : e.devices[i]? = some d₀) :
    t.endings i = s.endings i + endsTold d₀.name made := by
  have step {rest : List Call} {place : Nat} {r : Reader} {d : Device}
      (head : s.round = .turn (.reader place) :: rest) (reader : s.readers[place]? = some r)
      (device : s.emulator.devices[r.device]? = some d) :
      (s.stepped place r (r.loop.step d s.emulator.time)).endings i =
        s.endings i + endsTold d₀.name (r.loop.step d s.emulator.time).entries := by
    obtain ⟨r', reader', live⟩ := orderly.live_of_turn head
    cases reader.symm.trans reader'
    obtain ⟨-, -, -, told⟩ := (attends.performing place r d reader device live).step
      (attends.sound d (List.mem_of_getElem? device)) s.emulator.time
    rw [endings_stepped reader live, told]
    exact congrArg _ (if_congr (and_congr_right fun _ =>
      (attends.name_eq_iff staged device₀ device).symm) rfl rfl)
  cases goes with
  | shown =>
    rw [s.emulator.endsTold_frame, endings, readers_sleep]
    rfl
  | idle => rfl
  | running head reader device => exact step head reader device
  | asleep head reader device =>
    rw [endings, readers_sleep]
    exact step head reader device
  | ended head reader device => exact step head reader device
  | alarm => rfl
  | began => rfl

/-! ## The last turn -/

theorem Performing.cancelReader (performing : s.Performing) (seated : s.Seated) (place : Nat) :
    (s.cancelReader place).entries = [] ∧ (s.cancelReader place).result = .ok () ∧
      (s.cancelReader place).state.Seated ∧ (s.cancelReader place).state.Performing := by
  obtain ⟨result, ⟨same, quiet⟩ | ⟨r, d, reader, device, underway, eq⟩⟩ :=
    cancelReader_cases seated place
  · rw [same]
    refine ⟨?_, result, seated, performing⟩
    unfold Service.cancelReader
    split
    · rfl
    · next r reader =>
      rw [if_neg (quiet r reader)]
      rfl
  · have live : r.status ≠ .over := by
      rw [underway]
      exact ReaderStatus.noConfusion
    refine ⟨?_, result, ?_, ?_⟩
    · unfold Service.cancelReader Emulator.onDevice
      rw [reader]
      dsimp only
      rw [if_pos underway, device]
      exact (performing place r d reader device live).cancel
    · rw [eq]
      exact ((Cancels.refl s).put seated reader device underway).seated seated
    · rw [eq]
      exact performing.put seated reader device rfl fun live => absurd rfl live

/-- Loops over scripts are cancelled without a word. -/
theorem Performing.cancelAll (performing : s.Performing) (seated : s.Seated) (places : List Nat) :
    (cancelAll places s).entries = [] := by
  induction places generalizing s with
  | nil => rfl
  | cons place rest ih =>
    obtain ⟨entries, result, seated', performing'⟩ := performing.cancelReader seated place
    rw [Service.cancelAll, Outcome.andThen, result]
    dsimp only
    rw [entries, ih performing' seated']
    rfl

theorem Performing.finish (performing : s.Performing) (seated : s.Seated) (entries : List Entry)
    (result : Except Fault Unit) : (s.finish entries result).entries = entries := by
  change entries ++ (Service.cancelAll s.cancelOrder s).entries = entries
  rw [performing.cancelAll seated, List.append_nil]

/-- The last turn tells of no end. -/
theorem Ends.told (ends : Ends s turn) (seated : s.Seated) (performing : s.Performing)
    (name : String) : endsTold name turn.entries = 0 := by
  have framed := s.emulator.devices_frame
  have finish {u : Service} (readers : u.readers = s.readers)
      (devices : u.emulator.devices = s.emulator.devices) {entries : List Entry}
      (silent : endsTold name entries = 0) (result : Except Fault Unit) :
      endsTold name (u.finish entries result).entries = 0 := by
    have performing' : u.Performing := by
      unfold Performing
      rw [readers, devices]
      exact performing
    rw [performing'.finish (seated.of_eq (by rw [readers]) (by rw [devices]))]
    exact silent
  have silent := s.emulator.endsTold_frame name
  cases ends with
  | limited => exact finish (by rfl) (by rfl) (endsTold_nil name) _
  | unshown => exact finish (by rfl) (by exact framed) silent _
  | lastShown => exact finish (by rfl) (by exact framed) silent _
  | unpaused => exact finish (by rfl) (by exact framed) silent _
  | deserted => exact finish (by rfl) (by rfl) (endsTold_nil name) _

/-- The limit of frames is reached while a read loop over the device at a place goes on. -/
structure CutsOff (s : Service) (i : Nat) : Prop where
  head : ∃ rest, s.round = .turn .frames :: rest
  reached : s.isLimitReached = true
  live : ∃ r ∈ s.readers, r.device = i ∧ r.status ≠ .over

/-- A service that cuts a loop off ends with the next turn. -/
theorem CutsOff.result_ne_none (cuts : s.CutsOff i) : s.step.result ≠ none := by
  intro going
  obtain ⟨⟨rest, head⟩, reached, -⟩ := cuts
  have goes := goes_of_result going
  generalize s.step.service = t, s.step.entries = made at goes
  cases goes with
  | shown _ _ free => exact Bool.false_ne_true (free.symm.trans reached)
  | idle head' => cases head.symm.trans head'
  | running head' => cases head.symm.trans head'
  | asleep head' => cases head.symm.trans head'
  | ended head' => cases head.symm.trans head'
  | alarm head' => cases head.symm.trans head'
  | began empty => cases head.symm.trans empty

/-- A loop that goes on when the service ends is cut off. -/
theorem Ends.cutsOff (ends : Ends s turn) (orderly : s.Orderly)
    (shown : s.emulator.frame.result = .ok ()) {seconds : Binary64}
    (paused : s.emulator.settings.frameInterval = .ok seconds) (mem : r ∈ s.readers)
    (live : r.status ≠ .over) : s.CutsOff r.device := by
  cases ends with
  | @limited rest head _ reached => exact ⟨⟨rest, head⟩, reached, r, mem, rfl, live⟩
  | unshown _ _ frame => cases shown.symm.trans frame
  | lastShown _ allOver => exact absurd (of_decide_eq_true (List.all_eq_true.1 allOver r mem)) live
  | unpaused _ _ _ _ interval =>
    rw [s.emulator.settings_frame, paused] at interval
    cases interval
  | deserted empty nobody silent =>
    have frames := orderly.frames
    rw [pending, empty, nobody, silent] at frames
    cases frames

/-! ## Runs -/

/-- What a run reports its turns have reported. -/
theorem entries_run (fuel : Nat) (s : Service) (entries : Array Entry) :
    (run fuel s entries).2.1.toList =
      entries.toList ++ (turns fuel s).flatMap (·.step.entries) := by
  induction fuel generalizing s entries with
  | zero => exact (List.append_nil _).symm
  | succ fuel ih =>
    rw [run, turns, List.flatMap_cons]
    cases going : s.step.result with
    | some result =>
      dsimp only
      rw [Array.toList_appendList, List.flatMap_nil, List.append_nil]
    | none =>
      dsimp only
      rw [ih, Array.toList_appendList, List.append_assoc]

/-- Those that have a turn on the way to a service have it in every run that is long enough. -/
theorem Reaches.turns_eq (way : Reaches s past t) (fuel : Nat) :
    turns (past.length + fuel) s = past ++ turns fuel t := by
  induction way generalizing fuel with
  | start => rw [List.length_nil, Nat.zero_add, List.nil_append]
  | @step past t way going ih =>
    rw [List.length_append, List.length_singleton, Nat.add_assoc, ih, Nat.add_comm 1, turns, going,
      List.append_assoc, List.singleton_append]

/-- Only one of the services that are reached is at its last turn. -/
theorem Reaches.last_unique {past' : List Service} {t' : Service} (way : Reaches s past t)
    (ended : t.step.result ≠ none) (way' : Reaches s past' t') (ended' : t'.step.result ≠ none) :
    t = t' := by
  have last {u : Service} (ended : u.step.result ≠ none) (fuel : Nat) :
      turns (fuel + 1) u = [u] := by
    obtain ⟨result, eq⟩ := Option.ne_none_iff_exists'.1 ended
    rw [turns, eq]
  have turns₁ := way.turns_eq (past'.length + 1)
  have turns₂ := way'.turns_eq (past.length + 1)
  rw [last ended] at turns₁
  rw [last ended', ← Nat.add_assoc, Nat.add_comm past'.length, Nat.add_assoc, turns₁] at turns₂
  exact (List.append_singleton_inj.1 turns₂).2

theorem Reaches.places (way : Reaches s past t) :
    t.readers.map Reader.device = s.readers.map Reader.device :=
  way.keeps (fun _ t => t.readers.map Reader.device = s.readers.map Reader.device) rfl
    fun _ _ _ _ goes old => goes.places.trans old

/-- A device that was connected at the start has a loop. -/
theorem Reaches.exists_reader (way : Reaches (Service.start e limit) past t)
    (device : e.devices[i]? = some d) (connected : d.isConnected = true) :
    ∃ r ∈ t.readers, r.device = i := by
  obtain ⟨k, attached, -⟩ := exists_attached_of_isConnected connected
  have mem : readerAt i k ∈ readersOf e.devices :=
    mem_readersOf.2 ⟨i, d, k, device, connected, attached, rfl⟩
  refine List.mem_map.1 ?_
  rw [way.places]
  exact List.mem_map_of_mem mem

/-- A device that has a loop was connected at the start. -/
theorem Reaches.connected_of_reader (way : Reaches (Service.start e limit) past t)
    (mem : r ∈ t.readers) : ∃ d, e.devices[r.device]? = some d ∧ d.isConnected = true := by
  have mem' := List.mem_map_of_mem (f := Reader.device) mem
  rw [way.places] at mem'
  obtain ⟨r₀, mem₀, same⟩ := List.mem_map.1 mem'
  obtain ⟨i, d, k, device, connected, -, rfl⟩ := mem_readersOf.1 mem₀
  exact ⟨d, same ▸ device, connected⟩

/-- **What has been told of the end of a device's loops is how many of them are over.** -/
theorem Reaches.told (way : Reaches (Service.start e limit) past t) (staged : e.Staged) :
    t.Orderly ∧ Attends e t ∧ ∀ (i : Nat) (d : Device), e.devices[i]? = some d →
      endsTold d.name (past.flatMap (·.step.entries)) = t.endings i := by
  induction way with
  | start =>
    exact ⟨orderly_start e limit, attends_start staged limit, fun i _ _ =>
      (endings_start e limit i).symm⟩
  | step _ going ih =>
    obtain ⟨orderly, attends, told⟩ := ih
    have goes := goes_of_result going
    refine ⟨goes.orderly orderly, goes.attends orderly attends, fun i d device => ?_⟩
    rw [List.flatMap_append, List.flatMap_singleton, endsTold_append, told i d device,
      goes.told orderly attends staged device]

end Service

/-! ## The result -/

namespace Emulator

open Service

theorem entries_serve (e : Emulator) (limit : Option Int) (fuel : Nat) :
    (e.serve limit fuel).entries = (turns fuel (start e limit)).flatMap (·.step.entries) := by
  have all := entries_run fuel (start e limit) #[]
  unfold serve
  dsimp only
  split <;> exact all

/-- What an emulator that was served has told of the ends of its read loops. -/
structure TellsEnds (e : Emulator) (limit : Option Int) (fuel : Nat) : Prop where
  result : (e.serve limit fuel).result = .ok (some ())
  /-- Of a loop that was started the end is told once, unless the limit has cut the loop off. -/
  connected : ∀ (i : Nat) (d : Device), e.devices[i]? = some d → d.isConnected = true →
    endsTold d.name (e.serve limit fuel).entries ≤ 1 ∧
      (endsTold d.name (e.serve limit fuel).entries = 1 ↔
        ∀ past s, Reaches (start e limit) past s → ¬ s.CutsOff i)
  /-- Without a limit no loop is cut off. -/
  unlimited : limit = none → ∀ d ∈ e.devices, d.isConnected = true →
    endsTold d.name (e.serve limit fuel).entries = 1
  /-- Of a device without a loop no end is told. -/
  apart : ∀ d ∈ e.devices, d.isConnected = false →
    endsTold d.name (e.serve limit fuel).entries = 0

/-- **A read loop tells of its end just if no limit cuts it off.** -/
theorem serve_tells_ends (e : Emulator) (staged : e.Staged) (limit : Option Int) (fuel : Nat)
    (ended : (e.serve limit fuel).result ≠ .ok none) : e.TellsEnds limit fuel := by
  obtain ⟨t, past, way, ⟨none, -⟩ | ⟨result, last, eq, -, had⟩⟩ := e.serve_cases limit fuel
  · exact absurd none ended
  have ends := ends_of_result last
  obtain ⟨orderly, attends, told⟩ := way.told staged
  obtain ⟨frames, -, shown, -⟩ := frame_sound attends.sound
  obtain ⟨seconds, interval, -⟩ :=
    e.settings.exists_frameInterval staged.rate_finite staged.rate_pos
  rw [← attends.settings] at interval
  have total (i : Nat) (d : Device) (device : e.devices[i]? = some d) :
      endsTold d.name (e.serve limit fuel).entries = t.endings i := by
    rw [entries_serve, had, List.flatMap_append, List.flatMap_singleton, endsTold_append,
      told i d device, ends.told orderly.toSeated attends.performing, Nat.add_zero]
  have over_iff (i : Nat) (d : Device) (device : e.devices[i]? = some d)
      (connected : d.isConnected = true) :
      t.endings i = 1 ↔ ∀ past s, Reaches (start e limit) past s → ¬ s.CutsOff i := by
    obtain ⟨r, mem, rfl⟩ := way.exists_reader device connected
    rw [orderly.toSeated.endings_eq_one_iff mem]
    constructor
    · intro finished past' s way' cuts
      -- A service that cuts a loop off is at its last turn, so it is the one that has ended.
      obtain rfl : s = t :=
        way'.last_unique cuts.result_ne_none way (last ▸ Option.some_ne_none result)
      obtain ⟨r', mem', same, live⟩ := cuts.live
      rw [orderly.toSeated.eq_of_device mem' mem same] at live
      exact live finished
    · intro never
      by_contra live
      exact never past t way (ends.cutsOff orderly shown interval mem live)
  constructor
  · rw [eq, Option.some.inj (last.symm.trans (ends.result_of_shown shown interval))]
    rfl
  · intro i d device connected
    rw [total i d device]
    exact ⟨orderly.toSeated.endings_le_one i, over_iff i d device connected⟩
  · intro unlimited d mem connected
    obtain ⟨i, device⟩ := List.mem_iff_getElem?.1 mem
    rw [total i d device, over_iff i d device connected]
    intro past' s way' cuts
    have free := cuts.reached
    rw [isLimitReached, way'.limit, unlimited] at free
    cases free
  · intro d mem apart
    obtain ⟨i, device⟩ := List.mem_iff_getElem?.1 mem
    rw [total i d device]
    refine List.countP_eq_zero.2 fun r mem' both => ?_
    obtain ⟨-, rfl⟩ := of_decide_eq_true both
    obtain ⟨d', device', connected⟩ := way.connected_of_reader mem'
    cases device.symm.trans device'
    cases apart.symm.trans connected

/-- Three streams: the first breaks, the second ends, and the third is cut off in its pause. -/
theorem serve_tells_ends_mixed :
    ∃ (e : Emulator) (fuel : Nat), e.Staged ∧ (e.serve (some 1) fuel).result ≠ .ok none ∧
      e.TellsEnds (some 1) fuel := by
  let breaks : ScriptedLink := { scripted := ["L05\n".toList, "L09\n".toList], failAfter := some 1 }
  let stops : ScriptedLink := { scripted := ["R15\n".toList], interval := -1 }
  let waits : ScriptedLink := { scripted := ["L19\n".toList], interval := 1 }
  let e := (((fresh { deviceCount := 3 } (.recording #[]) 0).attachDevice 0
    (.scripted breaks)).attachDevice 1 (.scripted stops)).attachDevice 2 (.scripted waits)
  have new : (fresh { deviceCount := 3 } (.recording #[]) 0).Staged :=
    staged_fresh (by decide +kernel) (by decide +kernel) Axis.defaultPeriod_isFinite
      Axis.defaultPeriod_pos _ _
  have staged : e.Staged := ((new.attach breaks 0).attach stops 1).attach waits 2
  have ended : (e.serve (some 1) 24).result ≠ .ok none := by decide +kernel
  exact ⟨e, 24, staged, ended, e.serve_tells_ends staged (some 1) 24 ended⟩

/-- A loop that is cut off in its first pause: the service ends, the link is let go of, and nothing
is told of the end of the loop. -/
theorem serve_cuts_off_silently :
    ∃ (e : Emulator) (fuel : Nat), e.Staged ∧ e.devices[0]?.any Device.isConnected = true ∧
      (e.serve (some 1) fuel).result = .ok (some ()) ∧
      (e.serve (some 1) fuel).state.devices[0]?.any Device.isConnected = false ∧
      endsTold (deviceName 0) (e.serve (some 1) fuel).entries = 0 := by
  have new : (fresh {} (.recording #[]) 0).Staged :=
    staged_fresh (by decide +kernel) (by decide +kernel) Axis.defaultPeriod_isFinite
      Axis.defaultPeriod_pos _ _
  exact ⟨_, 9, new.attach { scripted := ["L05\n".toList], interval := 1 } 0, by decide +kernel⟩

end Emulator

end MotionEmulator
