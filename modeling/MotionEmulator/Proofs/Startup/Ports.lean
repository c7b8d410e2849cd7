import Mathlib.Data.List.Induction
import MotionEmulator.Proofs.Link.Operations
import MotionEmulator.Proofs.Startup.Settings

/-!
# Ports and their devices

The ports of the command line are given their devices one after the other, each by the opener of its
place. Nothing is assumed of the openers. `linkOf?` is the link that a port comes to and `reportOf`
what is reported of it; `Emulator.boundTo` is an emulator whose devices have the links of their own
ports, and `bindPorts_eq` says that this is what becomes of it.

A port whose opener refuses it is warned of, and so is one whose connection fails; the ports behind
it have their devices all the same. A fault of any other kind is taken for neither: the port is
`Stray`. It stops the program, and the ports behind it have no devices (`bindPorts_of_stray`). So
`binds_each_iff` has the ports without a stray one among them as its condition, for all ports,
openers, settings and orders.
-/

namespace MotionEmulator

/-- A device with a link, if there is one for it. -/
def Device.given (d : Device) (link? : Option Link) : Device :=
  link?.elim d d.attach

namespace Startup

/-- The link over a port that has just been opened. -/
def openedLink (baud : Int) (name : String) (port : Port) : SerialLink :=
  { SerialLink.fresh { baudRate := baud } with
    port := some port
    connected := true
    portName := some name }

/-- The link that a port comes to at a place; none if it does not open. -/
def linkOf? (opener : Nat → Port.Opener) (baud : Int) (place : Nat) (name : String) :
    Option Link :=
  if name = mockPort then some (.scripted demonstrationLink)
  else
    match opener place name baud with
    | .ok port => some (.serial (openedLink baud name port))
    | .error _ => none

/-- What is reported of the port of the device at a place. -/
def reportOf (opener : Nat → Port.Opener) (baud : Int) (place : Nat) (name : String) :
    List Entry :=
  if name = mockPort then []
  else
    match opener place name baud with
    | .ok _ =>
      [⟨.ok, "Opened " ++ name, [("baud", .int baud)]⟩,
        ⟨.ok, Emulator.deviceName place ++ " connected", [("port", .text name)]⟩]
    | .error cause =>
      [⟨.warn, Emulator.deviceName place ++ ": " ++ (SerialLink.failure name cause).message, []⟩]

/-- What is reported of ports, each at its own place. -/
def reportsOf (opener : Nat → Port.Opener) (baud : Int) (ports : List String) : List Entry :=
  ports.zipIdx.flatMap fun (name, place) => reportOf opener baud place name

/-- A port whose opener reports a fault that is no refusal and not that of a connection. -/
structure Stray (opener : Nat → Port.Opener) (baud : Int) (place : Nat) (name : String)
    (cause : Fault) : Prop where
  other : name ≠ mockPort
  unopened : opener place name baud = .error cause
  unrefused : cause.isRefusal = false
  unconnected : cause.isConnection = false

/-- None of the ports is stray. -/
def NoneStray (opener : Nat → Port.Opener) (baud : Int) (ports : List String) : Prop :=
  ∀ place name cause, ports[place]? = some name → ¬ Stray opener baud place name cause

end Startup

open Startup

/-- An emulator each of whose devices has the link of its own port. -/
def Emulator.boundTo (e : Emulator) (opener : Nat → Port.Opener) (ports : List String) : Emulator :=
  { e with devices := e.devices.mapIdx fun i d =>
      d.given (ports[i]?.bind (linkOf? opener d.baudRate i)) }

namespace Startup

variable {opener : Nat → Port.Opener} {e : Emulator} {d : Device} {place : Nat} {baud : Int}
  {name : String} {port : Port} {cause : Fault} {ports rest : List String}

/-! ## One port -/

theorem linkOf?_of_opens (other : name ≠ mockPort) (opens : opener place name baud = .ok port) :
    linkOf? opener baud place name = some (.serial (openedLink baud name port)) := by
  rw [linkOf?, if_neg other, opens]

theorem linkOf?_of_unopened (other : name ≠ mockPort)
    (unopened : opener place name baud = .error cause) : linkOf? opener baud place name = none := by
  rw [linkOf?, if_neg other, unopened]

/-- The program carries on where a port was refused, and where its connection failed. -/
theorem isConnection_failure (name : String) (cause : Fault) :
    (SerialLink.failure name cause).isConnection = (cause.isRefusal || cause.isConnection) := by
  unfold SerialLink.failure
  cases cause.isRefusal <;> rfl

/-! ## One device -/

theorem place_natCast (inside : place < e.devices.length) : e.place place = .ok place := by
  rw [Emulator.place, if_pos ⟨Int.natCast_nonneg place, Int.ofNat_lt.2 inside⟩, Int.toNat_natCast]

/-- Opening a port gives its device the link. -/
theorem connect_of_opens (opens : opener place name d.baudRate = .ok port) :
    d.connect name (opener place) =
      .done (d.attach (.serial (openedLink d.baudRate name port))) ()
        [⟨.ok, "Opened " ++ name, [("baud", .int d.baudRate)]⟩] := by
  unfold Device.connect
  dsimp only
  rw [SerialLink.connect_of_found (l := SerialLink.fresh { baudRate := d.baudRate }) opens]
  rfl

/-- A port that does not open changes nothing about its device. -/
theorem connect_of_unopened (unopened : opener place name d.baudRate = .error cause) :
    d.connect name (opener place) = .fault d (SerialLink.failure name cause) := by
  unfold Device.connect
  dsimp only
  rw [SerialLink.connect_of_error (l := SerialLink.fresh { baudRate := d.baudRate }) unopened]
  rfl

/-- What becomes of an emulator with the operation that opens a port. -/
theorem connectDevice_eq (device : e.devices[place]? = some d) (name : String)
    (opener : Port.Opener) :
    e.connectDevice place name opener =
      ((d.connect name opener).within fun d => { e with devices := e.devices.set place d }).andThen
        fun e _ =>
          .done e ()
            [⟨.ok, Emulator.deviceName place ++ " connected", [("port", .text name)]⟩] := by
  unfold Emulator.connectDevice
  rw [place_natCast (List.getElem?_eq_some_iff.1 device).1]
  unfold Emulator.onDevice
  dsimp only
  rw [device]

/-- A device that is put where it stands changes nothing. -/
theorem set_self (device : e.devices[place]? = some d) :
    { e with devices := e.devices.set place d } = e := by
  obtain ⟨inside, rfl⟩ := List.getElem?_eq_some_iff.1 device
  rw [List.set_getElem_self]

/-- **A port that is not stray comes to its device or is warned of.** -/
theorem bindPort_eq (device : e.devices[place]? = some d)
    (right : ∀ cause, ¬ Stray opener d.baudRate place name cause) :
    bindPort opener e place name =
      .done
        { e with devices := e.devices.set place (d.given (linkOf? opener d.baudRate place name)) }
        () (reportOf opener d.baudRate place name) := by
  unfold bindPort
  split
  · next mock =>
    rw [linkOf?, if_pos mock, reportOf, if_pos mock, Emulator.attachDevice,
      List.modify_eq_set_getElem?, device]
    rfl
  · next other =>
    rw [connectDevice_eq device, reportOf, if_neg other]
    cases opens : opener place name d.baudRate with
    | ok port =>
      rw [connect_of_opens opens, linkOf?_of_opens other opens]
      rfl
    | error cause =>
      have warned : (SerialLink.failure name cause).isConnection = true := by
        rw [isConnection_failure, Bool.or_eq_true]
        by_contra neither
        rw [not_or, Bool.not_eq_true, Bool.not_eq_true] at neither
        exact right cause ⟨other, opens, neither.1, neither.2⟩
      rw [connect_of_unopened opens, linkOf?_of_unopened other opens]
      dsimp only [Outcome.fault, Outcome.within, Outcome.andThen]
      rw [if_pos warned]
      rfl

/-- A stray port stops whatever is going on. -/
theorem bindPort_of_stray (device : e.devices[place]? = some d)
    (stray : Stray opener d.baudRate place name cause) :
    bindPort opener e place name = .fault e cause := by
  have passes : SerialLink.failure name cause = cause :=
    if_neg (ne_true_of_eq_false stray.unrefused)
  unfold bindPort
  rw [if_neg stray.other, connectDevice_eq device, connect_of_unopened stray.unopened, passes]
  dsimp only [Outcome.fault, Outcome.within, Outcome.andThen]
  rw [if_neg (ne_true_of_eq_false stray.unconnected), set_self device]

/-! ## All ports -/

/-- Ports are bound in any two portions, one after the other. -/
theorem bindPorts_append (place : Nat) (ports rest : List String) (e : Emulator) :
    bindPorts opener place (ports ++ rest) e =
      (bindPorts opener place ports e).andThen fun e _ =>
        bindPorts opener (place + ports.length) rest e := by
  induction ports generalizing place e with
  | nil => rfl
  | cons name ports ih =>
    have later (e : Emulator) : bindPorts opener (place + 1) (ports ++ rest) e =
        (bindPorts opener (place + 1) ports e).andThen fun e _ =>
          bindPorts opener (place + (name :: ports).length) rest e := by
      rw [ih, List.length_cons, Nat.add_assoc, Nat.add_comm 1]
    rw [List.cons_append, bindPorts, bindPorts, Outcome.andThen_assoc]
    exact Outcome.andThen_congr fun _ => later _

theorem bindPorts_singleton (place : Nat) (name : String) (e : Emulator) :
    bindPorts opener place [name] e = bindPort opener e place name := by
  rw [bindPorts]
  rcases bindPort opener e place name with ⟨_ | value, state, entries⟩
  · rfl
  · exact congrArg _ (List.append_nil entries)

/-- One port more stands at its own place only. -/
theorem getElem?_concat_of_ne (ne : place ≠ ports.length) (name : String) :
    (ports ++ [name])[place]? = ports[place]? := by
  rcases Nat.lt_or_gt_of_ne ne with before | behind
  · exact List.getElem?_append_left before
  · have beyond : (ports ++ [name]).length ≤ place := by
      rw [List.length_append]
      exact behind
    rw [List.getElem?_eq_none beyond, List.getElem?_eq_none (Nat.le_of_lt behind)]

theorem noneStray_concat :
    NoneStray opener baud (ports ++ [name]) ↔
      NoneStray opener baud ports ∧
        ∀ cause, ¬ Stray opener baud ports.length name cause := by
  constructor
  · intro right
    refine ⟨fun place other cause at' => right place other cause ?_,
      fun cause => right _ _ cause List.getElem?_concat_length⟩
    have inside := (List.getElem?_eq_some_iff.1 at').1
    exact (getElem?_concat_of_ne (Nat.ne_of_lt inside) name).trans at'
  · rintro ⟨right, last⟩ place other cause at'
    by_cases own : place = ports.length
    · subst own
      rw [List.getElem?_concat_length] at at'
      cases at'
      exact last cause
    · exact right place other cause ((getElem?_concat_of_ne own name).symm.trans at')

theorem reportsOf_concat (baud : Int) (ports : List String) (name : String) :
    reportsOf opener baud (ports ++ [name]) =
      reportsOf opener baud ports ++ reportOf opener baud ports.length name := by
  rw [reportsOf, List.zipIdx_append, List.flatMap_append, Nat.zero_add, List.zipIdx_singleton,
    List.flatMap_singleton]
  rfl

theorem getElem?_boundTo (opener : Nat → Port.Opener) (e : Emulator) (ports : List String)
    (i : Nat) :
    (e.boundTo opener ports).devices[i]? =
      e.devices[i]?.map fun d => d.given (ports[i]?.bind (linkOf? opener d.baudRate i)) := by
  rw [Emulator.boundTo, List.getElem?_mapIdx]

/-- Devices without a port are as they were. -/
theorem getElem?_boundTo_of_le (opener : Nat → Port.Opener) (e : Emulator) {i : Nat}
    (beyond : ports.length ≤ i) :
    (e.boundTo opener ports).devices[i]? = e.devices[i]? := by
  rw [getElem?_boundTo, List.getElem?_eq_none beyond]
  exact Option.map_id'

theorem boundTo_nil (e : Emulator) : e.boundTo opener [] = e := by
  have same : (e.boundTo opener []).devices = e.devices :=
    List.ext_getElem? fun i => getElem?_boundTo_of_le opener e (Nat.zero_le i)
  exact congrArg (fun devices => { e with devices }) same

/-- One port more changes the device at its own place. -/
theorem boundTo_concat (device : e.devices[ports.length]? = some d) (name : String) :
    e.boundTo opener (ports ++ [name]) =
      { e.boundTo opener ports with
        devices := (e.boundTo opener ports).devices.set ports.length
          (d.given (linkOf? opener d.baudRate ports.length name)) } := by
  have devices : (e.boundTo opener (ports ++ [name])).devices =
      (e.boundTo opener ports).devices.set ports.length
        (d.given (linkOf? opener d.baudRate ports.length name)) := by
    apply List.ext_getElem?
    intro i
    rw [getElem?_boundTo]
    by_cases own : i = ports.length
    · have inside : ports.length < (e.boundTo opener ports).devices.length := by
        rw [Emulator.boundTo, List.length_mapIdx]
        exact (List.getElem?_eq_some_iff.1 device).1
      rw [own, List.getElem?_set_self inside, device, List.getElem?_concat_length]
      rfl
    · rw [List.getElem?_set_ne (Ne.symm own), getElem?_boundTo, getElem?_concat_of_ne own]
  rw [← devices]
  rfl

theorem exists_device (inside : place < e.devices.length)
    (rate : ∀ d ∈ e.devices, d.baudRate = baud) :
    ∃ d, e.devices[place]? = some d ∧ d.baudRate = baud := by
  have device := List.getElem?_eq_getElem inside
  exact ⟨_, device, rate _ (List.mem_of_getElem? device)⟩

/-- **Ports come to their devices while none of them is stray.** -/
theorem bindPorts_eq (room : ports.length ≤ e.devices.length)
    (rate : ∀ d ∈ e.devices, d.baudRate = baud) (right : NoneStray opener baud ports) :
    bindPorts opener 0 ports e =
      .done (e.boundTo opener ports) () (reportsOf opener baud ports) := by
  induction ports using List.reverseRecOn with
  | nil =>
    rw [boundTo_nil]
    rfl
  | append_singleton ports name ih =>
    obtain ⟨before, last⟩ := noneStray_concat.1 right
    rw [List.length_append, List.length_singleton] at room
    obtain ⟨d, device, rfl⟩ := exists_device room rate
    have bound := (getElem?_boundTo_of_le opener e (Nat.le_refl _)).trans device
    rw [bindPorts_append, reportsOf_concat, ih (Nat.le_of_succ_le room) before]
    refine Outcome.done_andThen_of_eq ?_
    rw [bindPorts_singleton, Nat.zero_add, bindPort_eq bound last, boundTo_concat device]

/-- **The first stray port stops the others.** -/
theorem bindPorts_of_stray (room : ports.length < e.devices.length)
    (rate : ∀ d ∈ e.devices, d.baudRate = baud) (right : NoneStray opener baud ports)
    (stray : Stray opener baud ports.length name cause) :
    bindPorts opener 0 (ports ++ name :: rest) e =
      .fault (e.boundTo opener ports) cause (reportsOf opener baud ports) := by
  obtain ⟨d, device, rfl⟩ := exists_device room rate
  have bound := (getElem?_boundTo_of_le opener e (Nat.le_refl _)).trans device
  rw [bindPorts_append, bindPorts_eq (Nat.le_of_lt room) rate right]
  dsimp only [Outcome.done, Outcome.andThen]
  rw [bindPorts, Nat.zero_add, bindPort_of_stray bound stray]
  dsimp only [Outcome.fault, Outcome.andThen]
  rw [List.append_nil]

theorem exists_first_stray (found : ¬ NoneStray opener baud ports) :
    ∃ before name rest cause, ports = before ++ name :: rest ∧ NoneStray opener baud before ∧
      Stray opener baud before.length name cause := by
  induction ports using List.reverseRecOn with
  | nil => exact absurd (fun _ _ _ at' => nomatch at') found
  | append_singleton ports last ih =>
    by_cases right : NoneStray opener baud ports
    · obtain ⟨cause, stray⟩ : ∃ cause, Stray opener baud ports.length last cause := by
        by_contra none
        exact found (noneStray_concat.2 ⟨right, not_exists.1 none⟩)
      exact ⟨ports, last, [], cause, rfl, right, stray⟩
    · obtain ⟨before, name, rest, cause, split, right', stray⟩ := ih right
      refine ⟨before, name, rest ++ [last], cause, ?_, right', stray⟩
      rw [split, List.append_assoc, List.cons_append]

/-- Every port has come to its own device and to no other, and was reported of, in order. -/
structure Bound (opener : Nat → Port.Opener) (s : Settings) (ports : List String)
    (o : Outcome Emulator Unit) : Prop where
  result : o.result = .ok ()
  devices : (o.state.devices.length : Int) = s.deviceCount
  /-- A device whose port is `mock` plays the whole demonstration. -/
  mock : ∀ i : Nat, ports[i]? = some mockPort → ∃ d, o.state.devices[i]? = some d ∧
    d.link? = some (.scripted demonstrationLink)
  opened : ∀ (i : Nat) (name : String) (port : Port), ports[i]? = some name → name ≠ mockPort →
    opener i name s.baudRate = .ok port →
    ∃ (d : Device) (l : SerialLink), o.state.devices[i]? = some d ∧
      d.link? = some (.serial l) ∧ l.connected = true ∧ l.port = some port ∧
      l.portName = some name
  /-- A device whose port does not open has no link. -/
  unopened : ∀ (i : Nat) (name : String) (cause : Fault), ports[i]? = some name →
    name ≠ mockPort → opener i name s.baudRate = .error cause →
    ∃ d, o.state.devices[i]? = some d ∧ d.attached = none
  /-- Nor has a device without a port. -/
  unused : ∀ (i : Nat) (d : Device), ports.length ≤ i → o.state.devices[i]? = some d →
    d.attached = none
  entries : o.entries = reportsOf opener s.baudRate ports

theorem link?_attach (d : Device) (link : Link) : (d.attach link).link? = some link := by
  rw [Device.link?, Device.attach, Option.bind_some, List.getElem?_concat_length]

theorem bound_boundTo {s : Settings} (renderer : Renderer) (time : Binary64)
    (devices : 0 ≤ s.deviceCount) (room : (ports.length : Int) ≤ s.deviceCount) :
    Bound opener s ports
      (.done ((Emulator.fresh s renderer time).boundTo opener ports) ()
        (reportsOf opener s.baudRate ports)) := by
  have fresh (i : Nat) (d : Device)
      (device : (Emulator.fresh s renderer time).devices[i]? = some d) :
      d.attached = none ∧ d.baudRate = s.baudRate := by
    obtain ⟨i', -, rfl⟩ := List.mem_map.1 (List.mem_of_getElem? device)
    exact ⟨rfl, rfl⟩
  have length : ((Emulator.fresh s renderer time).devices.length : Int) = s.deviceCount := by
    rw [Emulator.fresh, List.length_map, List.length_range, Int.toNat_of_nonneg devices]
  -- What has become of the device of a port.
  have own (i : Nat) (name : String) (at' : ports[i]? = some name) :
      ∃ d : Device, d.attached = none ∧
        ((Emulator.fresh s renderer time).boundTo opener ports).devices[i]? =
          some (d.given (linkOf? opener s.baudRate i name)) := by
    have inside : i < (Emulator.fresh s renderer time).devices.length := by
      have before := (List.getElem?_eq_some_iff.1 at').1
      omega
    have device := List.getElem?_eq_getElem inside
    obtain ⟨free, rate⟩ := fresh i _ device
    refine ⟨_, free, ?_⟩
    rw [getElem?_boundTo, device, at', Option.map_some, Option.bind_some, rate]
  constructor
  · rfl
  · change ((((Emulator.fresh s renderer time).devices.mapIdx _).length : Nat) : Int) = _
    rw [List.length_mapIdx, length]
  · intro i at'
    obtain ⟨d, -, device⟩ := own i _ at'
    refine ⟨_, device, ?_⟩
    rw [linkOf?, if_pos rfl]
    exact link?_attach d _
  · intro i name port at' other opens
    obtain ⟨d, -, device⟩ := own i name at'
    refine ⟨_, openedLink s.baudRate name port, device, ?_, rfl, rfl, rfl⟩
    rw [linkOf?_of_opens other opens]
    exact link?_attach d _
  · intro i name cause at' other unopened
    obtain ⟨d, free, device⟩ := own i name at'
    refine ⟨_, device, ?_⟩
    rw [linkOf?_of_unopened other unopened]
    exact free
  · intro i d beyond device
    exact (fresh i d ((getElem?_boundTo_of_le opener _ beyond).symm.trans device)).1
  · rfl

/-- **A port that does not open concerns its own device only, unless it is stray.** The devices
always suffice for the ports, and what stops the ports was reported by the opener of a stray one.
Every port comes to its own device, is warned of or is reported of, whatever the others are, exactly
where none of them is stray. -/
theorem binds_each_iff {a : Arguments} {env : Environment} {s : Settings}
    (made : settings a env = .ok s) (opener : Nat → Port.Opener) (renderer : Renderer)
    (time : Binary64) :
    let o := bindPorts opener 0 a.ports (Emulator.fresh s renderer time)
    (a.ports.length : Int) ≤ s.deviceCount ∧
      (∀ cause, o.result = .error cause → ∃ place name, a.ports[place]? = some name ∧
        Stray opener s.baudRate place name cause) ∧
      (Bound opener s a.ports o ↔ NoneStray opener s.baudRate a.ports) := by
  obtain ⟨base, rfl, -, positive, -⟩ := settings_eq_ok made
  generalize eq : a.applyTo base = s
  intro o
  have enough : 0 ≤ s.deviceCount := by
    rw [← eq]
    exact (Int.le_trans (by decide) positive).trans (le_max_left _ _)
  have room : (a.ports.length : Int) ≤ s.deviceCount := by
    rw [← eq]
    exact le_max_right _ _
  have length : (Emulator.fresh s renderer time).devices.length = s.deviceCount.toNat := by
    rw [Emulator.fresh, List.length_map, List.length_range]
  have rate : ∀ d ∈ (Emulator.fresh s renderer time).devices, d.baudRate = s.baudRate := by
    intro d mem
    obtain ⟨i, -, rfl⟩ := List.mem_map.1 mem
    rfl
  refine ⟨room, ?_⟩
  by_cases right : NoneStray opener s.baudRate a.ports
  · have all : o = _ := bindPorts_eq (by omega) rate right
    rw [all]
    exact ⟨nofun, fun _ => right, fun _ => bound_boundTo renderer time enough room⟩
  · obtain ⟨before, name, rest, cause, split, right', stray⟩ := exists_first_stray right
    have inside : before.length < (Emulator.fresh s renderer time).devices.length := by
      rw [split, List.length_append, List.length_cons] at room
      omega
    have stopped : o = _ :=
      (congrArg (fun ports => bindPorts opener 0 ports _) split).trans
        (bindPorts_of_stray inside rate right' stray)
    have own : a.ports[before.length]? = some name := by
      rw [split, List.getElem?_append_right (Nat.le_refl _), Nat.sub_self, List.getElem?_cons_zero]
    rw [stopped]
    refine ⟨?_, fun bound => ?_, fun all => absurd all right⟩
    · rintro cause' ⟨⟩
      exact ⟨_, _, own, stray⟩
    · cases bound.result

/-- A demonstration, a path that leads nowhere and a loopback: the first and the last port have
their devices, and of the second one there is a warning. -/
theorem binds_each_iff_three_ports :
    let opener : Nat → Port.Opener := fun _ => Port.ofName
    ∃ s : Settings, settings { ports := ["mock", "/dev/sr6", "loop://"] } {} = .ok s ∧
      Bound opener s ["mock", "/dev/sr6", "loop://"]
        (bindPorts opener 0 ["mock", "/dev/sr6", "loop://"] (Emulator.fresh s (.every 60) 0)) := by
  intro opener
  have made : settings { ports := ["mock", "/dev/sr6", "loop://"] } {} =
      .ok { deviceCount := 3 } := by
    decide +kernel
  have path : Port.ofName "/dev/sr6" 115200 =
      .error (.unopened (.blocked "/dev/sr6" .missing)) := by
    decide +kernel
  have loopback : Port.ofName "loop://" 115200 = .ok {} := by
    decide +kernel
  refine ⟨_, made, (binds_each_iff made opener (.every 60) 0).2.2.2 ?_⟩
  rintro place name cause at' ⟨other, unopened, unrefused, -⟩
  match place, at' with
  | 0, rfl => exact other rfl
  | 1, rfl =>
    cases path.symm.trans unopened
    cases unrefused
  | 2, rfl => cases loopback.symm.trans unopened

/-- Not every port that does not open concerns its own device only: after this one the
demonstration has no device. -/
theorem stray_port_stops_others :
    let opener : Nat → Port.Opener := fun _ => Port.ofName
    ¬ ∀ words a env s renderer time, Arguments.read words = .ok a → settings a env = .ok s →
      Emulator.defaultRenderer s = .ok renderer →
      Bound opener s a.ports (bindPorts opener 0 a.ports (Emulator.fresh s renderer time)) := by
  intro opener all
  have read : Arguments.read ["loop://?logging=loud", "mock"] =
      .ok { ports := ["loop://?logging=loud", "mock"] } := by
    decide +kernel
  have made : settings { ports := ["loop://?logging=loud", "mock"] } {} = .ok {} := by
    decide +kernel
  have shows : Emulator.defaultRenderer {} = .ok (.every 60) := by
    decide +kernel
  obtain ⟨d, device, link⟩ := (all _ _ {} _ _ 0 read made shows).mock 1 rfl
  have none : (bindPorts opener 0 ["loop://?logging=loud", "mock"]
      (Emulator.fresh {} (.every 60) 0)).state.devices[1]?.any Device.isConnected = false := by
    decide +kernel
  rw [device, Option.any_some, Device.isConnected, link] at none
  cases none

end Startup

end MotionEmulator
