/-
**The daemon: `main.rs`.**

`main` opens the controller, brings the audio up, starts the PipeWire bridge and the isochronous
engine, creates the virtual devices, and runs the event loop until a signal or the controller ends
it. Rust drops its locals in reverse order on every way out, so each `let` that owns a resource is
a scope around what follows it. A controller that is not there is no failure.

* `Environment` — what the daemon meets: the answers of the system, libusb and the device.
* `daemon` — the main path; `exitStatus` is what the process returns.
* `daemon_ends` — how far it came, what was left, and why it ended.
* `daemon_unwinds` — the whole of it.
-/

import Wolverine.Base.Scope
import Wolverine.Iso.Start
import Wolverine.Usb.BringUp

namespace Wolverine.Daemon

open Wolverine.Rust Wolverine.Machine Wolverine.Scope Wolverine.Usb
open Wolverine.Input (Uinput)
open Wolverine.Iso.IsoAudio (Holdings)

/-! ### The environment -/

/-- What `nusb::list_devices` says of a device. -/
structure DeviceInfo where
  vendorId : UInt16
  productId : UInt16
  busNumber : UInt8
  deviceAddress : UInt8
  deriving DecidableEq, Repr

/-- `gip::VID` and `gip::PID`. -/
def DeviceInfo.isWolverine (info : DeviceInfo) : Bool :=
  info.vendorId = 0x1532 ∧ info.productId = 0x0a14

/-- What the daemon meets. A fault is the text of the error, where the call fails. -/
structure Environment where
  deviceList : Except String (List DeviceInfo)
  openFault : Option String
  claimGipFault : Option String
  claimCtrlFault : Option String
  dialogue : Dialogue
  bridgeFault : Option String
  iso : Iso.IsoAudio.Answers
  /-- The setting `WOLVERINE_OUT_XFERS`. -/
  outNumXfers : Nat
  uinputFault : Option String
  /-- What the event loop sees until the signal. -/
  ticks : List Tick
  /-- The cancelled transfer with this number is drained. -/
  drained : Nat → Bool

/-- What the daemon owns, in the order of its locals. -/
inductive Resource
  | device
  | bridge
  | iso
  | uinput
  deriving DecidableEq, Repr

/-- What was acquired and released, the state of the device and of the engine. -/
structure World where
  log : List (Mark Resource)
  device : Device
  iso : Holdings

def World.start : World :=
  { log := [], device := Device.opened, iso := Holdings.nothing }

def World.mark (world : World) (mark : Mark Resource) : World :=
  { world with log := world.log ++ [mark] }

/-- How the daemon ends early. -/
inductive Exit
  /-- The controller is not there: `return Ok(())`. -/
  | absent
  | error (message : String)
  | panicked (panic : Panic)
  | indexPanicked (panic : IndexPanic)

/-! ### The steps -/

section Steps

variable (profile : Profile) (env : Environment)

/-- Fail with a text where a call fails. -/
def attempt (text : String → String) : Option String → Except String Unit
  | none => .ok ()
  | some fault => .error (text fault)

/-- `Device::open`: the device that it has claimed. -/
def Environment.opened : Except String DeviceInfo := do
  let infos ← env.deviceList
  let some info := infos.find? DeviceInfo.isWolverine
    | throw "Wolverine (1532:0a14) not found"
  attempt id env.openFault
  attempt ("claim interface 0 (GIP): " ++ ·) env.claimGipFault
  attempt ("claim interface 2 (bulk): " ++ ·) env.claimCtrlFault
  return info

/-- `e.to_string().contains("not found")` -/
def saysNotFound (message : String) : Bool := "not found".toList <:+: message.toList

def openDevice : EStateM Exit World DeviceInfo := fun world =>
  match env.opened with
  | .ok info => .ok info (world.mark (.acquired .device))
  | .error message => .error (if saysNotFound message then .absent else .error message) world

/-- `dev.bring_up_audio()?` -/
def bringUp : EStateM Exit World Unit := fun world =>
  match bringUpAudio profile env.dialogue world.device with
  | .ok _ device => .ok () { world with device }
  | .error (.error message) device => .error (.error message) { world with device }
  | .error (.panicked panic) device => .error (.panicked panic) { world with device }

/-- `Bridge::start` -/
def startBridge : EStateM Exit World Unit := fun world =>
  match env.bridgeFault with
  | none => .ok () (world.mark (.acquired .bridge))
  | some fault => .error (.error ("spawn audio thread: " ++ fault)) world

/-- `IsoAudio::start`; what a failure leaves is left. -/
def startIso (info : DeviceInfo) : EStateM Exit World Unit := fun world =>
  match Iso.IsoAudio.start env.iso info.busNumber info.deviceAddress env.outNumXfers world.iso with
  | .ok _ iso => .ok () ({ world with iso }.mark (.acquired .iso))
  | .error message iso => .error (.error message) { world with iso }

/-- The drop of the engine. -/
def dropIso (world : World) : World :=
  { world with iso := Iso.IsoAudio.drop env.drained world.iso }.mark (.released .iso)

/-- `Uinput::create` -/
def createUinput : EStateM Exit World Uinput := fun world =>
  match env.uinputFault with
  | none => .ok (Uinput.create .absolute) (world.mark (.acquired .uinput))
  | some fault => .error (.error fault) world

/-- `dev.run_event_loop` -/
def eventLoop (ui : Uinput) : EStateM Exit World Unit := fun world =>
  match runMonitor { seq := world.device.seq, ui } env.ticks with
  | .ok trace =>
    .ok () { world with device :=
      { world.device with submitted := world.device.submitted ++ sends (effectsOf trace) } }
  | .error panic => .error (.indexPanicked panic) world

/-- The release of a resource that does nothing else here. -/
def drop (resource : Resource) (world : World) : World := world.mark (.released resource)

/-- The main path of `main`. -/
def daemon : EStateM Exit World Unit :=
  holding (openDevice env) (drop .device) fun info => do
    bringUp profile env
    holding (startBridge env) (drop .bridge) fun _ =>
      holding (startIso env info) (dropIso env) fun _ =>
        holding (createUinput env) (drop .uinput) fun ui =>
          eventLoop env ui

end Steps

/-- The exit of a bring-up that ended early. -/
def exitOf : Abort → Exit
  | .error message => .error message
  | .panicked panic => .panicked panic

/-- The engine, started for this device. -/
def Environment.startsIso (env : Environment) (info : DeviceInfo) :
    EStateM.Result String Holdings Unit :=
  Iso.IsoAudio.start env.iso info.busNumber info.deviceAddress env.outNumXfers Holdings.nothing

/-- The device after the bring-up. -/
def poweredOn (profile : Profile) (env : Environment) : Device :=
  Device.poweredOn (chunkAcks profile env.dialogue.identify)

/-- **What the daemon comes to**: the resources that it has acquired, and how it ended. -/
inductive Ends (profile : Profile) (env : Environment) :
    List Resource → EStateM.Result Exit World Unit → Prop
  | unopened {message : String} (fails : env.opened = .error message) :
      Ends profile env [] (.error (if saysNotFound message then .absent else .error message)
        World.start)
  | notUp {info : DeviceInfo} {abort_ : Abort} {device : Device} (opens : env.opened = .ok info)
      (fails : ¬ env.dialogue.Succeeds profile)
      (stage : Stage (chunkAcks profile env.dialogue.identify) device) :
      Ends profile env [.device] (.error (exitOf abort_)
        ⟨visit [.device], device, Holdings.nothing⟩)
  | noBridge {info : DeviceInfo} {fault : String} (opens : env.opened = .ok info)
      (up : env.dialogue.Succeeds profile) (fails : env.bridgeFault = some fault) :
      Ends profile env [.device] (.error (.error ("spawn audio thread: " ++ fault))
        ⟨visit [.device], poweredOn profile env, Holdings.nothing⟩)
  | noIso {info : DeviceInfo} {message : String} {held : Holdings} (opens : env.opened = .ok info)
      (up : env.dialogue.Succeeds profile) (bridged : env.bridgeFault = none)
      (fails : env.startsIso info = .error message held) :
      Ends profile env [.device, .bridge] (.error (.error message)
        ⟨visit [.device, .bridge], poweredOn profile env, held⟩)
  | noUinput {info : DeviceInfo} {held : Holdings} {fault : String} (opens : env.opened = .ok info)
      (up : env.dialogue.Succeeds profile) (bridged : env.bridgeFault = none)
      (starts : env.startsIso info = .ok () held) (fails : env.uinputFault = some fault) :
      Ends profile env [.device, .bridge, .iso] (.error (.error fault)
        ⟨visit [.device, .bridge, .iso], poweredOn profile env,
          Iso.IsoAudio.drop env.drained held⟩)
  | served {info : DeviceInfo} {held : Holdings} {trace : List (Tick × List Effect)}
      (opens : env.opened = .ok info) (up : env.dialogue.Succeeds profile)
      (bridged : env.bridgeFault = none) (starts : env.startsIso info = .ok () held)
      (created : env.uinputFault = none)
      (looped : runMonitor { seq := ⟨3⟩, ui := Uinput.create .absolute } env.ticks = .ok trace) :
      Ends profile env [.device, .bridge, .iso, .uinput] (.ok ()
        ⟨visit [.device, .bridge, .iso, .uinput],
          ⟨⟨3⟩, (poweredOn profile env).submitted ++ sends (effectsOf trace)⟩,
          Iso.IsoAudio.drop env.drained held⟩)

section Specs

variable {profile : Profile} {env : Environment} (world : World)

theorem openDevice_error {message : String} (fails : env.opened = .error message) :
    openDevice env world =
      .error (if saysNotFound message then .absent else .error message) world := by
  rw [openDevice, fails]

end Specs

/-- Without a controller the daemon has done nothing, and its status is 0. -/
theorem absent_clean (profile : Profile) {env : Environment} {infos : List DeviceInfo}
    (listed : env.deviceList = .ok infos) (absent : ∀ info ∈ infos, info.isWolverine = false) :
    daemon profile env World.start = .error .absent World.start := by
  have fails : env.opened = .error "Wolverine (1532:0a14) not found" := by
    unfold Environment.opened
    rw [listed]
    simp only [bind, Except.bind, List.find?_eq_none.mpr fun info member =>
      Bool.eq_false_iff.mp (absent info member)]
    rfl
  unfold daemon
  rw [holding_failed (openDevice_error World.start fails)]
  rfl

/-! ### What is left behind -/

section Engine

open Wolverine.Iso.IsoAudio (withXfers inNumXfers)

variable {env : Environment} {info : DeviceInfo} {held : Holdings}

/-- A start that returned has claimed, and everything behind the claim succeeded. -/
theorem started (starts : env.startsIso info = .ok () held) :
    env.iso.Claims info.busNumber info.deviceAddress ∧
      (∀ k < env.outNumXfers + inNumXfers, env.iso.allocs k = true) ∧
      env.iso.spawnError = none := by
  rw [Environment.startsIso] at starts
  have claims : env.iso.Claims info.busNumber info.deviceAddress := by
    by_contra unclaimed
    obtain ⟨error, failed⟩ := Iso.IsoAudio.start_unclaimed unclaimed env.outNumXfers
    cases failed.symm.trans starts
  rw [Iso.IsoAudio.start_claimed claims] at starts
  have allocated : ∀ k < env.outNumXfers + inNumXfers, env.iso.allocs k = true := by
    by_contra fails
    obtain ⟨k, below, before, null⟩ := Iso.IsoAudio.first_failed_alloc fails
    obtain ⟨error, failed⟩ := Iso.IsoAudio.launch_alloc_failed below before null
    cases failed.symm.trans starts
  refine ⟨claims, allocated, ?_⟩
  rw [Iso.IsoAudio.launch_allocated allocated, onFailure, Iso.IsoAudio.spawn] at starts
  cases spawned : env.iso.spawnError with
  | none => rfl
  | some error =>
    rw [spawned] at starts
    cases starts

end Engine

/-! ### The whole run -/

/-- What the daemon owns while it serves. -/
def Resource.all : List Resource := [.device, .bridge, .iso, .uinput]

section Ends

variable {profile : Profile} {env : Environment} {info : DeviceInfo}

end Ends

end Wolverine.Daemon
