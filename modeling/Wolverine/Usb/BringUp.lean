/-
**`bring_up_audio`, and the session it opens.**

The bring-up sends IDENTIFY, receives and acknowledges the response, and sends AUDIO_FORMAT and
POWER_ON; only a send that fails, or the alternate setting of interface 2, ends it early. What the
device answers is logged, an error of the receiver included. The event loop goes on with the
counter that the bring-up leaves. A packet counts as submitted when it is handed to EP1 OUT, also
when the transfer then fails.

* `chunkAcks` — the ACKs that the receiver submits, one for each frame that asks for it
  (`chunkAcks_seq`); `chunkAcks_complete` finds them in the state of the receiver.
* `Stage` — how far the bring-up has come: what is submitted, and the counter.
* `bringUpAudio_stage`, `bringUpAudio_ok_iff` — every end of the bring-up, and which is the good
  one.
* `session_protocol` — the packets of a whole session, in order.
-/

import Wolverine.Usb.Identify
import Wolverine.Usb.Robust

namespace Wolverine.Usb

open Wolverine.Rust Wolverine.Gip Wolverine.Machine Wolverine.Input

/-! ### The chunk ACKs -/

/-- The arguments of `build_packet` for the ACK of a chunk; the total stays unknown. -/
def chunkAck (seq : UInt8) (received : Nat) : Sent where
  cmd := Cmd.acknowledge
  options := optsInternal
  seq
  payload := [0x00, Cmd.identify, optsInternal] ++ leU16 received ++ [0x00, 0x00] ++
    leU16 (0 - received)

theorem packet_chunkAck (seq : UInt8) (received : Nat) :
    (chunkAck seq received).packet = sendChunkAck seq Cmd.identify received 0 := rfl

/-- The chunk that a read carries, where it asks for an ACK. -/
def asksAck (profile : Profile) (tick : IdentifyTick) : Option Packet :=
  match tick.read with
  | .data raw =>
    match decode profile raw with
    | .ok (some pkt) =>
      if pkt.cmd = Cmd.identify ∧ pkt.isChunked = true ∧ pkt.pktLen ≠ 0 ∧ pkt.wantsAck = true then
        some pkt
      else none
    | _ => none
  | _ => none

/-- The ACK that the receiver submits after a read. -/
def acksAt (profile : Profile) (reassembly : Reassembly) (tick : IdentifyTick) : List Sent :=
  (asksAck profile tick).toList.map fun pkt =>
    chunkAck pkt.seq (max reassembly.recvd (pkt.chunkOffset + pkt.pktLen))

/-- The ACKs that the receiver submits; the last of them may fail. -/
def acksFrom (profile : Profile) : Reassembly → List IdentifyTick → List Sent
  | _, [] => []
  | reassembly, tick :: rest =>
    acksAt profile reassembly tick ++
      match receive profile reassembly tick with
      | .ok next => acksFrom profile next rest
      | .error _ => []

/-- The reads that the receiver gets to. -/
def readsFrom (profile : Profile) : Reassembly → List IdentifyTick → List IdentifyTick
  | _, [] => []
  | reassembly, tick :: rest =>
    tick ::
      match receive profile reassembly tick with
      | .ok next => readsFrom profile next rest
      | .error _ => []

def chunkAcks (profile : Profile) (ticks : List IdentifyTick) : List Sent :=
  acksFrom profile Reassembly.start ticks

/-! ### The bring-up -/

/-- How a transfer on EP1 OUT ends. -/
inductive SendStatus
  | sent
  | failed (fault : String)
  | timedOut
  deriving DecidableEq, Repr

/-- What `send` returns. -/
def SendStatus.result (label : String) : SendStatus → Except String Unit
  | .sent => .ok ()
  | .failed fault => .error s!"{label} EP1 OUT failed: {fault}"
  | .timedOut => .error s!"{label} EP1 OUT timed out"

/-- What the bring-up meets: the fate of its packets, and what is read after each. -/
structure Dialogue where
  identifySent : SendStatus
  identify : List IdentifyTick
  formatSent : SendStatus
  formatRead : Ep1Read
  powerSent : SendStatus
  powerRead : Ep1Read
  /-- The error of `set_alt_setting`, if it fails. -/
  altFault : Option String
  deriving DecidableEq, Repr

/-- How the bring-up ends early. -/
inductive Abort
  | error (message : String)
  | panicked (panic : Panic)
  deriving DecidableEq, Repr

/-- The counter, and what was submitted on EP1 OUT. -/
structure Device where
  seq : SeqCounter
  submitted : List Sent
  deriving DecidableEq, Repr

/-- `Device::open`. -/
def Device.opened : Device := { seq := SeqCounter.default, submitted := [] }

/-- Submit a packet under the next number. -/
def Device.submitNext (device : Device) (cmd : UInt8) (payload : List UInt8) : Device where
  seq := ⟨device.seq.next⟩
  submitted := device.submitted ++
    [{ cmd, options := optsInternal, seq := device.seq.next, payload }]

/-- Build a packet with the next number and send it. -/
def sendNext (cmd : UInt8) (payload : List UInt8) (label : String) (status : SendStatus) :
    EStateM Abort Device Unit := do
  modify fun device => device.submitNext cmd payload
  match status.result label with
  | .ok () => pure ()
  | .error message => throw (.error message)

/-- Receive the IDENTIFY response; a response, none and an error are all logged. -/
def logIdentify (profile : Profile) (ticks : List IdentifyTick) : EStateM Abort Device Unit := do
  modify fun device => { device with submitted := device.submitted ++ chunkAcks profile ticks }
  match receiveIdentifyResponse profile ticks with
  | .error (.panic panic) => throw (.panicked panic)
  | _ => pure ()

/-- Read a response for the log. -/
def logResponse (profile : Profile) (read : Ep1Read) : EStateM Abort Device Unit :=
  match read with
  | .data raw =>
    match decode profile raw with
    | .error panic => throw (.panicked panic)
    | .ok _ => pure ()
  | _ => pure ()

/-- `self.ctrl.set_alt_setting(1)` -/
def setAltSetting : Option String → EStateM Abort Device Unit
  | none => pure ()
  | some fault => throw (.error s!"interface 2 alt=1: {fault}")

/-- `bring_up_audio`; the pre-drain only discards reads. -/
def bringUpAudio (profile : Profile) (dialogue : Dialogue) : EStateM Abort Device Unit := do
  sendNext Cmd.identify [] "IDENTIFY" dialogue.identifySent
  logIdentify profile dialogue.identify
  -- authentication is skipped: the jack path does not need it
  sendNext Cmd.audioControl audioFormat48kStereo "AUDIO_FORMAT" dialogue.formatSent
  logResponse profile dialogue.formatRead
  sendNext Cmd.power [gipPwrOn] "POWER_ON" dialogue.powerSent
  logResponse profile dialogue.powerRead
  setAltSetting dialogue.altFault

/-! ### The session -/

/-- How a session ends. -/
inductive SessionEnd
  | aborted (abort : Abort)
  | panicked (panic : IndexPanic)
  /-- The event loop returned, with this trace. -/
  | stopped (trace : List (Tick × List Effect))

/-- What was submitted in a session, and how it ended. -/
structure Session where
  submitted : List Sent
  ended : SessionEnd

/-- The bring-up and then the event loop, on the same counter. -/
def session (profile : Profile) (dialogue : Dialogue) (ui : Uinput) (ticks : List Tick) : Session :=
  match bringUpAudio profile dialogue Device.opened with
  | .error abort device => ⟨device.submitted, .aborted abort⟩
  | .ok _ device =>
    match runMonitor { seq := device.seq, ui } ticks with
    | .error panic => ⟨device.submitted, .panicked panic⟩
    | .ok trace => ⟨device.submitted ++ sends (effectsOf trace), .stopped trace⟩

/-! ### What the receiver acknowledges -/

section Acks

variable {profile : Profile} {reassembly next last : Reassembly} {tick : IdentifyTick}
  {ticks : List IdentifyTick}

theorem asksAck_eq_some {pkt : Packet} :
    asksAck profile tick = some pkt ↔ IsChunk profile tick pkt ∧ pkt.wantsAck = true := by
  unfold asksAck
  refine ⟨fun asks => ?_, ?_⟩
  · split at asks
    · rename_i raw read
      split at asks
      · rename_i got decoded
        split at asks
        · rename_i chunk
          cases asks
          exact ⟨⟨raw, read, decoded, chunk.1, chunk.2.1, chunk.2.2.1⟩, chunk.2.2.2⟩
        · cases asks
      · cases asks
    · cases asks
  · rintro ⟨⟨raw, read, decoded, identify, chunked, nonempty⟩, wanted⟩
    rw [read]
    simp only [decoded]
    exact if_pos ⟨identify, chunked, nonempty, wanted⟩

/-- **An iteration that goes on has recorded the ACK that it submitted.** -/
theorem receive_acks (stepped : receive profile reassembly tick = .ok next) :
    next.acks.map (·.packet) =
      reassembly.acks.map (·.packet) ++ (acksAt profile reassembly tick).map Sent.packet := by
  unfold acksAt
  cases asks : asksAck profile tick with
  | some pkt =>
    obtain ⟨chunk, wanted⟩ := asksAck_eq_some.mp asks
    rw [receive_chunk chunk, if_pos wanted] at stepped
    split at stepped
    · cases stepped
      rw [Reassembly.acknowledge, List.map_append]
      rfl
    · cases stepped
  | none =>
    rw [Option.toList_none, List.map_nil, List.map_nil, List.append_nil]
    rcases receive_ok stepped with rfl | ⟨pkt, chunk, -⟩
    · rfl
    · have unwanted : ¬ pkt.wantsAck = true := fun wanted =>
        Option.some_ne_none pkt ((asksAck_eq_some.mpr ⟨chunk, wanted⟩).symm.trans asks)
      rw [receive_chunk chunk, if_neg unwanted] at stepped
      cases stepped
      rfl

theorem run_acks (ran : run (receive profile) reassembly ticks = .ok last) :
    last.acks.map (·.packet) =
      reassembly.acks.map (·.packet) ++ (acksFrom profile reassembly ticks).map Sent.packet := by
  induction ticks generalizing reassembly with
  | nil =>
    cases ran
    exact (List.append_nil _).symm
  | cons tick rest ih =>
    obtain ⟨next, stepped, ranRest⟩ := run_cons_ok ran
    rw [ih ranRest, receive_acks stepped, acksFrom, stepped, List.map_append, List.append_assoc]

/-- The iteration that completes the transfer submits nothing. -/
theorem acksAt_complete (stepped : receive profile reassembly tick = .error (.complete last)) :
    acksAt profile reassembly tick = [] := by
  unfold acksAt
  cases asks : asksAck profile tick with
  | none => rfl
  | some pkt =>
    obtain ⟨chunk, wanted⟩ := asksAck_eq_some.mp asks
    rw [receive_chunk chunk, if_pos wanted] at stepped
    split at stepped <;> cases stepped

theorem run_complete_acks
    (ran : run (receive profile) reassembly ticks = .error (.complete last)) :
    last.acks.map (·.packet) =
      reassembly.acks.map (·.packet) ++ (acksFrom profile reassembly ticks).map Sent.packet := by
  induction ticks generalizing reassembly with
  | nil => cases ran
  | cons tick rest ih =>
    rw [run] at ran
    rw [acksFrom]
    cases stepped : receive profile reassembly tick with
    | ok next =>
      rw [stepped] at ran
      rw [ih ran, receive_acks stepped, List.map_append, List.append_assoc]
    | error exit_ =>
      rw [stepped] at ran
      cases ran
      rw [acksAt_complete stepped, receive_complete stepped]
      exact (List.append_nil _).symm

/-- **The ACKs of a transfer that ends**, timeouts and the deadline included, are those that the
receiver has recorded. -/
theorem chunkAcks_complete (ended : receiveIdentify profile ticks = .complete last) :
    (chunkAcks profile ticks).map Sent.packet = last.acks.map (·.packet) := by
  unfold receiveIdentify at ended
  split at ended
  · rename_i ran
    cases ended
    exact (run_acks ran).symm
  · rename_i ran
    cases ended
    exact (run_complete_acks ran).symm

/-- One ACK for each frame that asks for it, with its number. -/
theorem acksFrom_seq (reassembly : Reassembly) (ticks : List IdentifyTick) :
    (acksFrom profile reassembly ticks).map Sent.seq =
      (readsFrom profile reassembly ticks).filterMap
        fun tick => (asksAck profile tick).map Packet.seq := by
  induction ticks generalizing reassembly with
  | nil => rfl
  | cons tick rest ih =>
    have first : (acksAt profile reassembly tick).map Sent.seq =
        ((asksAck profile tick).map Packet.seq).toList := by
      unfold acksAt
      cases asksAck profile tick <;> rfl
    rw [acksFrom, readsFrom, List.map_append, first, List.filterMap_cons]
    cases receive profile reassembly tick with
    | ok next =>
      dsimp only
      rw [ih]
      cases (asksAck profile tick).map Packet.seq <;> rfl
    | error exit_ => cases (asksAck profile tick).map Packet.seq <;> rfl

theorem acksFrom_chunkAck (reassembly : Reassembly) (ticks : List IdentifyTick) :
    ∀ ack ∈ acksFrom profile reassembly ticks, ∃ seq received, ack = chunkAck seq received := by
  induction ticks generalizing reassembly with
  | nil => nofun
  | cons tick rest ih =>
    intro ack member
    rcases List.mem_append.mp member with now | later
    · obtain ⟨pkt, -, rfl⟩ := List.mem_map.mp now
      exact ⟨_, _, rfl⟩
    · cases stepped : receive profile reassembly tick with
      | ok next =>
        rw [stepped] at later
        exact ih next ack later
      | error exit_ =>
        rw [stepped] at later
        cases later

end Acks

/-! ### The steps of the bring-up -/

section Steps

variable {profile : Profile}

theorem sendNext_sent (cmd : UInt8) (payload : List UInt8) (label : String) (device : Device) :
    sendNext cmd payload label .sent device = .ok () (device.submitNext cmd payload) := rfl

/-- A transfer that fails has taken its number, and the packet was submitted. -/
theorem sendNext_failed (cmd : UInt8) (payload : List UInt8) (label : String) {status : SendStatus}
    (failed : status ≠ .sent) (device : Device) :
    ∃ message, sendNext cmd payload label status device =
      .error (.error message) (device.submitNext cmd payload) := by
  cases status with
  | sent => exact absurd rfl failed
  | failed fault => exact ⟨_, rfl⟩
  | timedOut => exact ⟨_, rfl⟩

/-- The device after the IDENTIFY response. -/
def Device.acknowledged (device : Device) (acks : List Sent) : Device :=
  { device with submitted := device.submitted ++ acks }

/-- No frame of the response fails an overflow check. -/
def Received (profile : Profile) (ticks : List IdentifyTick) : Prop :=
  ∀ panic, receiveIdentifyResponse profile ticks ≠ .error (.panic panic)

theorem logIdentify_received {ticks : List IdentifyTick} (received : Received profile ticks)
    (device : Device) :
    logIdentify profile ticks device = .ok () (device.acknowledged (chunkAcks profile ticks)) := by
  unfold logIdentify
  rw [proceed_modify]
  cases returned : receiveIdentifyResponse profile ticks with
  | ok response => rfl
  | error failure =>
    cases failure with
    | send => rfl
    | panic panic => exact absurd returned (received panic)

theorem logIdentify_panicked {ticks : List IdentifyTick} (panics : ¬ Received profile ticks)
    (device : Device) :
    ∃ panic, logIdentify profile ticks device =
      .error (.panicked panic) (device.acknowledged (chunkAcks profile ticks)) := by
  unfold Received at panics
  push Not at panics
  obtain ⟨panic, returned⟩ := panics
  refine ⟨panic, ?_⟩
  unfold logIdentify
  rw [proceed_modify, returned]
  rfl

/-- The frame that is logged does not fail an overflow check. -/
def Logged (profile : Profile) (read : Ep1Read) : Prop :=
  ∀ raw, read = .data raw → ∃ result, decode profile raw = .ok result

theorem logResponse_logged {read : Ep1Read} (logged : Logged profile read) (device : Device) :
    logResponse profile read device = .ok () device := by
  cases read with
  | timeout => rfl
  | disconnected => rfl
  | data raw =>
    obtain ⟨result, decoded⟩ := logged raw rfl
    unfold logResponse
    simp only [decoded]
    rfl

theorem logResponse_panicked {read : Ep1Read} (panics : ¬ Logged profile read) (device : Device) :
    ∃ panic, logResponse profile read device = .error (.panicked panic) device := by
  cases read with
  | timeout => exact absurd (fun _ same => by cases same) panics
  | disconnected => exact absurd (fun _ same => by cases same) panics
  | data raw =>
    cases decoded : decode profile raw with
    | ok result => exact absurd (fun _ same => by cases same; exact ⟨result, decoded⟩) panics
    | error panic =>
      refine ⟨panic, ?_⟩
      unfold logResponse
      simp only [decoded]
      rfl

end Steps

/-! ### Every end of the bring-up -/

def identifyPacket : Sent where
  cmd := Cmd.identify
  options := optsInternal
  seq := 1
  payload := []

def formatPacket : Sent where
  cmd := Cmd.audioControl
  options := optsInternal
  seq := 2
  payload := audioFormat48kStereo

def powerPacket : Sent where
  cmd := Cmd.power
  options := optsInternal
  seq := 3
  payload := [gipPwrOn]

/-- **How far the bring-up has come**: the packets submitted, and the counter. -/
inductive Stage (acks : List Sent) : Device → Prop
  | identified : Stage acks ⟨⟨1⟩, [identifyPacket]⟩
  | acknowledged : Stage acks ⟨⟨1⟩, identifyPacket :: acks⟩
  | formatted : Stage acks ⟨⟨2⟩, identifyPacket :: acks ++ [formatPacket]⟩
  | powered : Stage acks ⟨⟨3⟩, identifyPacket :: acks ++ [formatPacket, powerPacket]⟩

/-- The device after the whole bring-up. -/
def Device.poweredOn (acks : List Sent) : Device :=
  ⟨⟨3⟩, identifyPacket :: acks ++ [formatPacket, powerPacket]⟩

/-- **What the bring-up needs**: its packets and the alternate setting go through, and no overflow
check fails. -/
structure Dialogue.Succeeds (profile : Profile) (dialogue : Dialogue) : Prop where
  identifySent : dialogue.identifySent = .sent
  identify : Received profile dialogue.identify
  formatSent : dialogue.formatSent = .sent
  formatRead : Logged profile dialogue.formatRead
  powerSent : dialogue.powerSent = .sent
  powerRead : Logged profile dialogue.powerRead
  altFault : dialogue.altFault = none

/-- **What the bring-up comes to.** -/
theorem bringUpAudio_cases (profile : Profile) (dialogue : Dialogue) :
    (dialogue.Succeeds profile ∧ bringUpAudio profile dialogue Device.opened =
      .ok () (Device.poweredOn (chunkAcks profile dialogue.identify))) ∨
    (¬ dialogue.Succeeds profile ∧ ∃ abort_ device,
      bringUpAudio profile dialogue Device.opened = .error abort_ device ∧
        Stage (chunkAcks profile dialogue.identify) device) := by
  unfold bringUpAudio
  by_cases identifySent : dialogue.identifySent = .sent
  swap
  · obtain ⟨message, failed⟩ :=
      sendNext_failed Cmd.identify [] "IDENTIFY" identifySent Device.opened
    exact .inr ⟨fun succeeds => identifySent succeeds.identifySent, _, _, abort failed _,
      .identified⟩
  rw [identifySent, proceed (sendNext_sent Cmd.identify [] "IDENTIFY" Device.opened)]
  by_cases received : Received profile dialogue.identify
  swap
  · obtain ⟨panic, failed⟩ := logIdentify_panicked received
      (Device.opened.submitNext Cmd.identify [])
    exact .inr ⟨fun succeeds => received succeeds.identify, _, _, abort failed _, .acknowledged⟩
  rw [proceed (logIdentify_received received _)]
  generalize chunkAcks profile dialogue.identify = acks
  have identified : (Device.opened.submitNext Cmd.identify []).acknowledged acks =
      ⟨⟨1⟩, identifyPacket :: acks⟩ := rfl
  have formatted : (⟨⟨1⟩, identifyPacket :: acks⟩ : Device).submitNext Cmd.audioControl
      audioFormat48kStereo = ⟨⟨2⟩, identifyPacket :: acks ++ [formatPacket]⟩ := rfl
  have powered : (⟨⟨2⟩, identifyPacket :: acks ++ [formatPacket]⟩ : Device).submitNext Cmd.power
      [gipPwrOn] = Device.poweredOn acks := by
    rw [Device.submitNext, List.append_assoc]
    rfl
  rw [identified]
  by_cases formatSent : dialogue.formatSent = .sent
  swap
  · obtain ⟨message, failed⟩ := sendNext_failed Cmd.audioControl audioFormat48kStereo
      "AUDIO_FORMAT" formatSent ⟨⟨1⟩, identifyPacket :: acks⟩
    exact .inr ⟨fun succeeds => formatSent succeeds.formatSent, _, _, abort failed _, .formatted⟩
  rw [formatSent, proceed (sendNext_sent Cmd.audioControl audioFormat48kStereo "AUDIO_FORMAT" _),
    formatted]
  by_cases formatRead : Logged profile dialogue.formatRead
  swap
  · obtain ⟨panic, failed⟩ :=
      logResponse_panicked formatRead ⟨⟨2⟩, identifyPacket :: acks ++ [formatPacket]⟩
    exact .inr ⟨fun succeeds => formatRead succeeds.formatRead, _, _, abort failed _, .formatted⟩
  rw [proceed (logResponse_logged formatRead _)]
  by_cases powerSent : dialogue.powerSent = .sent
  swap
  · obtain ⟨message, failed⟩ := sendNext_failed Cmd.power [gipPwrOn] "POWER_ON" powerSent
      ⟨⟨2⟩, identifyPacket :: acks ++ [formatPacket]⟩
    rw [powered] at failed
    exact .inr ⟨fun succeeds => powerSent succeeds.powerSent, _, _, abort failed _, .powered⟩
  rw [powerSent, proceed (sendNext_sent Cmd.power [gipPwrOn] "POWER_ON" _), powered]
  by_cases powerRead : Logged profile dialogue.powerRead
  swap
  · obtain ⟨panic, failed⟩ := logResponse_panicked powerRead (Device.poweredOn acks)
    exact .inr ⟨fun succeeds => powerRead succeeds.powerRead, _, _, abort failed _, .powered⟩
  rw [proceed (logResponse_logged powerRead _)]
  cases altFault : dialogue.altFault with
  | none =>
    exact .inl ⟨⟨identifySent, received, formatSent, formatRead, powerSent, powerRead, altFault⟩,
      rfl⟩
  | some fault =>
    refine .inr ⟨fun succeeds => ?_, _, _, rfl, .powered⟩
    exact Option.some_ne_none fault (altFault.symm.trans succeeds.altFault)

/-! ### A release build -/

theorem receive_release (reassembly : Reassembly) (tick : IdentifyTick) (panic : Panic) :
    receive .release reassembly tick ≠ .error (.panicked panic) := by
  intro stepped
  unfold receive at stepped
  split at stepped
  · rename_i raw read
    obtain ⟨result, decoded⟩ := decode_release raw
    rw [decoded] at stepped
    rcases result with - | pkt
    · cases stepped
    · dsimp only at stepped
      repeat' split at stepped
      all_goals cases stepped
  · split at stepped <;> cases stepped

theorem received_release (ticks : List IdentifyTick) : Received .release ticks := by
  intro panic returned
  unfold receiveIdentifyResponse receiveIdentify at returned
  split at returned
  · cases returned
  · rename_i exit_ ran
    obtain ⟨last, tick, -, -, stepped⟩ := run_fault (fun _ _ _ _ _ _ => trivial)
      ticks Reassembly.start exit_ trivial (meets_of_forall (fun _ _ => trivial) _) ran
    cases exit_ with
    | panicked other => exact receive_release last tick other stepped
    | complete last => cases returned
    | single data => cases returned
    | sendFailed => cases returned

theorem logged_release (read : Ep1Read) : Logged .release read :=
  fun raw _ => decode_release raw

/-- **A release build brings the audio up whatever the device answers.** -/
theorem succeeds_release_iff (dialogue : Dialogue) :
    dialogue.Succeeds .release ↔ dialogue.identifySent = .sent ∧ dialogue.formatSent = .sent ∧
      dialogue.powerSent = .sent ∧ dialogue.altFault = none := by
  refine ⟨fun succeeds => ⟨succeeds.identifySent, succeeds.formatSent, succeeds.powerSent,
    succeeds.altFault⟩, ?_⟩
  rintro ⟨identifySent, formatSent, powerSent, altFault⟩
  exact ⟨identifySent, received_release _, formatSent, logged_release _, powerSent,
    logged_release _, altFault⟩

/-! ### The packets of a session -/

section Packets

variable {acks : List Sent} {device : Device}

theorem sends_map_send (submitted : List Sent) : sends (submitted.map .send) = submitted := by
  rw [sends, List.filterMap_map]
  exact List.filterMap_some

/-- ACKs take no number. -/
theorem orderly_chunkAcks (counter : SeqCounter)
    (chunkAcks : ∀ ack ∈ acks, ∃ seq received, ack = chunkAck seq received) :
    Orderly counter (acks.map .send) counter := by
  induction acks with
  | nil => exact Orderly.silent counter rfl
  | cons ack rest ih =>
    obtain ⟨seq, received, rfl⟩ := chunkAcks ack List.mem_cons_self
    have first : Orderly counter [.send (chunkAck seq received)] counter :=
      Orderly.ack counter (by decide) le_rfl
    exact first.append (ih fun other member => chunkAcks other (List.mem_cons_of_mem _ member))

/-- **At every stage the numbers are in order.** -/
theorem Stage.orderly (stage : Stage acks device)
    (chunkAcks : ∀ ack ∈ acks, ∃ seq received, ack = chunkAck seq received) :
    Orderly SeqCounter.default (device.submitted.map .send) device.seq := by
  have identified : Orderly SeqCounter.default [.send identifyPacket] ⟨1⟩ :=
    Orderly.next SeqCounter.default (by decide) (by decide) (by decide)
  have acknowledged : Orderly SeqCounter.default ((identifyPacket :: acks).map .send) ⟨1⟩ :=
    identified.append (orderly_chunkAcks ⟨1⟩ chunkAcks)
  have format : Orderly ⟨1⟩ [.send formatPacket] ⟨2⟩ :=
    Orderly.next ⟨1⟩ (by decide) (by decide) (by decide)
  have power : Orderly ⟨2⟩ [.send powerPacket] ⟨3⟩ :=
    Orderly.next ⟨2⟩ (by decide) (by decide) (by decide)
  cases stage with
  | identified => exact identified
  | acknowledged => exact acknowledged
  | formatted =>
    dsimp only
    rw [List.map_append]
    exact acknowledged.append format
  | powered =>
    dsimp only
    rw [List.map_append]
    exact acknowledged.append (format.append power)

/-- What is submitted at a stage is submitted by the whole bring-up. -/
theorem Stage.prefix_ (stage : Stage acks device) :
    device.submitted <+: (Device.poweredOn acks).submitted := by
  cases stage with
  | identified => exact ⟨acks ++ [formatPacket, powerPacket], rfl⟩
  | acknowledged => exact ⟨[formatPacket, powerPacket], rfl⟩
  | formatted => exact ⟨[powerPacket], by simp [Device.poweredOn]⟩
  | powered => exact List.prefix_rfl

end Packets

/-- What a part of the session sends is all that counts. -/
theorem Orderly.onlySends {counter last : SeqCounter} {effects : List Effect}
    (orderly : Orderly counter effects last) :
    Orderly counter ((sends effects).map .send) last := by
  refine ⟨?_, ?_⟩
  · rw [sends_map_send]
    exact orderly.small
  · rw [sends_map_send]
    exact orderly.numbers

/-- **What a session comes to.** -/
theorem session_cases (profile : Profile) (dialogue : Dialogue) (ui : Uinput) (ticks : List Tick) :
    (dialogue.Succeeds profile ∧ ∃ trace last,
      session profile dialogue ui ticks =
        ⟨(Device.poweredOn (chunkAcks profile dialogue.identify)).submitted ++
          sends (effectsOf trace), .stopped trace⟩ ∧
      Orderly ⟨3⟩ (effectsOf trace) last ∧
      trace.map (fun entry => (entry.1, entry.2.map Effect.action)) = runEventLoop ⟨3⟩ ticks) ∨
    (¬ dialogue.Succeeds profile ∧ ∃ abort_ device,
      session profile dialogue ui ticks = ⟨device.submitted, .aborted abort_⟩ ∧
      Stage (chunkAcks profile dialogue.identify) device) := by
  unfold session
  rcases bringUpAudio_cases profile dialogue with
    ⟨succeeds, ran⟩ | ⟨fails, abort_, device, ran, stage⟩
  · obtain ⟨trace, last, looped, orderly, same⟩ := runMonitor_ok ticks { seq := ⟨3⟩, ui }
    refine .inl ⟨succeeds, trace, last, ?_, orderly, same⟩
    rw [ran]
    dsimp only [Device.poweredOn]
    rw [looped]
  · exact .inr ⟨fails, abort_, device, by rw [ran], stage⟩

/-- **All numbers of a session are in order.** -/
theorem session_orderly (profile : Profile) (dialogue : Dialogue) (ui : Uinput)
    (ticks : List Tick) :
    ∃ last, Orderly SeqCounter.default
      ((session profile dialogue ui ticks).submitted.map .send) last := by
  have answered := @acksFrom_chunkAck profile Reassembly.start dialogue.identify
  rcases session_cases profile dialogue ui ticks with
    ⟨-, trace, last, same, orderly, -⟩ | ⟨-, abort_, device, same, stage⟩
  · refine ⟨last, ?_⟩
    rw [same, List.map_append]
    exact (Stage.powered.orderly answered).append orderly.onlySends
  · refine ⟨device.seq, ?_⟩
    rw [same]
    exact stage.orderly answered

/-- **The protocol of a session.** Whatever the device answers, every packet that the driver submits
is at most 64 bytes long and decodes to the arguments it was built from, and all but the ACKs carry
the numbers 1, 2, 3, … in the cycle 1 to 255, through the bring-up and the event loop. The response
to IDENTIFY is acknowledged frame by frame. Where the bring-up succeeds, the session is IDENTIFY,
these ACKs, AUDIO_FORMAT and POWER_ON, and then the event loop; where it does not, the event loop
does not run, and what was submitted is the beginning of that. A release build needs nothing but its
own transfers for it. -/
theorem session_protocol (profile : Profile) (dialogue : Dialogue) (ui : Uinput)
    (ticks : List Tick) :
    let ran := session profile dialogue ui ticks
    let acks := chunkAcks profile dialogue.identify
    let handshake := identifyPacket :: acks ++ [formatPacket, powerPacket]
    (∀ sent ∈ ran.submitted, sent.packet.length ≤ 64 ∧
      ∃ packet, decode profile sent.packet = .ok (some packet) ∧ packet.cmd = sent.cmd ∧
        packet.options = sent.options ∧ packet.seq = sent.seq ∧ packet.payload = sent.payload) ∧
    (numbered ran.submitted).map (fun sent => sent.seq.toNat) =
      (List.range (numbered ran.submitted).length).map (fun i => i % 255 + 1) ∧
    acks.map Sent.seq = (readsFrom profile Reassembly.start dialogue.identify).filterMap
      (fun tick => (asksAck profile tick).map Packet.seq) ∧
    (dialogue.Succeeds profile → ∃ trace, ran.ended = .stopped trace ∧
      ran.submitted = handshake ++ sends (effectsOf trace) ∧
      trace.map (fun entry => (entry.1, entry.2.map Effect.action)) = runEventLoop ⟨3⟩ ticks) ∧
    (¬ dialogue.Succeeds profile → (∃ abort_, ran.ended = .aborted abort_) ∧
      ran.submitted <+: handshake) ∧
    (dialogue.Succeeds .release ↔ dialogue.identifySent = .sent ∧ dialogue.formatSent = .sent ∧
      dialogue.powerSent = .sent ∧ dialogue.altFault = none) := by
  intro ran acks handshake
  obtain ⟨last, orderly⟩ := session_orderly profile dialogue ui ticks
  have cases_ := session_cases profile dialogue ui ticks
  refine ⟨fun sent member => ?_, ?_, acksFrom_seq _ _, fun succeeds => ?_, fun fails => ?_,
    succeeds_release_iff dialogue⟩
  · rw [← sends_map_send ran.submitted] at member
    obtain ⟨short, decoded⟩ := Sent.sound (orderly.small sent member) profile
    exact ⟨short, _, decoded, rfl, rfl, rfl, rfl⟩
  · have numbers := orderly.numbers.map_toNat
    rw [sends_map_send, List.map_map, List.length_map] at numbers
    have start : SeqCounter.default.value.toNat = 0 := rfl
    simp only [start, Nat.zero_add] at numbers
    exact numbers
  · obtain ⟨-, trace, last, same, -, actions⟩ | ⟨fails, -⟩ := cases_
    · exact ⟨trace, congrArg Session.ended same, congrArg Session.submitted same, actions⟩
    · exact absurd succeeds fails
  · obtain ⟨succeeds, -⟩ | ⟨-, abort_, device, same, stage⟩ := cases_
    · exact absurd succeeds fails
    · refine ⟨⟨abort_, congrArg Session.ended same⟩, ?_⟩
      rw [show ran.submitted = device.submitted from congrArg Session.submitted same]
      exact stage.prefix_

end Wolverine.Usb
