/-
**`gip_init`, `monitor_gip` and the counter between them.**

`gip_init` brings the controller up and hands its counter to the thread `monitor_gip`, which answers
every STATUS packet and every volume report with a packet numbered from it. The counter grows by one
an answer and never wraps; only `bytes([..])` sees that it must be a byte, and the `ValueError` is
not caught.

* `gipInit_bounds` — the counter that `gip_init` returns is between 4 and 13.
* `monitorStep_ok`, `monitorStep_error` — one read: while the counter has room the packet takes its
  number, and the packet sent carries it; without room it raises.
* `run_ok`, `run_error` — the same over whole runs.
* `survives_iff` — a session never raises, with all its numbers in `1..=255`, exactly when the
  counter and the numbers taken add up to at most 256.
-/

import Wolverine.Base.Machine
import Wolverine.Python.Auth

namespace Wolverine.Python

open Wolverine.Progress

/-! ### Bringing the controller up -/

section Init

variable {Device Key : Type} (link : Link Device) (host : Host Key)

/-- `SEND_HW_VOLUME` -/
def sendHwVolume : Bool := false

def drainBuffer (timeoutMs : Nat) : Py Device Unit :=
  onDev fun dev => .ok ((), link.drainBuffer timeoutMs dev)

def receiveIdentifyResponse (ourSeq : Nat) : Py Device (Option (List UInt8)) :=
  onDev (link.receiveIdentifyResponse ourSeq)

/-- Build a packet with the given number and `gip_send` it. -/
def gipSendBuilt (build : Nat → Except PyError (List UInt8)) (seq : Nat) : Py Device Bool := do
  let packet ← build seq
  gipSend link packet

/-- Steps 5 and 6: the hardware volume, behind its flag. -/
def sendVolume : Py Device Unit :=
  if sendHwVolume then do
    sendCounted (gipSendBuilt link (pktAudioVolume · 100 100))
    let _resp ← gipRecv link
    sendCounted (gipSendBuilt link (pktAudioVolumeChat · 0x04 25 25 100))
    let _resp ← gipRecv link
    pure ()
  else pure ()

/-- The steps of `gip_init`: IDENTIFY, AUTH, AUDIO FORMAT, POWER ON, volume. -/
def gipInitSteps : Py Device Unit := do
  drainBuffer link 300
  sendCounted (gipSendBuilt link pktIdentify)
  let session ← get
  let _identify ← receiveIdentifyResponse link session.seqRef
  let _authOk ← gipAuthHandshake link host   -- a failed handshake is only reported
  sendCounted (gipSendBuilt link pktAudioFormat)
  let _resp ← gipRecv link
  sendCounted (gipSendBuilt link (pktPower · gipPwrOn))
  let _resp ← gipRecv link
  sendVolume link

/-- `gip_init`: the counter it returns, and the device after it. -/
def gipInit (dev : Device) : Except PyError (Nat × Device) :=
  match gipInitSteps link host { dev, seqRef := 1 } with
  | .ok (_, session) => .ok (session.seqRef, session.dev)
  | .error error => .error error

theorem gipSendBuilt_keeps (build : Nat → Except PyError (List UInt8)) (seq : Nat) :
    Advances Session.seqRef 0 0 (gipSendBuilt link build seq) :=
  (advances_lift _).after fun _ => onDev_keeps _

/-- The volume steps are switched off. -/
theorem sendVolume_keeps : Advances Session.seqRef 0 0 (sendVolume link) := advances_pure ()

/-- Three packets of `gip_init` itself, and up to nine of the handshake. -/
theorem gipInitSteps_advances : Advances Session.seqRef 3 12 (gipInitSteps link host) := by
  have counted : ∀ build, Advances Session.seqRef 1 1 (sendCounted (gipSendBuilt link build)) :=
    fun build => sendCounted_advances (gipSendBuilt_keeps link build)
  refine (onDev_keeps _).after fun _ => ?_
  refine ((counted pktIdentify).bind (fun _ => ?_) : Advances Session.seqRef (1 + 2) (1 + 11) _)
  refine advances_get.after fun session => ?_
  refine (onDev_keeps _).after fun _ => ?_
  refine ((gipAuthHandshake_advances link host).bind (fun _ => ?_) :
    Advances Session.seqRef (0 + 2) (9 + 2) _)
  refine ((counted pktAudioFormat).bind (fun _ => ?_) : Advances Session.seqRef (1 + 1) (1 + 1) _)
  refine (onDev_keeps _).after fun _ => ?_
  refine ((counted (pktPower · gipPwrOn)).bind (fun _ => ?_) :
    Advances Session.seqRef (1 + 0) (1 + 0) _)
  refine (onDev_keeps _).after fun _ => ?_
  exact sendVolume_keeps link

/-- **The counter after `gip_init`.** -/
theorem gipInit_bounds {dev dev' : Device} {seqRef : Nat}
    (returned : gipInit link host dev = .ok (seqRef, dev')) : 4 ≤ seqRef ∧ seqRef ≤ 13 := by
  unfold gipInit at returned
  split at returned
  · rename_i session ran
    cases returned
    exact gipInitSteps_advances link host _ _ _ ran
  · cases returned

end Init

/-! ### The monitor thread -/

/-- What a read of EP1 returns. -/
inductive Read
  | data (raw : List UInt8)
  | timeout
  | usbError
  deriving DecidableEq, Repr

/-- What the thread does: calls into the input devices, and packets handed to `dev.write`. -/
inductive Action
  | parseAndForwardGamepad (raw : List UInt8)
  | forwardMedia (raw : List UInt8)
  | write (packet : List UInt8)
  deriving DecidableEq, Repr

/-- The counter `seq_ref[0]`, and what the thread has done so far. -/
structure Monitor where
  seqRef : Nat
  actions : List Action
  deriving DecidableEq, Repr

def Monitor.act (monitor : Monitor) (action : Action) : Monitor :=
  { monitor with actions := monitor.actions ++ [action] }

/-- Write a packet that takes the next number. A `USBError` of the write is caught; a `ValueError`
of the builder is not. -/
def writeCounted (monitor : Monitor) (build : Nat → Except PyError (List UInt8)) :
    Except PyError Monitor := do
  let packet ← build monitor.seqRef
  return { monitor with seqRef := monitor.seqRef + 1 }.act (.write packet)

/-- The answer to a volume report. -/
def answerVolume (monitor : Monitor) (raw : List UInt8) : Except PyError Monitor :=
  if raw.getD 4 0xff = 0x00 ∧ 9 ≤ raw.length then
    writeCounted (monitor.act (.forwardMedia raw))
      (pktAudioVolumeChat · (raw.getD 5 0).toNat 0x64 0x64 0x64)
  else .ok monitor

/-- The ACK of a received packet that asks for one. -/
def answerAck (monitor : Monitor) (raw : List UInt8) : Except PyError Monitor :=
  let cmd := (raw.getD 0 0).toNat
  let opts := (raw.getD 1 0).toNat
  let seq := (raw.getD 2 0).toNat
  if opts &&& gipOptAck ≠ 0 then do
    let packet ← pktAck cmd opts seq
    return monitor.act (.write packet)
  else .ok monitor

/-- Dispatch a received packet; `ui` says whether there is a gamepad device. -/
def handlePacket (ui : Bool) (monitor : Monitor) (raw : List UInt8) : Except PyError Monitor :=
  let cmd := (raw.getD 0 0).toNat
  if cmd = gipCmdInput then
    .ok (if ui then monitor.act (.parseAndForwardGamepad raw) else monitor)
  else if cmd = gipCmdStatus then
    writeCounted monitor (pktStatus · (raw.getD 4 0x80).toNat)
  else if cmd = gipCmdAudioControl then do
    let monitor ← answerVolume monitor raw
    answerAck monitor raw
  else .ok monitor   -- AUTHENTICATE and the rest are only printed

/-- One iteration of `monitor_gip`; a list of reads that ends is the stop event. -/
def monitorStep (ui : Bool) (monitor : Monitor) : Read → Except PyError Monitor
  | .data raw => if raw = [] then .ok monitor else handlePacket ui monitor raw
  | .timeout => .ok monitor
  | .usbError => .ok monitor

/-! ### The numbers a session takes -/

/-- A packet whose answer takes a number: STATUS, or a volume report. -/
def TakesNumber (raw : List UInt8) : Prop :=
  (raw.getD 0 0).toNat = gipCmdStatus ∨
    (raw.getD 0 0).toNat = gipCmdAudioControl ∧ raw.getD 4 0xff = 0x00 ∧ 9 ≤ raw.length

instance (raw : List UInt8) : Decidable (TakesNumber raw) := inferInstanceAs (Decidable (_ ∨ _))

theorem TakesNumber.ne_nil {raw : List UInt8} (takes : TakesNumber raw) : raw ≠ [] := by
  rintro rfl
  exact absurd takes (by decide)

/-- The numbers that a read takes. -/
def taken : Read → Nat
  | .data raw => if TakesNumber raw then 1 else 0
  | .timeout => 0
  | .usbError => 0

/-- The numbers that a session takes. -/
def takenBy (reads : List Read) : Nat := (reads.map taken).sum

/-- The sequence byte of a host-originated packet; an ACK repeats the number it has received. -/
def hostSeq : Action → Option UInt8
  | .write packet =>
    if packet.getD 0 0 = UInt8.ofNat gipCmdAcknowledge then none else some (packet.getD 2 0)
  | _ => none

/-- The sequence bytes of the host-originated packets, in order. -/
def hostSeqs (monitor : Monitor) : List UInt8 := monitor.actions.filterMap hostSeq

/-- **A session survives**: no step raises, and every host-originated packet carries a number in
`1..=255`. -/
def Survives (ui : Bool) (seqRef : Nat) (reads : List Read) : Prop :=
  ∃ last, Machine.run (monitorStep ui) { seqRef, actions := [] } reads = .ok last ∧
    ∀ seq ∈ hostSeqs last, 1 ≤ seq.toNat ∧ seq.toNat ≤ 255

/-- The bytes of `count` numbers from `seqRef` on. -/
def seqBytes (seqRef count : Nat) : List UInt8 := (List.range' seqRef count).map UInt8.ofNat

theorem seqBytes_append (seqRef first second : Nat) :
    seqBytes seqRef first ++ seqBytes (seqRef + first) second =
      seqBytes seqRef (first + second) := by
  rw [seqBytes, seqBytes, seqBytes, ← List.map_append, List.range'_append_1]

/-- Numbers from 1 to 255 are their bytes. -/
theorem seqBytes_bounds {seqRef count : Nat} (positive : 1 ≤ seqRef) (room : seqRef + count ≤ 256) :
    ∀ seq ∈ seqBytes seqRef count, 1 ≤ seq.toNat ∧ seq.toNat ≤ 255 := by
  intro seq member
  obtain ⟨number, inside, rfl⟩ := List.mem_map.mp member
  have bounds := List.mem_range'_1.mp inside
  rw [UInt8.toNat_ofNat', Nat.mod_eq_of_lt (by omega)]
  omega

theorem hostSeqs_act (monitor : Monitor) (action : Action) :
    hostSeqs (monitor.act action) = hostSeqs monitor ++ (hostSeq action).toList := by
  rw [hostSeqs, Monitor.act, List.filterMap_append, ← hostSeqs]
  cases found : hostSeq action <;> simp [found]

/-! ### One read -/

/-- A builder that needs nothing but a byte for its number. -/
structure Numbered (build : Nat → Except PyError (List UInt8)) : Prop where
  inside : ∀ seq, seq < 256 →
    ∃ packet, build seq = .ok packet ∧ hostSeq (.write packet) = some (UInt8.ofNat seq)
  outside : ∀ seq, 256 ≤ seq → build seq = .error .valueError

/-- A packet under a command of the host, with a payload of bytes. -/
theorem numbered_buildBytes {cmd options : Nat} {values : List Nat} (cmdByte : cmd < 256)
    (host : UInt8.ofNat cmd ≠ UInt8.ofNat gipCmdAcknowledge) (optionsByte : options < 256)
    (small : ∀ value ∈ values, value < 256) :
    Numbered (buildBytes cmd options · values) := by
  refine ⟨fun seq byte => ?_, fun seq large => buildBytes_overflow large small cmd options⟩
  exact ⟨_, buildBytes_of_lt cmdByte optionsByte byte small, if_neg host⟩

theorem numbered_pktStatus (status : UInt8) : Numbered (pktStatus · status.toNat) :=
  numbered_buildBytes (by decide) (by decide) (by decide) (by simp [status.toNat_lt])

theorem numbered_pktAudioVolumeChat (state : UInt8) :
    Numbered (pktAudioVolumeChat · state.toNat 0x64 0x64 0x64) :=
  numbered_buildBytes (by decide) (by decide) (by decide)
    (by simp [state.toNat_lt, gipAudCtrlVolumeChat])

/-- The step from one state of the thread to the next takes `count` numbers. -/
structure Takes (monitor : Monitor) (count : Nat) (next : Monitor) : Prop where
  seqRef_eq : next.seqRef = monitor.seqRef + count
  hostSeqs_eq : hostSeqs next = hostSeqs monitor ++ seqBytes monitor.seqRef count

theorem Takes.refl (monitor : Monitor) : Takes monitor 0 monitor :=
  ⟨rfl, (List.append_nil _).symm⟩

theorem Takes.trans {monitor middle last : Monitor} {first second : Nat}
    (before : Takes monitor first middle) (after : Takes middle second last) :
    Takes monitor (first + second) last := by
  refine ⟨?_, ?_⟩
  · rw [after.seqRef_eq, before.seqRef_eq, Nat.add_assoc]
  · rw [after.hostSeqs_eq, before.hostSeqs_eq, before.seqRef_eq, List.append_assoc,
      seqBytes_append]

/-- An action that is no host-originated packet. -/
theorem takes_act {action : Action} (silent : hostSeq action = none) (monitor : Monitor) :
    Takes monitor 0 (monitor.act action) := by
  refine ⟨rfl, ?_⟩
  rw [hostSeqs_act, silent]
  rfl

theorem writeCounted_ok {build : Nat → Except PyError (List UInt8)} (numbered : Numbered build)
    {monitor : Monitor} (room : monitor.seqRef < 256) :
    ∃ next, writeCounted monitor build = .ok next ∧ Takes monitor 1 next := by
  obtain ⟨packet, built, seq⟩ := numbered.inside monitor.seqRef room
  refine ⟨_, by rw [writeCounted, built]; rfl, rfl, ?_⟩
  rw [hostSeqs_act, seq]
  rfl

theorem writeCounted_error {build : Nat → Except PyError (List UInt8)} (numbered : Numbered build)
    {monitor : Monitor} (full : 256 ≤ monitor.seqRef) :
    writeCounted monitor build = .error .valueError := by
  rw [writeCounted, numbered.outside monitor.seqRef full]
  rfl

/-- An ACK is built from received bytes: it never raises, and carries no number of the host. -/
theorem pktAck_ok (cmd opts seq : UInt8) :
    ∃ packet, pktAck cmd.toNat opts.toNat seq.toNat = .ok packet ∧
      hostSeq (.write packet) = none := by
  have small : ∀ value ∈ [0x00, cmd.toNat, opts.toNat, 0x00, 0x00, 0x00, 0x00, 0x00, 0x00],
      value < 256 := by simp [cmd.toNat_lt, opts.toNat_lt]
  refine ⟨_, buildBytes_of_lt (by decide) (by decide) seq.toNat_lt small, ?_⟩
  rw [hostSeq]
  exact if_pos rfl

theorem answerAck_ok (monitor : Monitor) (raw : List UInt8) :
    ∃ next, answerAck monitor raw = .ok next ∧ Takes monitor 0 next := by
  obtain ⟨packet, built, silent⟩ := pktAck_ok (raw.getD 0 0) (raw.getD 1 0) (raw.getD 2 0)
  unfold answerAck
  simp only [built]
  split
  · exact ⟨_, rfl, takes_act silent monitor⟩
  · exact ⟨monitor, rfl, Takes.refl monitor⟩

/-- **A packet that takes no number is answered without raising.** -/
theorem handlePacket_silent (ui : Bool) (monitor : Monitor) {raw : List UInt8}
    (silent : ¬ TakesNumber raw) :
    ∃ next, handlePacket ui monitor raw = .ok next ∧ Takes monitor 0 next := by
  unfold handlePacket
  simp only
  split
  · refine ⟨_, rfl, ?_⟩
    split
    · exact takes_act rfl monitor
    · exact Takes.refl monitor
  split
  · rename_i status
    exact absurd (Or.inl status) silent
  split
  · rename_i audio
    have short : ¬ (raw.getD 4 0xff = 0x00 ∧ 9 ≤ raw.length) :=
      fun report => silent (Or.inr ⟨audio, report⟩)
    rw [answerVolume, if_neg short]
    exact answerAck_ok monitor raw
  · exact ⟨monitor, rfl, Takes.refl monitor⟩

/-- A packet that takes a number is answered by a counted write, and then perhaps by an ACK. -/
theorem handlePacket_takes (ui : Bool) (monitor : Monitor) {raw : List UInt8}
    (takes : TakesNumber raw) :
    ∃ start build, Numbered build ∧ Takes monitor 0 start ∧
      (handlePacket ui monitor raw = writeCounted start build ∨
        handlePacket ui monitor raw = writeCounted start build >>= (answerAck · raw)) := by
  rcases takes with status | ⟨audio, report⟩
  · refine ⟨monitor, _, numbered_pktStatus (raw.getD 4 0x80), Takes.refl monitor, Or.inl ?_⟩
    rw [handlePacket, if_neg (by rw [status]; decide), if_pos status]
  · refine ⟨monitor.act (.forwardMedia raw), _, numbered_pktAudioVolumeChat (raw.getD 5 0),
      takes_act rfl monitor, Or.inr ?_⟩
    rw [handlePacket, if_neg (by rw [audio]; decide), if_neg (by rw [audio]; decide),
      if_pos audio, answerVolume, if_pos report]

theorem handlePacket_ok (ui : Bool) {monitor : Monitor} {raw : List UInt8}
    (takes : TakesNumber raw) (room : monitor.seqRef < 256) :
    ∃ next, handlePacket ui monitor raw = .ok next ∧ Takes monitor 1 next := by
  obtain ⟨start, build, numbered, before, handled⟩ := handlePacket_takes ui monitor takes
  have startRoom : start.seqRef < 256 := by
    rw [before.seqRef_eq]
    exact room
  obtain ⟨written, wrote, after⟩ := writeCounted_ok numbered startRoom
  rcases handled with handled | handled
  · rw [handled]
    exact ⟨written, wrote, before.trans after⟩
  · obtain ⟨next, acked, last⟩ := answerAck_ok written raw
    rw [handled, wrote]
    exact ⟨next, acked, (before.trans after).trans last⟩

theorem handlePacket_error (ui : Bool) {monitor : Monitor} {raw : List UInt8}
    (takes : TakesNumber raw) (full : 256 ≤ monitor.seqRef) :
    handlePacket ui monitor raw = .error .valueError := by
  obtain ⟨start, build, numbered, before, handled⟩ := handlePacket_takes ui monitor takes
  have startFull : 256 ≤ start.seqRef := by
    rw [before.seqRef_eq]
    exact full
  have raised := writeCounted_error numbered startFull
  rcases handled with handled | handled
  · rw [handled, raised]
  · rw [handled, raised]
    rfl

/-- **While the counter has room, a read takes its number and no other.** -/
theorem monitorStep_ok (ui : Bool) {monitor : Monitor} {read : Read}
    (room : monitor.seqRef + taken read ≤ 256) :
    ∃ next, monitorStep ui monitor read = .ok next ∧ Takes monitor (taken read) next := by
  cases read with
  | timeout => exact ⟨monitor, rfl, Takes.refl monitor⟩
  | usbError => exact ⟨monitor, rfl, Takes.refl monitor⟩
  | data raw =>
    rw [monitorStep]
    by_cases takes : TakesNumber raw
    · rw [taken, if_pos takes] at room ⊢
      rw [if_neg takes.ne_nil]
      exact handlePacket_ok ui takes (by omega)
    · rw [taken, if_neg takes]
      split
      · exact ⟨monitor, rfl, Takes.refl monitor⟩
      · exact handlePacket_silent ui monitor takes

/-- **Once it has none, the first packet that takes a number raises.** -/
theorem monitorStep_error (ui : Bool) {monitor : Monitor} {read : Read}
    (bounded : monitor.seqRef ≤ 256) (full : 256 < monitor.seqRef + taken read) :
    monitorStep ui monitor read = .error .valueError := by
  cases read with
  | timeout => exact absurd full (by rw [taken]; omega)
  | usbError => exact absurd full (by rw [taken]; omega)
  | data raw =>
    by_cases takes : TakesNumber raw
    · rw [taken, if_pos takes] at full
      rw [monitorStep, if_neg takes.ne_nil]
      exact handlePacket_error ui takes (by omega)
    · rw [taken, if_neg takes] at full
      omega

/-! ### Whole sessions -/

theorem takenBy_cons (read : Read) (rest : List Read) :
    takenBy (read :: rest) = taken read + takenBy rest := List.sum_cons

/-- **A run with room for all its numbers** returns, and has sent exactly the bytes of the numbers
from the counter on. -/
theorem run_ok (ui : Bool) (reads : List Read) : ∀ monitor : Monitor,
    monitor.seqRef + takenBy reads ≤ 256 →
      ∃ last, Machine.run (monitorStep ui) monitor reads = .ok last ∧
        Takes monitor (takenBy reads) last := by
  induction reads with
  | nil =>
    intro monitor _
    exact ⟨monitor, rfl, Takes.refl monitor⟩
  | cons read rest ih =>
    intro monitor room
    rw [takenBy_cons] at room ⊢
    obtain ⟨next, stepped, first⟩ :=
      monitorStep_ok ui (show monitor.seqRef + taken read ≤ 256 by omega)
    have later : next.seqRef + takenBy rest ≤ 256 := by
      rw [first.seqRef_eq]
      omega
    obtain ⟨last, ran, second⟩ := ih next later
    exact ⟨last, by rw [Machine.run_cons stepped, ran], first.trans second⟩

/-- **A run without room** ends in the `ValueError` of `bytes([..])`. -/
theorem run_error (ui : Bool) (reads : List Read) : ∀ monitor : Monitor,
    monitor.seqRef ≤ 256 → 256 < monitor.seqRef + takenBy reads →
      Machine.run (monitorStep ui) monitor reads = .error .valueError := by
  induction reads with
  | nil =>
    intro monitor bounded full
    exact absurd full (not_lt.mpr bounded)
  | cons read rest ih =>
    intro monitor bounded full
    rw [takenBy_cons] at full
    by_cases room : monitor.seqRef + taken read ≤ 256
    · obtain ⟨next, stepped, first⟩ := monitorStep_ok ui room
      rw [Machine.run_cons stepped]
      apply ih next
      · rw [first.seqRef_eq]
        exact room
      · rw [first.seqRef_eq]
        omega
    · rw [Machine.run, monitorStep_error ui bounded (not_le.mp room)]

/-- A session survives exactly when the counter and the numbers it takes stay within a byte. -/
theorem survives_iff (ui : Bool) {seqRef : Nat} (positive : 1 ≤ seqRef) (bounded : seqRef ≤ 256)
    (reads : List Read) : Survives ui seqRef reads ↔ seqRef + takenBy reads ≤ 256 := by
  refine ⟨fun ⟨last, ran, _⟩ => ?_, fun room => ?_⟩
  · by_contra full
    rw [run_error ui reads _ bounded (not_le.mp full)] at ran
    cases ran
  · obtain ⟨last, ran, takes⟩ := run_ok ui reads { seqRef, actions := [] } room
    refine ⟨last, ran, ?_⟩
    rw [takes.hostSeqs_eq]
    exact seqBytes_bounds positive room

/-- **How long the monitor thread lives.** From the counter that `gip_init` returns, a session
never raises and numbers all its packets in `1..=255` if and only if that counter and the number of
STATUS packets and volume reports add up to at most 256. -/
theorem monitorGip_survives_iff {Device Key : Type} (link : Link Device) (host : Host Key)
    (dev dev' : Device) (seqRef : Nat) (returned : gipInit link host dev = .ok (seqRef, dev'))
    (ui : Bool) (reads : List Read) :
    Survives ui seqRef reads ↔ seqRef + takenBy reads ≤ 256 := by
  have bounds := gipInit_bounds link host returned
  exact survives_iff ui (by omega) (by omega) reads

/-- A device that takes every packet and never answers. -/
def silentLink : Link Unit where
  write _ dev := (true, dev)
  gipRecv dev := (none, dev)
  drainBuffer _ dev := dev
  waitForGipAck _ dev := (false, dev)
  recvAuthPkt _ dev := .ok (none, dev)
  receiveIdentifyResponse _ dev := .ok (none, dev)

/-- A host without the cryptography library. -/
def plainHost : Host Unit where
  cryptoOk := false
  randomHost := List.replicate Auth.randomLen 0
  randomHostV2 := List.replicate Auth.randomLen 0
  pms := List.replicate Auth.pmsLen 0
  sha256 _ := List.replicate 32 0
  authPrf _ _ _ length := List.replicate length 0
  authExtractRsaPubkey _ := none
  authRsaEncrypt _ _ := .error .cryptoError
  authEcdhExchange _ := .error .cryptoError

theorem gipInit_plain : gipInit silentLink plainHost () = .ok (4, ()) := by
  decide +kernel

/-- A STATUS packet of the controller. -/
def heartbeat : List UInt8 := [0x03, 0x20, 0x01, 0x04, 0x80, 0x00, 0x00, 0x00]

theorem takenBy_heartbeats (count : Nat) :
    takenBy (List.replicate count (.data heartbeat)) = count := by
  rw [takenBy, List.map_replicate, List.sum_replicate]
  exact Nat.mul_one count

theorem monitorGip_survives_iff_heartbeats :
    Survives true 4 (List.replicate 252 (.data heartbeat)) ↔
      4 + takenBy (List.replicate 252 (.data heartbeat)) ≤ 256 :=
  monitorGip_survives_iff silentLink plainHost () () 4 gipInit_plain true _

/-- One heartbeat more ends the thread. -/
theorem not_monitorGip_survives :
    ¬ ∀ (link : Link Unit) (host : Host Unit) (dev dev' : Unit) (seqRef : Nat),
      gipInit link host dev = .ok (seqRef, dev') →
        ∀ ui reads, Survives ui seqRef reads := by
  intro all
  have survives := all silentLink plainHost () () 4 gipInit_plain true
    (List.replicate 253 (.data heartbeat))
  rw [survives_iff true (by decide) (by decide), takenBy_heartbeats] at survives
  exact absurd survives (by decide)

end Wolverine.Python
