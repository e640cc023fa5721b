/-
**The EP1 event loop of `usb.rs`.**

An iteration polls the pending rumble command, reads one packet and dispatches on its command. Its
effects are packets sent on EP1 and calls into the input devices, in order; `runEventLoop` lists
every iteration with its effects.

* `acks_dispatch` — what each arm of the dispatch acknowledges: only AUDIO_CONTROL does.
* `acknowledged_once` — over whole runs: every AUDIO_CONTROL packet with the ACK bit is answered by
  exactly one ACKNOWLEDGE that carries its sequence number and names its command; no other received
  packet is acknowledged.
-/

import Wolverine.Gip.RoundTrip

namespace Wolverine.Usb

open Wolverine.Rust Wolverine.Gip

/-! ### The loop -/

/-- What a read of EP1 returns. -/
inductive Ep1Read
  | data (raw : List UInt8)
  | timeout
  | disconnected
  deriving DecidableEq, Repr

/-- What the loop does: packets it sends, and calls into the input devices. -/
inductive Action
  | send (packet : List UInt8)
  | forwardGamepad (raw : List UInt8)
  | forwardGuide (pressed : Bool)
  | forwardMedia (raw : List UInt8)
  deriving DecidableEq, Repr

/-- What one iteration sees: the rumble request that `poll_rumble` returns, and the read. -/
structure Tick where
  rumble : Option (UInt8 × UInt8)
  read : Ep1Read
  deriving DecidableEq, Repr

/-- Send a pending rumble request to the controller. -/
def sendRumble (counter : SeqCounter) : Option (UInt8 × UInt8) → SeqCounter × List Action
  | none => (counter, [])
  | some (strong, weak) =>
    let s := counter.next
    let payload := [0x00, 0x0f, 0x00, 0x00, strong, weak, 0xff, 0x00, 0xff]
    (⟨s⟩, [.send (buildPacket Cmd.rumble 0x00 s payload)])

/-- The ACK of a received packet. -/
def ackPacket (cmd opts seq : UInt8) : List UInt8 :=
  buildPacket Cmd.acknowledge Opt.internal seq [0x00, cmd, opts, 0, 0, 0, 0, 0, 0]

/-- Dispatch a received packet. -/
def dispatch (counter : SeqCounter) (raw : List UInt8) : SeqCounter × List Action :=
  let cmd := raw.getD 0 0
  let opts := raw.getD 1 0
  let seq := raw.getD 2 0
  if cmd = Cmd.input then (counter, [.forwardGamepad raw])
  else if cmd = Cmd.virtualKey then
    -- Guide button: its own packet, data[4] bit 0 = pressed
    (counter, [.forwardGuide (raw.getD 4 0 &&& 0x01 ≠ 0)])
  else if cmd = Cmd.status then
    let s := counter.next
    let statusVal := raw.getD 4 0x80
    (⟨s⟩, [.send (buildPacket Cmd.status optsInternal s [statusVal, 0, 0, 0])])
  else if cmd = Cmd.audioControl then
    let sub := raw.getD 4 0xff
    let (counter, volume) :=
      if sub = audioCtrlVolumeChat ∧ 9 ≤ raw.length then
        let state := raw.getD 5 0
        -- max HW volumes: the PipeWire slider does the attenuation
        let s := counter.next
        let payload := [audioCtrlVolumeChat, state, 0x64, 0x64, 0x64]
        (⟨s⟩, [Action.forwardMedia raw,
          .send (buildPacket Cmd.audioControl optsInternal s payload)])
      else (counter, [])
    (counter, volume ++ if opts &&& Opt.ack ≠ 0 then [.send (ackPacket cmd opts seq)] else [])
  else (counter, [])

/-- The loop: every iteration with its effects. A tick list that ends is the stop signal. -/
def runEventLoop : SeqCounter → List Tick → List (Tick × List Action)
  | _, [] => []
  | counter, tick :: rest =>
    let (counter, rumble) := sendRumble counter tick.rumble
    match tick.read with
    | .disconnected => [(tick, rumble)]
    | .timeout => (tick, rumble) :: runEventLoop counter rest
    | .data raw =>
      if raw = [] then (tick, rumble) :: runEventLoop counter rest
      else
        let (counter, effects) := dispatch counter raw
        (tick, rumble ++ effects) :: runEventLoop counter rest

/-! ### Acknowledgements -/

/-- The ACKNOWLEDGE packet that an effect sends, if it sends one. -/
def ackOf : Action → Option (List UInt8)
  | .send packet => if packet.getD 0 0 = Cmd.acknowledge then some packet else none
  | _ => none

/-- The ACKNOWLEDGE packets among the effects of an iteration. -/
def acks (effects : List Action) : List (List UInt8) := effects.filterMap ackOf

/-- A received packet has the ACK bit. -/
def wantsAck (raw : List UInt8) : Prop := raw.getD 1 0 &&& Opt.ack ≠ 0

instance (raw : List UInt8) : Decidable (wantsAck raw) := inferInstanceAs (Decidable (_ ≠ _))

/-- The packets the loop acknowledges. -/
def Acknowledged (raw : List UInt8) : Prop := raw.getD 0 0 = Cmd.audioControl ∧ wantsAck raw

instance (raw : List UInt8) : Decidable (Acknowledged raw) := inferInstanceAs (Decidable (_ ∧ _))

theorem acks_append (first second : List Action) :
    acks (first ++ second) = acks first ++ acks second := List.filterMap_append

/-- A packet of another command is not an acknowledgement. -/
theorem acks_other {cmd : UInt8} (other : cmd ≠ Cmd.acknowledge) (options seq : UInt8)
    (payload : List UInt8) : acks [.send (buildPacket cmd options seq payload)] = [] :=
  List.filterMap_cons_none (if_neg other)

theorem acks_sendRumble (counter : SeqCounter) (rumble : Option (UInt8 × UInt8)) :
    acks (sendRumble counter rumble).2 = [] := by
  cases rumble with
  | none => rfl
  | some motors => exact acks_other (by decide) 0x00 _ _

/-- **What the dispatch acknowledges**: AUDIO_CONTROL packets with the ACK bit, once each. -/
theorem acks_dispatch (counter : SeqCounter) (raw : List UInt8) :
    acks (dispatch counter raw).2 =
      if Acknowledged raw then [ackPacket (raw.getD 0 0) (raw.getD 1 0) (raw.getD 2 0)]
      else [] := by
  by_cases audio : raw.getD 0 0 = Cmd.audioControl
  · have volume : ∀ played : SeqCounter × List Action, acks played.2 = [] →
        acks (played.2 ++ if raw.getD 1 0 &&& Opt.ack ≠ 0 then
          [.send (ackPacket (raw.getD 0 0) (raw.getD 1 0) (raw.getD 2 0))] else []) =
        if Acknowledged raw then [ackPacket (raw.getD 0 0) (raw.getD 1 0) (raw.getD 2 0)]
          else [] := by
      intro played silent
      rw [acks_append, silent, List.nil_append]
      by_cases wanted : wantsAck raw
      · rw [if_pos (show raw.getD 1 0 &&& Opt.ack ≠ 0 from wanted), if_pos ⟨audio, wanted⟩]
        rfl
      · rw [if_neg (show ¬ raw.getD 1 0 &&& Opt.ack ≠ 0 from wanted),
          if_neg fun both => wanted both.2]
        rfl
    rw [dispatch, if_neg (by rw [audio]; decide), if_neg (by rw [audio]; decide),
      if_neg (by rw [audio]; decide), if_pos audio]
    refine volume _ ?_
    split
    · exact (List.filterMap_cons_none rfl).trans
        (@acks_other Cmd.audioControl (by decide) optsInternal _ _)
    · rfl
  · rw [if_neg fun both => audio both.1, dispatch]
    split
    · rfl
    split
    · rfl
    split
    · exact acks_other (by decide) optsInternal _ _
    · rfl

/-- An ACK decodes to the received sequence number and names the received command. -/
theorem decode_ackPacket (profile : Profile) (cmd opts seq : UInt8) :
    ∃ hdrLen, decode profile (ackPacket cmd opts seq) = .ok (some
      { cmd := Cmd.acknowledge, options := Opt.internal, seq, hdrLen, pktLen := 9, chunkOffset := 0
        payload := [0x00, cmd, opts, 0, 0, 0, 0, 0, 0] }) := by
  have built := @decode_built profile Cmd.acknowledge Opt.internal seq (by decide)
    [0x00, cmd, opts, 0, 0, 0, 0, 0, 0] (show (9 : Nat) < u32Size by decide) []
  rw [List.append_nil] at built
  exact ⟨_, built⟩

/-- Every iteration of a run acknowledges what it has read. -/
theorem acks_run (ticks : List Tick) : ∀ counter, ∀ entry ∈ runEventLoop counter ticks,
    ∀ raw, entry.1.read = .data raw → raw ≠ [] →
      acks entry.2 =
        if Acknowledged raw then [ackPacket (raw.getD 0 0) (raw.getD 1 0) (raw.getD 2 0)]
        else [] := by
  induction ticks with
  | nil => nofun
  | cons tick rest ih =>
    intro counter entry member raw read nonempty
    rw [runEventLoop] at member
    cases reading : tick.read with
    | timeout =>
      rw [reading] at member
      rcases List.mem_cons.mp member with rfl | later
      · cases reading.symm.trans read
      · exact ih _ entry later raw read nonempty
    | disconnected =>
      rw [reading] at member
      rw [List.mem_singleton.mp member] at read
      cases reading.symm.trans read
    | data got =>
      rw [reading] at member
      simp only at member
      split at member
      · rename_i empty
        rcases List.mem_cons.mp member with rfl | later
        · cases reading.symm.trans read
          exact absurd empty nonempty
        · exact ih _ entry later raw read nonempty
      · rcases List.mem_cons.mp member with rfl | later
        · cases reading.symm.trans read
          rw [acks_append, acks_sendRumble, List.nil_append]
          exact acks_dispatch _ raw
        · exact ih _ entry later raw read nonempty

/-- **The ACK protocol of the event loop.** In every run, a received AUDIO_CONTROL packet with the
ACK bit is answered by exactly one ACKNOWLEDGE packet, which carries its sequence number and names
its command; any other received packet is answered by none. -/
theorem acknowledged_once (counter : SeqCounter) (ticks : List Tick) (tick : Tick)
    (effects : List Action) (raw : List UInt8)
    (iteration : (tick, effects) ∈ runEventLoop counter ticks)
    (received : tick.read = .data raw) (long : 3 ≤ raw.length) :
    (Acknowledged raw → ∃ ack, acks effects = [ack] ∧ ∀ profile, ∃ packet,
      decode profile ack = .ok (some packet) ∧ packet.cmd = Cmd.acknowledge ∧
        raw[2]? = some packet.seq ∧ packet.payload[1]? = raw[0]?) ∧
    (¬ Acknowledged raw → acks effects = []) := by
  have nonempty : raw ≠ [] := by
    rintro rfl
    exact absurd long (by decide)
  have answered := acks_run ticks counter (tick, effects) iteration raw received nonempty
  refine ⟨fun acknowledged => ?_, fun other => ?_⟩
  · rw [if_pos acknowledged] at answered
    refine ⟨_, answered, fun profile => ?_⟩
    obtain ⟨hdrLen, decoded⟩ :=
      decode_ackPacket profile (raw.getD 0 0) (raw.getD 1 0) (raw.getD 2 0)
    refine ⟨_, decoded, rfl, ?_, ?_⟩
    · match raw, long with
      | _ :: _ :: _ :: _, _ => rfl
    · match raw, long with
      | _ :: _, _ => rfl
  · rw [if_neg other] at answered
    exact answered

/-- A VOLUME_CHAT report with the ACK bit, too short for a volume reply. -/
theorem acknowledged_once_audio :
    let raw : List UInt8 := [0x08, 0x31, 0x05, 0x01, 0x00]
    let effects := (dispatch SeqCounter.default raw).2
    (Acknowledged raw → ∃ ack, acks effects = [ack] ∧ ∀ profile, ∃ packet,
      decode profile ack = .ok (some packet) ∧ packet.cmd = Cmd.acknowledge ∧
        raw[2]? = some packet.seq ∧ packet.payload[1]? = raw[0]?) ∧
    (¬ Acknowledged raw → acks effects = []) :=
  acknowledged_once SeqCounter.default [⟨none, .data [0x08, 0x31, 0x05, 0x01, 0x00]⟩]
    ⟨none, .data [0x08, 0x31, 0x05, 0x01, 0x00]⟩
    (dispatch SeqCounter.default [0x08, 0x31, 0x05, 0x01, 0x00]).2 [0x08, 0x31, 0x05, 0x01, 0x00]
    List.mem_cons_self rfl (by decide)

/-- The commands that have an arm in the dispatch. -/
def dispatched : List UInt8 := [Cmd.input, Cmd.virtualKey, Cmd.status, Cmd.audioControl]

/-- A STATUS packet with the ACK bit is not acknowledged. -/
theorem not_acknowledged_status :
    ¬ ∀ counter ticks tick effects raw, (tick, effects) ∈ runEventLoop counter ticks →
      tick.read = .data raw → 3 ≤ raw.length → raw.getD 0 0 ∈ dispatched → wantsAck raw →
        ∃ ack, acks effects = [ack] := by
  intro all
  have status := all SeqCounter.default [⟨none, .data [0x03, 0x31, 0x05, 0x01, 0x80]⟩]
    ⟨none, .data [0x03, 0x31, 0x05, 0x01, 0x80]⟩
    (dispatch SeqCounter.default [0x03, 0x31, 0x05, 0x01, 0x80]).2 [0x03, 0x31, 0x05, 0x01, 0x80]
    List.mem_cons_self rfl (by decide) (by decide) (by decide)
  rw [acks_dispatch, if_neg (by decide)] at status
  obtain ⟨ack, none⟩ := status
  cases none

end Wolverine.Usb
