/-
**A session of the port against a session of the driver.**

`bring_up_audio` and `run_event_loop` against `gip_init` and `monitor_gip`, on the same reads of
EP1. The driver's host has no cryptography library, so both skip the authentication; transfers
succeed, nothing rumbles, and the IDENTIFY response is one that both receivers take alike. The
driver's counter is one ahead of the port's, and it does not wrap.

* `buildBytes_buildPacket` — the builders agree on bytes.
* `gipInit_written` — the packets of the driver's bring-up are those of the port.
* `handlePacket_agrees` — one received packet: the same answers, and the same calls into the input
  devices, but that only the port has a Guide button.
* `sessions_agree_iff` — whole sessions: the driver does what the port does exactly as long as its
  numbers fit in a byte.
-/

import Wolverine.Python.Dialogue
import Wolverine.Python.IdentifyPort

namespace Wolverine.Python

open Wolverine.Machine Wolverine.Rust Wolverine.Gip
open Wolverine.Usb (Ep1Read Tick SessionEnd Logged dispatch runEventLoop)

/-! ### The packets -/

/-- **The builders agree on bytes.** -/
theorem buildBytes_buildPacket {cmd options seq : Nat} (cmdByte : cmd < 256)
    (optionsByte : options < 256) (seqByte : seq < 256) {values : List Nat}
    (small : ∀ value ∈ values, value < 256) (short : values.length < u32Size) :
    buildBytes cmd options seq values = .ok (Gip.buildPacket (UInt8.ofNat cmd)
      (UInt8.ofNat options) (UInt8.ofNat seq) (values.map UInt8.ofNat)) := by
  rw [buildBytes_of_lt cmdByte optionsByte seqByte small, Gip.buildPacket, buildHeader_eq,
    List.length_map, Nat.mod_eq_of_lt short]

/-- The driver's next number, and the port's counter before it. -/
def Ahead (seqRef : Nat) (counter : SeqCounter) : Prop := seqRef = counter.value.toNat + 1

namespace Ahead

variable {seqRef : Nat} {counter : SeqCounter}

/-- While it is a byte, the number is the one that the port takes. -/
theorem next_eq (ahead : Ahead seqRef counter) (byte : seqRef < 256) :
    UInt8.ofNat seqRef = counter.next := by
  apply UInt8.toNat_inj.mp
  rw [SeqCounter.toNat_next, UInt8.toNat_ofNat', Nat.mod_eq_of_lt byte,
    Nat.mod_eq_of_lt (by unfold Ahead at ahead; omega)]
  exact ahead

theorem succ (ahead : Ahead seqRef counter) (byte : seqRef < 256) :
    Ahead (seqRef + 1) ⟨counter.next⟩ := by
  rw [← ahead.next_eq byte, Ahead, UInt8.toNat_ofNat', Nat.mod_eq_of_lt byte]

end Ahead

/-! ### The bring-up -/

/-- What one wait of the driver shows to the port. -/
def firstRead : List DevRead → Ep1Read
  | .data raw :: _ => .data raw
  | _ => .timeout

/-- The bring-up of the port on the same reads. -/
def portDialogue (identify format power : List DevRead) : Usb.Dialogue where
  identifySent := .sent
  identify := identify.map DevRead.tick
  formatSent := .sent
  formatRead := firstRead format
  powerSent := .sent
  powerRead := firstRead power
  altFault := none

section BringUp

theorem pktIdentify_one : pktIdentify 1 = .ok Usb.identifyPacket.packet :=
  (buildBytes_buildPacket (by decide) (by decide) (by decide) (by decide) (by decide) :
    buildBytes gipCmdIdentify (gipClientId ||| gipOptInternal) 1 [] = _)

theorem pktAudioFormat_two : pktAudioFormat 2 = .ok Usb.formatPacket.packet :=
  buildBytes_buildPacket (by decide) (by decide) (by decide) (by decide) (by decide)

theorem pktPower_three : pktPower 3 gipPwrOn = .ok Usb.powerPacket.packet :=
  buildBytes_buildPacket (by decide) (by decide) (by decide) (by decide) (by decide)

variable [Memory]

/-- A wait for one packet takes a window, and writes nothing. -/
theorem gipRecv_window (written : List (List UInt8)) (window : List DevRead)
    (waits : List (List DevRead)) (seqRef : Nat) :
    ∃ raw, gipRecv dialogueLink ⟨⟨written, window :: waits⟩, seqRef⟩ =
      .ok (raw, ⟨⟨written, waits⟩, seqRef⟩) := by
  rcases window with _ | ⟨read, rest⟩
  · exact ⟨none, rfl⟩
  · cases read with
    | data raw => exact ⟨some raw, rfl⟩
    | timeout => exact ⟨none, rfl⟩
    | usbError => exact ⟨none, rfl⟩

variable {Key : Type}

/-- **The bring-up of the driver**, without a cryptography library: IDENTIFY, AUDIO FORMAT, POWER
ON, and 4 is the next number. -/
theorem gipInit_written (host : Host Key) (plain : host.cryptoOk = false)
    (drained identify format power : List DevRead) {identity : Option (List UInt8)}
    (identified : receiveIdentifyFrom identify = .ok (identity, [])) :
    ∃ dev, gipInit dialogueLink host ⟨[], [drained, identify, format, power]⟩ = .ok (4, dev) ∧
      dev.written =
        [Usb.identifyPacket.packet, Usb.formatPacket.packet, Usb.powerPacket.packet] := by
  have drain : drainBuffer dialogueLink 300 ⟨⟨[], [drained, identify, format, power]⟩, 1⟩ =
      .ok ((), ⟨⟨[], [identify, format, power]⟩, 1⟩) := rfl
  have sentIdentify : sendCounted (gipSendBuilt dialogueLink pktIdentify)
      ⟨⟨[], [identify, format, power]⟩, 1⟩ =
      .ok ((), ⟨⟨[Usb.identifyPacket.packet], [identify, format, power]⟩, 2⟩) :=
    gipSendBuilt_ok pktIdentify_one
  have response : receiveIdentifyResponse dialogueLink 2
      ⟨⟨[Usb.identifyPacket.packet], [identify, format, power]⟩, 2⟩ =
      .ok (identity, ⟨⟨[Usb.identifyPacket.packet], [format, power]⟩, 2⟩) := by
    show onDev (dialogueLink.receiveIdentifyResponse 2) _ = _
    simp only [onDev, dialogueLink, List.headD_cons, identified, bind, Except.bind]
    rfl
  have shaken : gipAuthHandshake dialogueLink host
      ⟨⟨[Usb.identifyPacket.packet], [format, power]⟩, 2⟩ =
      .ok (false, ⟨⟨[Usb.identifyPacket.packet], [format, power]⟩, 2⟩) := by
    rw [gipAuthHandshake, if_pos plain]
    rfl
  have sentFormat : sendCounted (gipSendBuilt dialogueLink pktAudioFormat)
      ⟨⟨[Usb.identifyPacket.packet], [format, power]⟩, 2⟩ =
      .ok ((), ⟨⟨[Usb.identifyPacket.packet, Usb.formatPacket.packet], [format, power]⟩, 3⟩) :=
    gipSendBuilt_ok pktAudioFormat_two
  obtain ⟨formatRaw, heardFormat⟩ :=
    gipRecv_window [Usb.identifyPacket.packet, Usb.formatPacket.packet] format [power] 3
  have sentPower : sendCounted (gipSendBuilt dialogueLink (pktPower · gipPwrOn))
      ⟨⟨[Usb.identifyPacket.packet, Usb.formatPacket.packet], [power]⟩, 3⟩ =
      .ok ((), ⟨⟨[Usb.identifyPacket.packet, Usb.formatPacket.packet, Usb.powerPacket.packet],
        [power]⟩, 4⟩) :=
    gipSendBuilt_ok pktPower_three
  obtain ⟨powerRaw, heardPower⟩ := gipRecv_window
    [Usb.identifyPacket.packet, Usb.formatPacket.packet, Usb.powerPacket.packet] power [] 4
  have steps : gipInitSteps dialogueLink host ⟨⟨[], [drained, identify, format, power]⟩, 1⟩ =
      .ok ((), ⟨⟨[Usb.identifyPacket.packet, Usb.formatPacket.packet, Usb.powerPacket.packet],
        []⟩, 4⟩) := by
    refine (run_bind drain).trans ?_
    refine (run_bind sentIdentify).trans ?_
    refine (run_bind (show (get : Py Script (Session Script)) _ = .ok (_, _) from rfl)).trans ?_
    refine (run_bind response).trans ?_
    refine (run_bind shaken).trans ?_
    refine (run_bind sentFormat).trans ?_
    refine (run_bind heardFormat).trans ?_
    refine (run_bind sentPower).trans ?_
    exact run_bind heardPower
  exact ⟨_, by rw [gipInit, steps], rfl⟩

end BringUp

/-! ### One received packet -/

/-- What the driver does where the port acts: it has no Guide button. -/
def driverAction : Usb.Action → Option Action
  | .send packet => some (.write packet)
  | .forwardGamepad raw => some (.parseAndForwardGamepad raw)
  | .forwardGuide _ => none
  | .forwardMedia raw => some (.forwardMedia raw)

/-- The read of the port; a stall or a fault is a timeout. -/
def Read.tick : Read → Tick
  | .data raw => { rumble := none, read := .data raw }
  | .timeout => { rumble := none, read := .timeout }
  | .usbError => { rumble := none, read := .timeout }

/-- The driver has done what the port has, and is still one number ahead. -/
structure Answers (monitor : Monitor) (result : Except PyError Monitor)
    (expected : SeqCounter × List Usb.Action) : Prop where
  answer : ∃ next, result = .ok next ∧ Ahead next.seqRef expected.1 ∧
    next.actions = monitor.actions ++ expected.2.filterMap driverAction

section Packets

variable {monitor : Monitor} {counter : SeqCounter}

/-- A call into an input device, or no action at all. -/
theorem Answers.act (ahead : Ahead monitor.seqRef counter) {action : Usb.Action} {done : Action}
    (same : driverAction action = some done) :
    Answers monitor (.ok (monitor.act done)) (counter, [action]) :=
  ⟨_, rfl, ahead, by rw [List.filterMap_cons_some same]; rfl⟩

theorem Answers.idle (ahead : Ahead monitor.seqRef counter) {actions : List Usb.Action}
    (none : actions.filterMap driverAction = []) :
    Answers monitor (.ok monitor) (counter, actions) :=
  ⟨monitor, rfl, ahead, by rw [none, List.append_nil]⟩

/-- A packet under the next number. -/
theorem Answers.counted (ahead : Ahead monitor.seqRef counter) (byte : monitor.seqRef < 256)
    {build : Nat → Except PyError (List UInt8)} (packet : UInt8 → List UInt8)
    (built : ∀ seq, seq < 256 → build seq = .ok (packet (UInt8.ofNat seq))) :
    Answers monitor (writeCounted monitor build)
      (⟨counter.next⟩, [.send (packet counter.next)]) := by
  refine ⟨_, bind_of_ok (built _ byte) _, ahead.succ byte, ?_⟩
  rw [ahead.next_eq byte]
  rfl

/-- One part of the answer after the other. -/
theorem Answers.andThen {result : Except PyError Monitor}
    {expected : SeqCounter × List Usb.Action} (first : Answers monitor result expected)
    {rest : Monitor → Except PyError Monitor} {last : SeqCounter} {actions : List Usb.Action}
    (second : ∀ next, Ahead next.seqRef expected.1 → Answers next (rest next) (last, actions)) :
    Answers monitor (result >>= rest) (last, expected.2 ++ actions) := by
  obtain ⟨next, returned, ahead, done⟩ := first
  obtain ⟨after, ended, still, later⟩ := second next ahead
  refine ⟨after, (bind_of_ok returned _).trans ended, still, ?_⟩
  rw [later, done, List.filterMap_append, List.append_assoc]

/-- The ACK bit, as the driver tests it. -/
theorem and_gipOptAck_ne_zero (opts : UInt8) :
    opts.toNat &&& gipOptAck ≠ 0 ↔ opts &&& Opt.ack ≠ 0 := by
  have masked : (opts &&& Opt.ack).toNat = opts.toNat &&& gipOptAck := UInt8.toNat_and _ _
  rw [Ne, Ne, ← UInt8.toNat_inj, masked]
  rfl

/-- An ACK is built from received bytes. -/
theorem pktAck_ackPacket (cmd opts seq : UInt8) :
    pktAck cmd.toNat opts.toNat seq.toNat = .ok (Usb.ackPacket cmd opts seq) := by
  have small : ∀ value ∈ [0x00, cmd.toNat, opts.toNat, 0x00, 0x00, 0x00, 0x00, 0x00, 0x00],
      value < 256 := by simp [cmd.toNat_lt, opts.toNat_lt]
  have built := buildBytes_buildPacket (show gipCmdAcknowledge < 256 by decide)
    (show gipOptInternal < 256 by decide) seq.toNat_lt small
    (show (9 : Nat) < u32Size by decide)
  simp only [UInt8.ofNat_toNat, List.map_cons, List.map_nil] at built
  exact built

/-- The ACK. -/
theorem answerAck_agrees (ahead : Ahead monitor.seqRef counter) (raw : List UInt8) :
    Answers monitor (answerAck monitor raw) (counter, if raw.getD 1 0 &&& Opt.ack ≠ 0 then
      [.send (Usb.ackPacket (raw.getD 0 0) (raw.getD 1 0) (raw.getD 2 0))] else []) := by
  unfold answerAck
  simp only [and_gipOptAck_ne_zero]
  by_cases wanted : raw.getD 1 0 &&& Opt.ack ≠ 0
  · rw [if_pos wanted, if_pos wanted, pktAck_ackPacket]
    exact Answers.act ahead rfl
  · rw [if_neg wanted, if_neg wanted]
    exact Answers.idle ahead rfl

/-- The volume reply. -/
theorem pktAudioVolumeChat_eq (state : UInt8) (seq : Nat) (byte : seq < 256) :
    pktAudioVolumeChat seq state.toNat 0x64 0x64 0x64 =
      .ok (Gip.buildPacket Cmd.audioControl optsInternal (UInt8.ofNat seq)
        [audioCtrlVolumeChat, state, 0x64, 0x64, 0x64]) := by
  have small : ∀ value ∈ [gipAudCtrlVolumeChat, state.toNat, 0x64, 0x64, 0x64],
      value < 256 := by simp [state.toNat_lt, gipAudCtrlVolumeChat]
  have built := buildBytes_buildPacket (show gipCmdAudioControl < 256 by decide)
    (show gipOptInternal ||| audClient < 256 by decide) byte small
    (show (5 : Nat) < u32Size by decide)
  simp only [UInt8.ofNat_toNat, List.map_cons, List.map_nil] at built
  exact built

/-- The heartbeat. -/
theorem pktStatus_eq (status : UInt8) (seq : Nat) (byte : seq < 256) :
    pktStatus seq status.toNat =
      .ok (Gip.buildPacket Cmd.status optsInternal (UInt8.ofNat seq) [status, 0, 0, 0]) := by
  have small : ∀ value ∈ [status.toNat, 0x00, 0x00, 0x00], value < 256 := by
    simp [status.toNat_lt]
  have built := buildBytes_buildPacket (show gipCmdStatus < 256 by decide)
    (show gipClientId ||| gipOptInternal < 256 by decide) byte small
    (show (4 : Nat) < u32Size by decide)
  simp only [UInt8.ofNat_toNat, List.map_cons, List.map_nil] at built
  exact built

/-- The answer to a volume report. -/
theorem answerVolume_agrees (ahead : Ahead monitor.seqRef counter) (raw : List UInt8)
    (room : raw.getD 4 0xff = 0x00 ∧ 9 ≤ raw.length → monitor.seqRef < 256) :
    Answers monitor (answerVolume monitor raw) (Usb.volumeReply counter raw) := by
  unfold answerVolume Usb.volumeReply
  by_cases report : raw.getD 4 0xff = 0x00 ∧ 9 ≤ raw.length
  · rw [if_pos report, if_pos (show raw.getD 4 0xff = audioCtrlVolumeChat ∧ _ from report)]
    have forwarded : Answers monitor (.ok (monitor.act (.forwardMedia raw)))
        (counter, [.forwardMedia raw]) := Answers.act ahead rfl
    have replied : ∀ next, Ahead next.seqRef counter → Answers next
        (writeCounted next (pktAudioVolumeChat · (raw.getD 5 0).toNat 0x64 0x64 0x64))
        (⟨counter.next⟩, [.send (Gip.buildPacket Cmd.audioControl optsInternal counter.next
          [audioCtrlVolumeChat, raw.getD 5 0, 0x64, 0x64, 0x64])]) := by
      intro next again
      have byte : next.seqRef < 256 := by
        rw [show next.seqRef = monitor.seqRef from again.trans ahead.symm]
        exact room report
      exact Answers.counted again byte (Gip.buildPacket Cmd.audioControl optsInternal ·
        [audioCtrlVolumeChat, raw.getD 5 0, 0x64, 0x64, 0x64])
        (pktAudioVolumeChat_eq (raw.getD 5 0))
    exact forwarded.andThen replied
  · rw [if_neg report, if_neg (show ¬ (raw.getD 4 0xff = audioCtrlVolumeChat ∧ _) from report)]
    exact Answers.idle ahead rfl

/-- **One received packet** is answered alike. -/
theorem handlePacket_agrees (ahead : Ahead monitor.seqRef counter) (raw : List UInt8)
    (room : TakesNumber raw → monitor.seqRef < 256) :
    Answers monitor (handlePacket true monitor raw) (dispatch counter raw) := by
  have cmd : ∀ command : UInt8, (raw.getD 0 0).toNat = command.toNat ↔ raw.getD 0 0 = command :=
    fun _ => UInt8.toNat_inj
  by_cases input : raw.getD 0 0 = Cmd.input
  · have report : (raw.getD 0 0).toNat = gipCmdInput := (cmd Cmd.input).mpr input
    rw [handlePacket, if_pos report, dispatch, if_pos input]
    exact Answers.act ahead rfl
  have noInput : ¬ (raw.getD 0 0).toNat = gipCmdInput := fun same => input ((cmd Cmd.input).mp same)
  by_cases status : raw.getD 0 0 = Cmd.status
  · have heartbeat : (raw.getD 0 0).toNat = gipCmdStatus := (cmd Cmd.status).mpr status
    rw [handlePacket, if_neg noInput, if_pos heartbeat, dispatch, if_neg input,
      if_neg (by rw [status]; decide), if_pos status]
    exact Answers.counted ahead (room (.inl heartbeat))
      (Gip.buildPacket Cmd.status optsInternal · [raw.getD 4 0x80, 0, 0, 0])
      (pktStatus_eq (raw.getD 4 0x80))
  have noStatus : ¬ (raw.getD 0 0).toNat = gipCmdStatus :=
    fun same => status ((cmd Cmd.status).mp same)
  by_cases audio : raw.getD 0 0 = Cmd.audioControl
  · have control : (raw.getD 0 0).toNat = gipCmdAudioControl := (cmd Cmd.audioControl).mpr audio
    rw [handlePacket, if_neg noInput, if_neg noStatus, if_pos control,
      Usb.dispatch_audioControl counter audio]
    exact (answerVolume_agrees ahead raw fun report => room (.inr ⟨control, report⟩)).andThen
      fun next again => answerAck_agrees again raw
  · have noAudio : ¬ (raw.getD 0 0).toNat = gipCmdAudioControl :=
      fun same => audio ((cmd Cmd.audioControl).mp same)
    rw [handlePacket, if_neg noInput, if_neg noStatus, if_neg noAudio, dispatch, if_neg input]
    -- the Guide button and the rest: the driver only prints
    by_cases guide : raw.getD 0 0 = Cmd.virtualKey
    · rw [if_pos guide]
      exact Answers.idle ahead rfl
    · rw [if_neg guide, if_neg status, if_neg audio]
      exact Answers.idle ahead rfl

end Packets

/-! ### Whole sessions -/

/-- **A run with room for all its numbers** does what the event loop of the port does. -/
theorem run_agrees (reads : List Read) : ∀ (monitor : Monitor) (counter : SeqCounter),
    Ahead monitor.seqRef counter → monitor.seqRef + takenBy reads ≤ 256 →
    ∃ last, run (monitorStep true) monitor reads = .ok last ∧
      last.actions = monitor.actions ++
        ((runEventLoop counter (reads.map Read.tick)).flatMap Prod.snd).filterMap driverAction := by
  induction reads with
  | nil => exact fun monitor counter _ _ => ⟨monitor, rfl, (List.append_nil _).symm⟩
  | cons read rest ih =>
    intro monitor counter ahead room
    rw [takenBy_cons] at room
    have skipped : taken read = 0 → ∃ last, run (monitorStep true) monitor rest = .ok last ∧
        last.actions = monitor.actions ++ (((Read.tick read, []) ::
          runEventLoop counter (rest.map Read.tick)).flatMap Prod.snd).filterMap driverAction :=
      fun none => ih monitor counter ahead (by omega)
    rw [List.map_cons]
    cases read with
    | timeout => exact skipped rfl
    | usbError => exact skipped rfl
    | data raw =>
      by_cases empty : raw = []
      · subst empty
        exact skipped rfl
      · have roomy : TakesNumber raw → monitor.seqRef < 256 := by
          intro takes
          rw [taken, if_pos takes] at room
          omega
        obtain ⟨next, handled, after, actions⟩ := handlePacket_agrees ahead raw roomy
        have stepped : monitorStep true monitor (.data raw) = .ok next := by
          rw [monitorStep, if_neg empty, handled]
        have numbers : next.seqRef = monitor.seqRef + taken (.data raw) := by
          obtain ⟨other, same, takes⟩ :=
            monitorStep_ok true (show monitor.seqRef + taken (.data raw) ≤ 256 by omega)
          cases same.symm.trans stepped
          exact takes.seqRef_eq
        obtain ⟨last, ran, done⟩ := ih next _ after (by omega)
        refine ⟨last, (run_cons stepped _).trans ran, ?_⟩
        have looped : runEventLoop counter ((Read.data raw).tick :: rest.map Read.tick) =
            ((Read.data raw).tick, (dispatch counter raw).2) ::
              runEventLoop (dispatch counter raw).1 (rest.map Read.tick) := by
          rw [runEventLoop]
          exact if_neg empty
        rw [looped, List.flatMap_cons, List.filterMap_append, done, actions, List.append_assoc]

/-- The packet that an action writes. -/
def writtenBy : Action → Option (List UInt8)
  | .write packet => some packet
  | _ => none

/-- The packets that the port sends are those that the driver writes. -/
theorem sends_written (effects : List Usb.Effect) :
    ((effects.map Usb.Effect.action).filterMap driverAction).filterMap writtenBy =
      (Usb.sends effects).map Usb.Sent.packet := by
  rw [Usb.sends, List.filterMap_filterMap, List.filterMap_map, List.map_filterMap]
  congr 1
  funext effect
  cases effect <;> rfl

/-- The actions of a trace, in order. -/
theorem flatMap_actions (trace : List (Tick × List Usb.Effect)) :
    (trace.map fun entry => (entry.1, entry.2.map Usb.Effect.action)).flatMap Prod.snd =
      (Usb.effectsOf trace).map Usb.Effect.action := by
  rw [List.flatMap_map, Usb.effectsOf, List.map_flatMap]

section Sessions

variable [Memory]

/-- The bring-up of the port succeeds on these reads. -/
theorem portDialogue_succeeds {profile : Profile} {identify format power : List DevRead}
    (alike : ∀ read ∈ identify, Alike read) (formatLogged : Logged profile (firstRead format))
    (powerLogged : Logged profile (firstRead power)) :
    (portDialogue identify format power).Succeeds profile := by
  obtain ⟨response, received, -, -⟩ := identify_answer profile identify alike
  constructor
  case identifySent => rfl
  case identify => exact fun panic raised => by cases received.symm.trans raised
  case formatSent => rfl
  case formatRead => exact formatLogged
  case powerSent => rfl
  case powerRead => exact powerLogged
  case altFault => rfl

/-- **Sessions of the driver and of the port.** On the same reads, with an IDENTIFY response that
both receivers take alike and frames that the port can log, both come up, and the port's event loop
runs to its end. The monitor thread of the driver makes the same calls, but for the Guide button,
and the two have written the same packets, byte for byte, exactly when the reads take at most 252
numbers; with more, its counter does not fit in a byte and the thread dies. -/
theorem sessions_agree_iff {Key : Type} (profile : Profile) (host : Host Key)
    (plain : host.cryptoOk = false) (drained identify format power : List DevRead)
    (alike : ∀ read ∈ identify, Alike read) (formatLogged : Logged profile (firstRead format))
    (powerLogged : Logged profile (firstRead power)) (ui : Input.Uinput) (reads : List Read) :
    let ported :=
      Usb.session profile (portDialogue identify format power) ui (reads.map Read.tick)
    ∃ seqRef dev trace,
      gipInit dialogueLink host ⟨[], [drained, identify, format, power]⟩ = .ok (seqRef, dev) ∧
      ported.ended = .stopped trace ∧
      ((∃ last, run (monitorStep true) { seqRef, actions := [] } reads = .ok last ∧
          last.actions = ((Usb.effectsOf trace).map Usb.Effect.action).filterMap driverAction ∧
          dev.written ++ last.actions.filterMap writtenBy =
            ported.submitted.map Usb.Sent.packet) ↔
        takenBy reads ≤ 252) ∧
      (252 < takenBy reads →
        run (monitorStep true) { seqRef, actions := [] } reads = .error .valueError) := by
  intro ported
  obtain ⟨response, -, received, silent⟩ := identify_answer profile identify alike
  obtain ⟨dev, initialised, written⟩ := gipInit_written host plain drained identify format power
    received
  have succeeds := portDialogue_succeeds alike formatLogged powerLogged
  obtain ⟨-, trace, last, same, -, actions⟩ | ⟨fails, -⟩ :=
    Usb.session_cases profile (portDialogue identify format power) ui (reads.map Read.tick)
  swap
  · exact absurd succeeds fails
  have dies : 252 < takenBy reads →
      run (monitorStep true) { seqRef := 4, actions := [] } reads = .error .valueError :=
    fun full => run_error true reads { seqRef := 4, actions := [] } (by decide)
      (show 256 < 4 + takenBy reads by omega)
  refine ⟨4, dev, trace, initialised, congrArg Usb.Session.ended same, ⟨?_, fun room => ?_⟩, dies⟩
  · rintro ⟨ended, ran, -⟩
    by_contra full
    cases (dies (not_le.mp full)).symm.trans ran
  · have ahead : Ahead 4 ⟨3⟩ := rfl
    obtain ⟨ended, ran, done⟩ := run_agrees reads { seqRef := 4, actions := [] } ⟨3⟩ ahead
      (show 4 + takenBy reads ≤ 256 by omega)
    rw [← actions, flatMap_actions, List.nil_append] at done
    refine ⟨ended, ran, done, ?_⟩
    have handshake : (Usb.Device.poweredOn (Usb.chunkAcks profile
        (portDialogue identify format power).identify)).submitted =
        [Usb.identifyPacket, Usb.formatPacket, Usb.powerPacket] := by
      rw [show Usb.chunkAcks profile (portDialogue identify format power).identify = [] from silent]
      rfl
    rw [show ported.submitted = _ from congrArg Usb.Session.submitted same, List.map_append,
      handshake, done, sends_written, written]
    rfl

end Sessions

/-- A silent device that then sends a heartbeat; without a cryptography library. -/
theorem sessions_agree_iff_heartbeat :
    let ported := Usb.session .release (portDialogue [] [] []) (.create .absolute)
      ([.data heartbeat, .usbError].map Read.tick)
    ∃ seqRef dev trace,
      gipInit (@dialogueLink Memory.gibibyte) plainHost ⟨[], [[], [], [], []]⟩ =
        .ok (seqRef, dev) ∧
      ported.ended = .stopped trace ∧
      ((∃ last, run (monitorStep true) { seqRef, actions := [] } [.data heartbeat, .usbError] =
            .ok last ∧
          last.actions = ((Usb.effectsOf trace).map Usb.Effect.action).filterMap driverAction ∧
          dev.written ++ last.actions.filterMap writtenBy =
            ported.submitted.map Usb.Sent.packet) ↔
        takenBy [.data heartbeat, .usbError] ≤ 252) ∧
      (252 < takenBy [.data heartbeat, .usbError] →
        run (monitorStep true) { seqRef, actions := [] } [.data heartbeat, .usbError] =
          .error .valueError) :=
  @sessions_agree_iff Memory.gibibyte _ .release plainHost rfl [] [] [] [] nofun (Usb.logged_release _)
    (Usb.logged_release _) _ _

end Wolverine.Python
