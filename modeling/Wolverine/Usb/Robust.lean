/-
**The EP1 event loop with checked indexing.**

The loop together with the input devices it drives. Every raw index of `run_event_loop`,
`forward_gamepad` and `forward_media` is checked here, so a run that returns a trace has not
panicked; a sent packet is logged with the arguments of `build_packet`.

* `Sent.sound` — a packet without CHUNK and with at most nine bytes of payload is at most 64 bytes
  long and decodes to its arguments.
* `handle_ok` — one received packet: no panic, the effects of `dispatch`, and the numbers of the
  sent packets.
* `event_loop_robust` — whole runs.
-/

import Wolverine.Gip.Numbering
import Wolverine.Input.Uinput
import Wolverine.Usb.EventLoop

namespace Wolverine.Usb

open Wolverine.Rust Wolverine.Gip Wolverine.Input

/-! ### The loop -/

/-- The arguments of `build_packet` for a packet that is sent. -/
structure Sent where
  cmd : UInt8
  options : UInt8
  seq : UInt8
  payload : List UInt8
  deriving DecidableEq, Repr

def Sent.packet (sent : Sent) : List UInt8 :=
  buildPacket sent.cmd sent.options sent.seq sent.payload

/-- What the loop does: packets it sends, and calls into the input devices with what comes of
them. -/
inductive Effect
  | send (sent : Sent)
  | forwardGamepad (raw : List UInt8) (emitted : Option (List InputEvent))
  | forwardGuide (pressed : Bool) (emitted : List InputEvent)
  | forwardMedia (raw : List UInt8) (commands : List MediaCommand)
  deriving DecidableEq, Repr

/-- The sequence counter of the device, and the input devices. -/
structure Monitor where
  seq : SeqCounter
  ui : Uinput

/-- Send a pending rumble request to the controller. -/
def pollRumble (monitor : Monitor) : Option (UInt8 × UInt8) → Monitor × List Effect
  | none => (monitor, [])
  | some (strong, weak) =>
    let s := monitor.seq.next
    let payload := [0x00, 0x0f, 0x00, 0x00, strong, weak, 0xff, 0x00, 0xff]
    ({ monitor with seq := ⟨s⟩ },
      [.send { cmd := Cmd.rumble, options := 0x00, seq := s, payload }])

/-- The volume reply to a VOLUME_CHAT report of nine bytes or more. -/
def handleVolumeChat (monitor : Monitor) (raw : List UInt8) :
    Except IndexPanic (Monitor × List Effect) :=
  let sub := raw.getD 4 0xff
  if sub = audioCtrlVolumeChat ∧ 9 ≤ raw.length then do
    let state ← index raw 5
    let (ui, commands) ← monitor.ui.forwardMedia raw
    let s := monitor.seq.next
    -- max HW volumes: the PipeWire slider does the attenuation
    let payload := [audioCtrlVolumeChat, state, 0x64, 0x64, 0x64]
    return ({ seq := ⟨s⟩, ui }, [.forwardMedia raw commands,
      .send { cmd := Cmd.audioControl, options := optsInternal, seq := s, payload }])
  else .ok (monitor, [])

/-- An AUDIO_CONTROL packet: a volume reply, and an ACK where the packet asks for one. -/
def handleAudioControl (monitor : Monitor) (cmd opts seq : UInt8) (raw : List UInt8) :
    Except IndexPanic (Monitor × List Effect) := do
  let (monitor, volume) ← handleVolumeChat monitor raw
  let payload := [0x00, cmd, opts, 0, 0, 0, 0, 0, 0]
  return (monitor, volume ++ if opts &&& Opt.ack ≠ 0 then
    [.send { cmd := Cmd.acknowledge, options := Opt.internal, seq, payload }] else [])

/-- Dispatch a received packet. -/
def handle (monitor : Monitor) (raw : List UInt8) : Except IndexPanic (Monitor × List Effect) := do
  let cmd ← index raw 0
  let opts := raw.getD 1 0
  let seq := raw.getD 2 0
  if cmd = Cmd.input then
    let (ui, emitted) ← monitor.ui.forwardGamepad raw
    return ({ monitor with ui }, [.forwardGamepad raw emitted])
  else if cmd = Cmd.virtualKey then
    -- Guide button: its own packet, data[4] bit 0 = pressed
    let pressed : Bool := raw.getD 4 0 &&& 0x01 ≠ 0
    return (monitor, [.forwardGuide pressed (forwardGuide pressed)])
  else if cmd = Cmd.status then
    let s := monitor.seq.next
    let statusVal := raw.getD 4 0x80
    return ({ monitor with seq := ⟨s⟩ }, [.send
      { cmd := Cmd.status, options := optsInternal, seq := s, payload := [statusVal, 0, 0, 0] }])
  else if cmd = Cmd.audioControl then handleAudioControl monitor cmd opts seq raw
  else
    let _ ← sliceTo raw (min raw.length 10)   -- for the log
    return (monitor, [])

/-- The loop: every iteration with its effects. A tick list that ends is the stop signal. -/
def runMonitor : Monitor → List Tick → Except IndexPanic (List (Tick × List Effect))
  | _, [] => .ok []
  | monitor, tick :: rest =>
    let (monitor, rumble) := pollRumble monitor tick.rumble
    match tick.read with
    | .disconnected => .ok [(tick, rumble)]
    | .timeout => (runMonitor monitor rest).map ((tick, rumble) :: ·)
    | .data raw =>
      if raw = [] then (runMonitor monitor rest).map ((tick, rumble) :: ·)
      else do
        let (monitor, effects) ← handle monitor raw
        let later ← runMonitor monitor rest
        return (tick, rumble ++ effects) :: later

/-! ### What is sent -/

/-- The packet an effect sends, if it sends one. -/
def Effect.sent? : Effect → Option Sent
  | .send sent => some sent
  | _ => none

/-- The packets among the effects, in order. -/
def sends (effects : List Effect) : List Sent := effects.filterMap Effect.sent?

/-- The packets that take a number of the counter: all but the ACKs, which echo one. -/
def numbered (sends : List Sent) : List Sent := sends.filter (·.cmd ≠ Cmd.acknowledge)

/-- The effect, as the loop with unchecked indexing lists it. -/
def Effect.action : Effect → Action
  | .send sent => .send sent.packet
  | .forwardGamepad raw _ => .forwardGamepad raw
  | .forwardGuide pressed _ => .forwardGuide pressed
  | .forwardMedia raw _ => .forwardMedia raw

theorem sends_append (first second : List Effect) :
    sends (first ++ second) = sends first ++ sends second := List.filterMap_append

theorem numbered_append (first second : List Sent) :
    numbered (first ++ second) = numbered first ++ numbered second := List.filter_append ..

/-- The arguments that the loop passes to `build_packet`. -/
structure Sent.Small (sent : Sent) : Prop where
  plain : sent.options &&& Opt.chunk = 0
  short : sent.payload.length ≤ 9

/-- **A sent packet is short and decodes to its arguments.** -/
theorem Sent.sound {sent : Sent} (small : sent.Small) (profile : Profile) :
    sent.packet.length ≤ 64 ∧ decode profile sent.packet = .ok (some
      { cmd := sent.cmd
        options := sent.options
        seq := sent.seq
        hdrLen := (buildHeader sent.cmd sent.options sent.seq sent.payload.length).length
        pktLen := sent.payload.length
        chunkOffset := 0
        payload := sent.payload }) := by
  have fits : sent.payload.length < u32Size := lt_of_le_of_lt small.short (by decide)
  have decoded := (decode_buildPacket profile sent.cmd sent.options sent.seq sent.payload []
    small.plain fits).1
  have field := length_headerVarint_le fits
  have short := small.short
  refine ⟨?_, ?_⟩
  · rw [Sent.packet, buildPacket, Nat.mod_eq_of_lt fits, buildHeader_eq]
    simp only [List.length_append, List.length_cons, List.length_nil]
    omega
  · rwa [List.append_nil] at decoded

/-! ### One iteration -/

/-- The effects of a part of the loop, from one state of the counter to another: the packets are
small, and those that take a number take the next ones. -/
structure Orderly (counter : SeqCounter) (effects : List Effect) (last : SeqCounter) : Prop where
  small : ∀ sent ∈ sends effects, sent.Small
  numbers : Numbered counter ((numbered (sends effects)).map Sent.seq) last

namespace Orderly

variable {counter middle last : SeqCounter} {first second : List Effect}

theorem append (before : Orderly counter first middle) (behind : Orderly middle second last) :
    Orderly counter (first ++ second) last := by
  refine ⟨fun sent member => ?_, ?_⟩
  · rw [sends_append] at member
    exact (List.mem_append.mp member).elim (before.small sent) (behind.small sent)
  · rw [sends_append, numbered_append, List.map_append]
    exact before.numbers.append behind.numbers

/-- Nothing is sent. -/
theorem silent (counter : SeqCounter) {effects : List Effect} (none : sends effects = []) :
    Orderly counter effects counter := by
  refine ⟨by rw [none]; nofun, ?_⟩
  rw [none]
  exact Numbered.nil counter

/-- A packet with the next number. -/
theorem next (counter : SeqCounter) {cmd options : UInt8} {payload : List UInt8}
    (other : cmd ≠ Cmd.acknowledge) (plain : options &&& Opt.chunk = 0)
    (short : payload.length ≤ 9) :
    Orderly counter [.send { cmd, options, seq := counter.next, payload }] ⟨counter.next⟩ := by
  refine ⟨fun sent member => List.mem_singleton.mp member ▸ ⟨plain, short⟩, ?_⟩
  have taken : numbered [{ cmd, options, seq := counter.next, payload }] =
      [{ cmd, options, seq := counter.next, payload }] := by simp [numbered, other]
  show Numbered counter ((numbered [_]).map Sent.seq) _
  rw [taken]
  exact Numbered.one counter

/-- An ACK takes no number. -/
theorem ack (counter : SeqCounter) {options seq : UInt8} {payload : List UInt8}
    (plain : options &&& Opt.chunk = 0) (short : payload.length ≤ 9) :
    Orderly counter [.send { cmd := Cmd.acknowledge, options, seq, payload }] counter := by
  refine ⟨fun sent member => List.mem_singleton.mp member ▸ ⟨plain, short⟩, ?_⟩
  exact Numbered.nil counter

end Orderly

theorem pollRumble_orderly (monitor : Monitor) (rumble : Option (UInt8 × UInt8)) :
    Orderly monitor.seq (pollRumble monitor rumble).2 (pollRumble monitor rumble).1.seq := by
  cases rumble with
  | none => exact Orderly.silent monitor.seq rfl
  | some motors => exact Orderly.next monitor.seq (by decide) (by decide) le_rfl

theorem pollRumble_actions (monitor : Monitor) (rumble : Option (UInt8 × UInt8)) :
    ((pollRumble monitor rumble).1.seq, (pollRumble monitor rumble).2.map Effect.action) =
      sendRumble monitor.seq rumble := by
  cases rumble <;> rfl

/-- What handling a packet comes to: no panic, the effects of `dispatch`, in order. -/
def Handled (monitor : Monitor) (result : Except IndexPanic (Monitor × List Effect))
    (expected : SeqCounter × List Action) : Prop :=
  ∃ after effects, result = .ok (after, effects) ∧ Orderly monitor.seq effects after.seq ∧
    (after.seq, effects.map Effect.action) = expected

/-- The volume reply of `dispatch`. -/
def volumeReply (counter : SeqCounter) (raw : List UInt8) : SeqCounter × List Action :=
  if raw.getD 4 0xff = audioCtrlVolumeChat ∧ 9 ≤ raw.length then
    (⟨counter.next⟩, [.forwardMedia raw, .send (buildPacket Cmd.audioControl optsInternal
      counter.next [audioCtrlVolumeChat, raw.getD 5 0, 0x64, 0x64, 0x64])])
  else (counter, [])

theorem dispatch_audioControl (counter : SeqCounter) {raw : List UInt8}
    (audio : raw.getD 0 0 = Cmd.audioControl) :
    dispatch counter raw = ((volumeReply counter raw).1, (volumeReply counter raw).2 ++
      if raw.getD 1 0 &&& Opt.ack ≠ 0 then
        [.send (ackPacket (raw.getD 0 0) (raw.getD 1 0) (raw.getD 2 0))] else []) := by
  rw [dispatch, if_neg (by rw [audio]; decide), if_neg (by rw [audio]; decide),
    if_neg (by rw [audio]; decide), if_pos audio]
  rfl

theorem handleVolumeChat_ok (monitor : Monitor) (raw : List UInt8) :
    Handled monitor (handleVolumeChat monitor raw) (volumeReply monitor.seq raw) := by
  unfold handleVolumeChat volumeReply
  by_cases chat : raw.getD 4 0xff = audioCtrlVolumeChat ∧ 9 ≤ raw.length
  · obtain ⟨⟨ui, commands⟩, forwarded⟩ := forwardMedia_ok monitor.ui raw
    have inside : 5 < raw.length := by omega
    have quiet : Orderly monitor.seq [.forwardMedia raw commands] monitor.seq :=
      Orderly.silent monitor.seq rfl
    rw [if_pos chat, if_pos chat, index_ok inside 0, forwarded]
    refine ⟨_, _, rfl, quiet.append ?_, rfl⟩
    exact Orderly.next monitor.seq (by decide) (by decide) (by simp)
  · rw [if_neg chat, if_neg chat]
    exact ⟨_, _, rfl, Orderly.silent monitor.seq rfl, rfl⟩

/-- With or without a volume reply, the ACK follows. -/
theorem handleAudioControl_ok (monitor : Monitor) {raw : List UInt8}
    (audio : raw.getD 0 0 = Cmd.audioControl) :
    Handled monitor
      (handleAudioControl monitor (raw.getD 0 0) (raw.getD 1 0) (raw.getD 2 0) raw)
      (dispatch monitor.seq raw) := by
  obtain ⟨after, effects, replied, orderly, same⟩ := handleVolumeChat_ok monitor raw
  rw [dispatch_audioControl monitor.seq audio, ← same]
  unfold handleAudioControl
  rw [replied]
  refine ⟨_, _, rfl, orderly.append ?_, ?_⟩
  · split
    · exact Orderly.ack after.seq (by decide) le_rfl
    · exact Orderly.silent after.seq rfl
  · rw [List.map_append]
    split <;> rfl

/-- **One received packet.** -/
theorem handle_ok (monitor : Monitor) {raw : List UInt8} (nonempty : raw ≠ []) :
    Handled monitor (handle monitor raw) (dispatch monitor.seq raw) := by
  have first : index raw 0 = .ok (raw.getD 0 0) := index_ok (List.length_pos_iff.mpr nonempty) 0
  unfold handle
  rw [first]
  simp only [bind, Except.bind]
  by_cases input : raw.getD 0 0 = Cmd.input
  · obtain ⟨⟨ui, emitted⟩, forwarded⟩ := forwardGamepad_ok monitor.ui raw
    rw [if_pos input, forwarded, dispatch, if_pos input]
    exact ⟨_, _, rfl, Orderly.silent monitor.seq rfl, rfl⟩
  rw [if_neg input]
  by_cases guide : raw.getD 0 0 = Cmd.virtualKey
  · rw [if_pos guide, dispatch, if_neg input, if_pos guide]
    exact ⟨_, _, rfl, Orderly.silent monitor.seq rfl, rfl⟩
  rw [if_neg guide]
  by_cases status : raw.getD 0 0 = Cmd.status
  · rw [if_pos status, dispatch, if_neg input, if_neg guide, if_pos status]
    exact ⟨_, _, rfl, Orderly.next monitor.seq (by decide) (by decide) (by simp), rfl⟩
  rw [if_neg status]
  by_cases audio : raw.getD 0 0 = Cmd.audioControl
  · rw [if_pos audio]
    exact handleAudioControl_ok monitor audio
  · rw [if_neg audio, sliceTo_ok (Nat.min_le_left _ _), dispatch, if_neg input, if_neg guide,
      if_neg status, if_neg audio]
    exact ⟨_, _, rfl, Orderly.silent monitor.seq rfl, rfl⟩

/-! ### Whole runs -/

/-- The effects of all iterations, in order. -/
def effectsOf (trace : List (Tick × List Effect)) : List Effect := trace.flatMap Prod.snd

theorem effectsOf_cons (tick : Tick) (effects : List Effect) (later : List (Tick × List Effect)) :
    effectsOf ((tick, effects) :: later) = effects ++ effectsOf later := List.flatMap_cons

/-- **Every run returns a trace**: the one of the loop with unchecked indexing, in order. -/
theorem runMonitor_ok (ticks : List Tick) : ∀ monitor : Monitor,
    ∃ trace last, runMonitor monitor ticks = .ok trace ∧
      Orderly monitor.seq (effectsOf trace) last ∧
      trace.map (fun entry => (entry.1, entry.2.map Effect.action)) =
        runEventLoop monitor.seq ticks := by
  induction ticks with
  | nil => exact fun monitor => ⟨[], monitor.seq, rfl, Orderly.silent _ rfl, rfl⟩
  | cons tick rest ih =>
    intro monitor
    have rumble := pollRumble_orderly monitor tick.rumble
    have actions := pollRumble_actions monitor tick.rumble
    rw [runMonitor, runEventLoop, ← actions]
    generalize pollRumble monitor tick.rumble = polled at rumble ⊢
    obtain ⟨middle, requested⟩ := polled
    simp only at rumble ⊢
    obtain ⟨later, last, ran, orderly, same⟩ := ih middle
    have idle : ∃ trace last, (runMonitor middle rest).map ((tick, requested) :: ·) = .ok trace ∧
        Orderly monitor.seq (effectsOf trace) last ∧
        trace.map (fun entry => (entry.1, entry.2.map Effect.action)) =
          (tick, requested.map Effect.action) :: runEventLoop middle.seq rest := by
      refine ⟨(tick, requested) :: later, last, by rw [ran]; rfl, ?_, ?_⟩
      · rw [effectsOf_cons]
        exact rumble.append orderly
      · rw [List.map_cons, same]
    cases reading : tick.read with
    | timeout => exact idle
    | disconnected =>
      refine ⟨[(tick, requested)], middle.seq, rfl, ?_, rfl⟩
      rw [effectsOf_cons]
      exact rumble.append (Orderly.silent middle.seq rfl)
    | data raw =>
      by_cases empty : raw = []
      · simp only [if_pos empty]
        exact idle
      · obtain ⟨after, effects, handled, sent, dispatched⟩ := handle_ok middle empty
        obtain ⟨later, last, ran, orderly, same⟩ := ih after
        simp only [if_neg empty, handled, bind, Except.bind, ran, ← dispatched, ← same]
        refine ⟨(tick, requested ++ effects) :: later, last, rfl, ?_, ?_⟩
        · rw [effectsOf_cons]
          exact (rumble.append sent).append orderly
        · rw [List.map_cons, List.map_append]

/-- **The event loop is robust.** For any reads, rumble requests and counter value, no handler
indexes past the packet it received; every packet sent is at most 64 bytes long and decodes to the
command, options and payload it was built from; all but the ACKs carry consecutive numbers in the
cycle 1 to 255; and the iterations have the effects of the loop with unchecked indexing. -/
theorem event_loop_robust (profile : Profile) (monitor : Monitor) (ticks : List Tick) :
    ∃ trace, runMonitor monitor ticks = .ok trace ∧
      (∀ sent ∈ sends (effectsOf trace), sent.packet.length ≤ 64 ∧
        ∃ packet, decode profile sent.packet = .ok (some packet) ∧ packet.cmd = sent.cmd ∧
          packet.options = sent.options ∧ packet.seq = sent.seq ∧
          packet.payload = sent.payload) ∧
      (numbered (sends (effectsOf trace))).map (fun sent => sent.seq.toNat) =
        (List.range (numbered (sends (effectsOf trace))).length).map
          (fun i => (monitor.seq.value.toNat + i) % 255 + 1) ∧
      trace.map (fun entry => (entry.1, entry.2.map Effect.action)) =
        runEventLoop monitor.seq ticks := by
  obtain ⟨trace, last, ran, orderly, same⟩ := runMonitor_ok ticks monitor
  refine ⟨trace, ran, fun sent member => ?_, ?_, same⟩
  · obtain ⟨short, decoded⟩ := Sent.sound (orderly.small sent member) profile
    exact ⟨short, _, decoded, rfl, rfl, rfl, rfl⟩
  · have numbers := orderly.numbers.map_toNat
    rw [List.map_map, List.length_map] at numbers
    exact numbers

end Wolverine.Usb
