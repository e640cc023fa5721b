/-
**The microphone of the Python driver, from the controller to PipeWire.**

The controller cuts its samples into AUDIO_SAMPLES packets. `_on_in` takes the PCM out of the
packets of a transfer, one after the other, and hands it to the bridge; PipeWire, on its own thread,
asks the bridge for buffers, between any two packets.

* `MicPacket` — a packet of samples; `pcmOf_bytes` says what `_on_in` takes out of it.
* `Recorder` — the engine and the capture side of the bridge, joined by `wpw_write_capture`.
* `Recorder.steady_packet` — one packet.
* `recording_in_order` — what PipeWire gets, in every run.
-/

import Wolverine.Bridge.Port
import Wolverine.Python.IsoIn

namespace Wolverine.Python

open Wolverine.Bridge Wolverine.Cyclic Wolverine.Frames Wolverine.Iso Wolverine.Tail

/-! ### The packets of the controller -/

/-- A packet of samples. The length of its payload may be padded, and anything may follow. -/
structure MicPacket where
  options : UInt8
  seq : UInt8
  varint : List UInt8
  /-- The sub-header. -/
  sub : UInt8 × UInt8
  pcm : List UInt8
  trailing : List UInt8
  plain : options.toNat &&& gipOptChunk = 0
  isVarint : Leb128.IsVarint varint
  counts : Leb128.value varint = 2 + pcm.length
  short : 3 + varint.length + (2 + pcm.length) + trailing.length ≤ inPktBytes

namespace MicPacket

variable (packet : MicPacket)

def header : List UInt8 :=
  [UInt8.ofNat gipCmdAudioSamples, packet.options, packet.seq] ++ packet.varint

def bytes : List UInt8 :=
  packet.header ++ (packet.sub.1 :: packet.sub.2 :: packet.pcm ++ packet.trailing)

theorem length_bytes :
    packet.bytes.length =
      3 + packet.varint.length + (2 + packet.pcm.length) + packet.trailing.length := by
  simp only [bytes, header, List.length_append, List.length_cons, List.length_nil]
  omega

/-- The packet, as a transfer delivers it. -/
def received (status : TransferStatus) : InPacket where
  status := status
  data := some packet.bytes
  short := by
    intro bytes member
    rw [← Option.mem_some.mp member, length_bytes]
    exact packet.short

/-- **What `_on_in` takes** out of a packet is the PCM. -/
theorem pcmOf_bytes : pcmOf packet.bytes = packet.pcm := by
  have length := packet.length_bytes
  have header : packet.header.length = 3 + packet.varint.length := List.length_append
  have long : 4 ≤ packet.bytes.length := by omega
  have declared : Gip.lengthVarint packet.bytes = packet.varint :=
    Gip.lengthVarint_frame packet.isVarint _
  have whole : Gip.offsetLength packet.bytes = 0 :=
    if_neg fun chunk => (and_gipOptChunk_ne_zero packet.options).mpr chunk packet.plain
  have front : (packet.sub.1 :: packet.sub.2 :: packet.pcm).length = 2 + packet.pcm.length := by
    rw [List.length_cons, List.length_cons]
    omega
  have taken : packet.bytes.take (3 + packet.varint.length + (2 + packet.pcm.length)) =
      packet.header ++ (packet.sub.1 :: packet.sub.2 :: packet.pcm) := by
    rw [bytes, ← List.append_assoc, ← header, ← front, ← List.length_append, List.take_left]
  rw [pcmOf_audio long rfl, declared, whole, packet.counts, Nat.add_zero, pySlice, taken, ← header,
    List.drop_left]
  rfl

end MicPacket

/-! ### The chain -/

inductive RecordEvent
  /-- One packet of a transfer, in the loop of `_on_in`. -/
  | packet (status : TransferStatus) (packet : MicPacket)
  /-- The flag is cleared, at the point where `_on_in`, which reads it once a transfer, sees it. -/
  | stop
  /-- PipeWire asks for a buffer. -/
  | process (b : Option PwBuffer)

/-- The packets hold whole units of `size` bytes. -/
def RecordEvent.Whole (size : Nat) : RecordEvent → Prop
  | .packet _ sent => size ∣ sent.pcm.length
  | .stop | .process _ => True

/-- The engine, and the capture side of the bridge. -/
structure Recorder where
  mic : IsoMic
  side : CaptureSide

namespace Recorder

def start (memory : Fin ringCap.toNat → UInt8) : Recorder where
  mic := IsoMic.start
  side := CaptureSide.start memory

/-- The calls of `wpw_write_capture`. -/
def write (format : InFormat) (side : CaptureSide) (calls : List (List UInt8)) : CaptureSide :=
  calls.foldl
    (fun side pcm => side.step format (.push (pointer pcm 0) (Int32.ofNat pcm.length))) side

def step (format : InFormat) (recorder : Recorder) : RecordEvent → Recorder
  | .packet status packet =>
    let before := recorder.mic
    let mic := if before.running = false then before else before.onInPacket (packet.received status)
    { mic, side := write format recorder.side (mic.pushed.drop before.pushed.length) }
  | .stop => { recorder with mic := { recorder.mic with running := false } }
  | .process b => { recorder with side := recorder.side.step format (.process b) }

end Recorder

/-- The PCM that arrives before the stop. -/
def arrived : List RecordEvent → List UInt8
  | [] => []
  | .packet status packet :: rest =>
    (if status = .completed then packet.pcm else []) ++ arrived rest
  | .stop :: _ => []
  | .process _ :: rest => arrived rest

namespace Recorder

variable {format : InFormat} {size : Nat} {recorder : Recorder}
  {reader : Reader ringCap.toNat UInt8} {cuts : List (Cut ringCap.toNat)}

/-- What one packet makes of the engine. -/
theorem step_packet (format : InFormat) (recorder : Recorder) (status : TransferStatus)
    (packet : MicPacket) :
    ∃ mic, mic.running = recorder.mic.running ∧
      recorder.step format (.packet status packet) =
        ⟨mic, if recorder.mic.running = true ∧ status = .completed ∧ packet.pcm ≠ [] then
          write format recorder.side [packet.pcm] else recorder.side⟩ := by
  have present : packet.bytes ≠ [] := by
    intro empty
    have length := packet.length_bytes
    rw [empty, List.length_nil] at length
    omega
  have idle : write format recorder.side
      (recorder.mic.pushed.drop recorder.mic.pushed.length) = recorder.side := by
    rw [List.drop_length]
    rfl
  unfold step
  dsimp only
  by_cases stopped : recorder.mic.running = false
  · rw [if_pos stopped, idle, if_neg (by simp [stopped])]
    exact ⟨_, rfl, rfl⟩
  · rw [if_neg stopped]
    have running : recorder.mic.running = true := Bool.eq_true_of_not_eq_false stopped
    unfold IsoMic.onInPacket
    simp only [MicPacket.received, Option.getD_some, packet.pcmOf_bytes, present, or_false]
    by_cases completed : status = .completed
    · rw [if_neg (not_not.mpr completed)]
      by_cases empty : packet.pcm = []
      · rw [if_pos empty, idle, if_neg (by simp [empty])]
        exact ⟨_, rfl, rfl⟩
      · rw [if_neg empty, if_pos ⟨running, completed, empty⟩, List.drop_left]
        refine ⟨_, ?_, rfl⟩
        rfl
    · rw [if_pos completed, idle, if_neg fun all => completed all.2.1]
      exact ⟨_, rfl, rfl⟩

/-- **One packet** keeps the invariant of the capture side, and adds what arrived. -/
theorem steady_packet (steady : Bridge.Steady format size recorder.side reader cuts)
    (wholeCapacity : size ∣ ringCap.toNat) (status : TransferStatus) (packet : MicPacket)
    (whole : size ∣ packet.pcm.length) :
    (recorder.step format (.packet status packet)).mic.running = recorder.mic.running ∧
      (recorder.step format (.packet status packet)).side.captured = recorder.side.captured ++
        (if recorder.mic.running = true ∧ status = .completed then packet.pcm else []) ∧
      ∃ reader, Bridge.Steady format size (recorder.step format (.packet status packet)).side reader
        cuts := by
  obtain ⟨mic, running, stepped⟩ := step_packet format recorder status packet
  rw [stepped]
  refine ⟨running, ?_⟩
  dsimp only
  by_cases accepted : recorder.mic.running = true ∧ status = .completed
  · rw [if_pos accepted]
    by_cases empty : packet.pcm = []
    · rw [if_neg fun all => all.2.2 empty, empty, List.append_nil]
      exact ⟨rfl, reader, steady⟩
    · have small : packet.pcm.length < 2 ^ 31 := by
        have short := packet.short
        rw [inPktBytes] at short
        omega
      have pushed_ := pushed_pointer small
      have captured : (write format recorder.side [packet.pcm]).captured =
          recorder.side.captured ++ pushed (pointer packet.pcm 0) (Int32.ofNat packet.pcm.length) :=
        rfl
      rw [if_pos ⟨accepted.1, accepted.2, empty⟩, captured, pushed_]
      refine ⟨rfl, _, steady.push wholeCapacity ?_⟩
      rw [pushed_]
      exact whole
  · rw [if_neg accepted, if_neg fun all => accepted ⟨all.1, all.2.1⟩, List.append_nil]
    exact ⟨rfl, reader, steady⟩

/-- The run lemma. -/
theorem steady_run (wholeCapacity : size ∣ ringCap.toNat)
    (wholeStride : size ∣ format.inStride.toNat) (events : List RecordEvent) :
    ∀ (recorder : Recorder) (reader : Reader ringCap.toNat UInt8) (cuts : List (Cut ringCap.toNat)),
      Bridge.Steady format size recorder.side reader cuts → (∀ event ∈ events, event.Whole size) →
      ∃ reader cuts,
        Bridge.Steady format size (events.foldl (step format) recorder).side reader cuts ∧
        (events.foldl (step format) recorder).side.captured = recorder.side.captured ++
          (if recorder.mic.running = true then arrived events else []) := by
  induction events with
  | nil =>
    intro recorder reader cuts steady _
    refine ⟨reader, cuts, steady, ?_⟩
    rw [arrived, ite_self, List.append_nil]
    rfl
  | cons event rest ih =>
    intro recorder reader cuts steady all
    have later : ∀ other ∈ rest, other.Whole size :=
      fun other member => all other (List.mem_cons_of_mem _ member)
    cases event with
    | packet status packet =>
      obtain ⟨running, captured, next, kept⟩ :=
        steady_packet steady wholeCapacity status packet (all _ List.mem_cons_self)
      obtain ⟨last, more, final, total⟩ := ih _ next cuts kept later
      refine ⟨last, more, final, total.trans ?_⟩
      rw [captured, running, arrived, List.append_assoc]
      by_cases runs : recorder.mic.running = true
      · simp [runs]
      · simp [runs]
    | stop =>
      obtain ⟨last, more, final, total⟩ := ih (recorder.step format .stop) reader cuts steady later
      refine ⟨last, more, final, total.trans ?_⟩
      rw [arrived, ite_self]
      rfl
    | process b =>
      obtain ⟨next, more, kept⟩ := steady.process wholeStride b
      exact ih (recorder.step format (.process b)) next more kept later

end Recorder

end Wolverine.Python
