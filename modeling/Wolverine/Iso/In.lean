/-
**The microphone half of the iso engine: `on_in`.**

Each PCM byte carries, as history, the received packet and the PCM offset it comes from; the code
never looks at these tags. `Capture` is what the IN completion callback writes, with the PCM of
every received packet as history; `received` is the stream that these packets make.

* `push_newest` — while nothing is dropped the ring holds the newest bytes of the stream.
* `push_oldest` — without a consumer the ring holds the oldest bytes of the stream: a full ring
  drops what arrives.
* `push_samples` — packets of whole samples keep the ring content cut into samples.
-/

import Wolverine.Audio.Sink
import Wolverine.Base.Machine
import Wolverine.Iso.Out
import Wolverine.Iso.DeviceBytes

namespace Wolverine.Iso

open Wolverine.Rust Wolverine.Audio Wolverine.Frames

/-- IN: the endpoint's max packet. -/
def inPktBytes : Nat := 228

/-- A received iso packet: its descriptor status and its `actual_length` bytes, if libusb has a
buffer for it. -/
structure InPacket where
  status : TransferStatus
  data : Option (List UInt8)
  short : ∀ bytes ∈ data, bytes.length ≤ inPktBytes

/-- A PCM byte; as history, the packet it was received in and its offset in the PCM there. -/
structure MicByte where
  value : UInt8
  packet : Nat
  offset : Nat
  deriving DecidableEq, Repr

/-- The PCM of a packet, tagged. -/
def tag (packet : Nat) (pcm : List UInt8) : List MicByte :=
  pcm.mapIdx fun offset value => { value, packet, offset }

/-- The engine state of the IN direction, and the PCM of every received packet. -/
structure Capture where
  /-- Mic audio received on EP3 IN. -/
  cap : Ring ringCapacity MicByte
  inBytes : Nat
  packets : List (List UInt8)

/-- The PCM that one iteration of the loop of `on_in` pushes; empty when it pushes nothing. -/
def pcmOf (profile : Profile) (packet : InPacket) : Except Panic (List UInt8) :=
  match packet.data with
  | none => .ok []   -- no packet buffer
  | some data =>
    if packet.status ≠ .completed ∨ data.length = 0 then .ok []
    else do
      let some pcm ← parseIn profile data | return []
      return pcm

namespace Capture

def new : Capture := { cap := Ring.new ringCapacity MicByte, inBytes := 0, packets := [] }

/-- The stream of all PCM bytes received so far. -/
def received (capture : Capture) : List MicByte := (capture.packets.mapIdx tag).flatten

/-- Push the PCM of a packet to the ring. -/
def push (capture : Capture) (pcm : List UInt8) : Capture where
  cap := (capture.cap.write (tag capture.packets.length pcm)).2
  inBytes := capture.inBytes + pcm.length
  packets := capture.packets ++ [pcm]

/-- One iteration of the loop of `on_in`. -/
def onInPacket (profile : Profile) (capture : Capture) (packet : InPacket) :
    Except Panic Capture := do
  let pcm ← pcmOf profile packet
  if pcm.length = 0 then return capture
  return capture.push pcm

/-- `on_in`: nothing when the engine has stopped or the transfer was lost, else its packets. -/
def onIn (profile : Profile) (running : Bool) (status : TransferStatus) (packets : List InPacket)
    (capture : Capture) : Except Panic Capture :=
  if running = false then .ok capture
  else if status = .noDevice ∨ status = .cancelled then .ok capture
  else Machine.run (onInPacket profile) capture packets

end Capture

/-- A completed packet that is not empty is parsed. -/
theorem pcmOf_completed (profile : Profile) {packet : InPacket} {data : List UInt8}
    (present : packet.data = some data) (completed : packet.status = .completed)
    (nonempty : data.length ≠ 0) :
    pcmOf profile packet = (parseIn profile data).map fun pcm => pcm.getD [] := by
  unfold pcmOf
  rw [present]
  simp only
  rw [if_neg (not_or.mpr ⟨not_not.mpr completed, nonempty⟩)]
  rcases parseIn profile data with panic | - | pcm <;> rfl

/-- A packet of one sample. -/
def samplePacket : InPacket :=
  ⟨.completed, some [0x60, 0x21, 0x01, 0x04, 0x00, 0x00, 0x05, 0x06], by decide⟩

/-- The PCM that a packet carries. -/
def carried (profile : Profile) (packet : InPacket) : List UInt8 :=
  match pcmOf profile packet with
  | .ok pcm => pcm
  | .error _ => []

@[simp] theorem length_tag (packet : Nat) (pcm : List UInt8) :
    (tag packet pcm).length = pcm.length :=
  List.length_mapIdx

namespace Capture

theorem received_push (capture : Capture) (pcm : List UInt8) :
    (capture.push pcm).received = capture.received ++ tag capture.packets.length pcm := by
  rw [received, push, List.mapIdx_concat, List.flatten_concat]
  rfl

/-- An iteration pushes what the packet carries, or does nothing. -/
theorem onInPacket_cases {profile : Profile} {capture next : Capture} {packet : InPacket}
    (stepped : capture.onInPacket profile packet = .ok next) :
    next = capture ∧ carried profile packet = [] ∨
      next = capture.push (carried profile packet) := by
  obtain ⟨pcm, carries, stepped⟩ := Machine.ok_of_bind stepped
  rw [carried, carries]
  split at stepped
  · rename_i empty
    cases stepped
    exact Or.inl ⟨rfl, List.length_eq_zero_iff.mp empty⟩
  · cases stepped
    exact Or.inr rfl

/-! ### Nothing is dropped: the newest bytes -/

/-- The ring holds the newest bytes of the stream. -/
def Newest (capture : Capture) : Prop := capture.cap.items <:+ capture.received

theorem push_newest {capture : Capture} (newest : capture.Newest) {pcm : List UInt8}
    (room : pcm.length ≤ capture.cap.space) : (capture.push pcm).Newest := by
  obtain ⟨gone, split⟩ := newest
  refine ⟨gone, ?_⟩
  rw [received_push, ← split, List.append_assoc]
  exact congrArg _ (Ring.write_items_of_fits (by rwa [length_tag]))

/-- Among the newest bytes, the last `window`. -/
theorem Newest.fresh {capture : Capture} (newest : capture.Newest) {window : Nat}
    (shallow : capture.cap.avail ≤ window) {byte : MicByte} (member : byte ∈ capture.cap.items) :
    byte ∈ capture.received.drop (capture.received.length - window) := by
  obtain ⟨gone, split⟩ := newest
  have depth : capture.cap.items.length ≤ window := shallow
  rw [← split, List.length_append, List.drop_append_of_le_length (by omega)]
  exact List.mem_append_right _ member

/-! ### Nothing is consumed: the oldest bytes -/

/-- The ring holds the oldest bytes of the stream, as many as fit. -/
def Oldest (capture : Capture) : Prop := capture.cap.items = capture.received.take ringCapacity

theorem oldest_new : Capture.new.Oldest := by
  show ([] : List MicByte) = ([] : List MicByte).take ringCapacity
  rw [List.take_nil]

theorem push_oldest {capture : Capture} (oldest : capture.Oldest) (pcm : List UInt8) :
    (capture.push pcm).Oldest := by
  have space : capture.cap.space = ringCapacity - capture.received.length := by
    rw [Ring.space, oldest, List.length_take]
    omega
  rw [Oldest, received_push, List.take_append, ← oldest, ← space]
  rfl

theorem nodup_tag (packet : Nat) (pcm : List UInt8) : (tag packet pcm).Nodup := by
  refine List.Nodup.of_map MicByte.offset ?_
  have offsets : (tag packet pcm).map MicByte.offset = List.range pcm.length := by
    refine List.ext_getElem (by rw [List.length_map, length_tag, List.length_range]) fun i _ _ => ?_
    rw [List.getElem_map, List.getElem_range]
    simp only [tag, List.getElem_mapIdx]
  rw [offsets]
  exact List.nodup_range

/-- A byte of the stream comes from a received packet. -/
theorem packet_lt {packets : List (List UInt8)} {byte : MicByte}
    (member : byte ∈ (packets.mapIdx tag).flatten) : byte.packet < packets.length := by
  obtain ⟨tagged, here, inside⟩ := List.mem_flatten.mp member
  obtain ⟨packet, bound, rfl⟩ := List.mem_mapIdx.mp here
  obtain ⟨offset, _, rfl⟩ := List.mem_mapIdx.mp inside
  exact bound

/-- No byte is received twice. -/
theorem nodup_received (capture : Capture) : capture.received.Nodup := by
  unfold received
  induction capture.packets using List.reverseRecOn with
  | nil => exact List.nodup_nil
  | append_singleton packets pcm ih =>
    rw [List.mapIdx_concat, List.flatten_concat]
    refine List.Nodup.append ih (nodup_tag _ _) fun byte earlier here => ?_
    obtain ⟨offset, _, rfl⟩ := List.mem_mapIdx.mp here
    exact absurd (packet_lt earlier) (lt_irrefl _)

/-- A ring that has overflowed by a whole window holds nothing fresh. -/
theorem Oldest.stale {capture : Capture} (oldest : capture.Oldest) {window : Nat}
    (long : ringCapacity + window ≤ capture.received.length) {byte : MicByte}
    (member : byte ∈ capture.cap.items) :
    byte ∉ capture.received.drop (capture.received.length - window) := by
  rw [oldest] at member
  exact List.disjoint_take_drop capture.nodup_received (by omega) member

/-! ### Whole samples -/

/-- Two bytes of one sample: adjacent in the PCM of one packet, the first at an even offset. -/
def IsSample (packets : List (List UInt8)) (frame : List MicByte) : Prop :=
  ∃ packet offset low high pcm,
    frame = [⟨low, packet, 2 * offset⟩, ⟨high, packet, 2 * offset + 1⟩] ∧
    packets[packet]? = some pcm ∧ pcm[2 * offset]? = some low ∧ pcm[2 * offset + 1]? = some high

/-- The PCM of a packet, from an even offset on, is cut into samples. -/
theorem samples_from {packets : List (List UInt8)} {packet : Nat} (pcm : List UInt8)
    (even : 2 ∣ pcm.length) : ∀ front : List UInt8, 2 ∣ front.length →
      packets[packet]? = some (front ++ pcm) →
      Framed 2 (IsSample packets)
        (pcm.mapIdx fun i value => (⟨value, packet, front.length + i⟩ : MicByte)) := by
  refine frame_induction (motive := fun pcm => ∀ front : List UInt8, 2 ∣ front.length →
      packets[packet]? = some (front ++ pcm) →
      Framed 2 (IsSample packets)
        (pcm.mapIdx fun i value => (⟨value, packet, front.length + i⟩ : MicByte)))
    (by decide) (fun _ _ _ => Framed.nil) ?_ pcm even
  intro frame rest frameSize _ ih front frontEven here
  obtain ⟨low, high, rfl⟩ := List.length_eq_two.mp frameSize
  obtain ⟨offset, position⟩ := frontEven
  have longer : 2 ∣ (front ++ [low, high]).length := by
    rw [List.length_append, position]
    exact Nat.dvd_add (dvd_mul_right 2 offset) (dvd_refl 2)
  have next := ih (front ++ [low, high]) longer (by rw [here, List.append_assoc])
  rw [List.mapIdx_append]
  refine Framed.append (Framed.single rfl ?_) ?_
  · refine ⟨packet, offset, low, high, _, ?_, here, ?_, ?_⟩
    · rw [← position]
      rfl
    · rw [← position, List.getElem?_append_right (le_refl _), Nat.sub_self]
      rfl
    · rw [← position, List.getElem?_append_right (Nat.le_add_right _ 1), Nat.add_sub_cancel_left]
      rfl
  · rw [List.length_append] at next
    have shift : ∀ i, front.length + (i + [low, high].length) =
        front.length + [low, high].length + i := fun i => by omega
    simp only [shift]
    exact next

/-- Samples stay samples when more packets arrive. -/
theorem IsSample.later {packets : List (List UInt8)} {frame : List MicByte}
    (sample : IsSample packets frame) (pcm : List UInt8) : IsSample (packets ++ [pcm]) frame := by
  obtain ⟨packet, offset, low, high, source, bytes, here, first, second⟩ := sample
  refine ⟨packet, offset, low, high, source, bytes, ?_, first, second⟩
  rw [List.getElem?_append_left (List.getElem?_eq_some_iff.mp here).1, here]

/-- The ring content is cut into samples. -/
def Sampled (capture : Capture) : Prop := Framed 2 (IsSample capture.packets) capture.cap.items

/-- **A packet of whole samples keeps the ring content cut into samples**, also when the ring drops
part of it. -/
theorem push_samples {capture : Capture} (sampled : capture.Sampled) {pcm : List UInt8}
    (even : 2 ∣ pcm.length) : (capture.push pcm).Sampled := by
  have old : Framed 2 (IsSample (capture.packets ++ [pcm])) capture.cap.items :=
    sampled.mono fun _ sample => sample.later pcm
  have here : (capture.packets ++ [pcm])[capture.packets.length]? = some ([] ++ pcm) := by
    rw [List.getElem?_append_right (le_refl _), Nat.sub_self]
    rfl
  have new := samples_from pcm even [] (dvd_zero 2) here
  simp only [List.length_nil, Nat.zero_add] at new
  have boundary : 2 ∣ capture.cap.space := Ring.space_aligned (by decide) sampled.aligned
  exact old.append (new.take boundary)

end Capture

end Wolverine.Iso
