/-
**The capture side of `wolverine_pw.c`.**

The driver pushes microphone bytes with `wpw_write_capture`; PipeWire, on its own thread, asks for
them with `on_process_capture`, which fills the buffer that it is given from the ring and pads it
with silence. The two meet only in the ring, whose calls are atomic, so a run is any sequence of
pushes and requests.

* `Holds` — the ring holds what a reader of the pushed bytes can still read.
* `Steady` — the invariant: the buffers filled so far are cuts of the pushed bytes, with silence.
* `capture_in_order` — so, in every run, no byte is served twice or out of order, the buffers get
  bytes of the last 512 KiB only, silence only where the pushed bytes are used up, and nothing is
  written behind the requested bytes.
-/

import Wolverine.Base.Tail
import Wolverine.Bridge.Ring

namespace Wolverine.Bridge

open Wolverine.Cyclic Wolverine.Frames Wolverine.Tail

/-! ### The callback -/

/-- What `pw_stream_dequeue_buffer` hands out: the fields that the callback reads. -/
structure PwBuffer where
  /-- The memory at `d->data`, if it is mapped. -/
  data : Option (Nat → UInt8)
  maxsize : UInt32
  requested : UInt64

/-- What the callback leaves at `d->data` and in `d->chunk`. -/
structure Filled where
  data : Nat → UInt8
  offset : UInt32
  stride : Int32
  size : UInt32

/-- `memset` to zero of `n` bytes, `start` bytes behind the pointer `dst`. -/
def memset (dst : Nat → UInt8) (start n : Nat) : Nat → UInt8 := fun i =>
  if start ≤ i ∧ i < start + n then 0 else dst i

/-- The frames of the source side. -/
structure InFormat where
  /-- Bytes of a frame. -/
  inStride : UInt32
  /-- The callback divides by it. -/
  positive : 0 < inStride

/-- The frames of `wpw_start`: `sizeof(int16_t)` times the channels. -/
def InFormat.ofChannels (inChannels : Int32) (positive : 0 < inChannels.toUInt32 * 2) : InFormat :=
  ⟨inChannels.toUInt32 * 2, positive⟩

/-- How many bytes the callback fills. -/
def nbytes (format : InFormat) (b : PwBuffer) : UInt32 :=
  let maxframes := b.maxsize / format.inStride
  let nframes := if b.requested ≠ 0 then b.requested.toUInt32 else maxframes
  let nframes := if nframes > maxframes then maxframes else nframes
  nframes * format.inStride

/-- `on_process_capture`: the ring, and the buffer if it was filled. -/
def onProcessCapture (format : InFormat) (capRing : RingT) (b : Option PwBuffer) :
    RingT × Option (PwBuffer × Filled) :=
  match b with
  | none => (capRing, none)
  | some b =>
    match b.data with
    | none => (capRing, none)   -- queued again as it is
    | some data =>
      let nbytes := nbytes format b
      let (got, data, capRing) := ringRead capRing data nbytes
      -- underrun: silence
      let data := if got < nbytes then memset data got.toNat (nbytes - got).toNat else data
      (capRing, some (b, { data, offset := 0, stride := format.inStride.toInt32, size := nbytes }))

/-- `wpw_write_capture`, while the bridge is running. -/
def wpwWriteCapture (capRing : RingT) (src : Nat → UInt8) (len : Int32) : Int32 × RingT :=
  if len ≤ 0 then (0, capRing) else (len, ringWrite capRing src len.toUInt32)

/-! ### Runs -/

inductive CaptureEvent
  /-- The driver pushes bytes. -/
  | push (src : Nat → UInt8) (len : Int32)
  /-- PipeWire asks for bytes. -/
  | process (b : Option PwBuffer)

/-- The bytes that a push offers. -/
def pushed (src : Nat → UInt8) (len : Int32) : List UInt8 := bytesAt src len.toNatClampNeg

/-- The ring, and as history the bytes that were pushed and the buffers that were filled. -/
structure CaptureSide where
  capRing : RingT
  captured : List UInt8
  served : List (PwBuffer × Filled)

namespace CaptureSide

/-- `wpw_start`: a new ring. -/
def start (memory : Fin ringCap.toNat → UInt8) : CaptureSide := ⟨ringInit memory, [], []⟩

def step (format : InFormat) (side : CaptureSide) : CaptureEvent → CaptureSide
  | .push src len =>
    { side with
      capRing := (wpwWriteCapture side.capRing src len).2
      captured := side.captured ++ pushed src len }
  | .process b =>
    let (capRing, filled) := onProcessCapture format side.capRing b
    { side with capRing, served := side.served ++ filled.toList }

def run (format : InFormat) (memory : Fin ringCap.toNat → UInt8) (events : List CaptureEvent) :
    CaptureSide :=
  events.foldl (step format) (start memory)

end CaptureSide

/-- The driver pushes whole units of `size` bytes. -/
def CaptureEvent.Whole (size : Nat) : CaptureEvent → Prop
  | .push src len => size ∣ (pushed src len).length
  | .process _ => True

/-- How the callback answers with a cut of the bytes that were pushed. -/
structure Answered (format : InFormat) (captured : List UInt8) (cut : Cut ringCap.toNat)
    (served : PwBuffer × Filled) : Prop where
  size : served.2.size = nbytes format served.1
  fits : served.2.size ≤ served.1.maxsize
  whole : format.inStride.toNat ∣ served.2.size.toNat
  chunk : served.2.offset = 0 ∧ served.2.stride = format.inStride.toInt32
  pcm : bytesAt served.2.data served.2.size.toNat =
    cut.segment captured ++ List.replicate (served.2.size.toNat - cut.size) 0
  exhausted : cut.size < served.2.size.toNat → cut.stop = cut.written
  beyond : ∀ data, served.1.data = some data →
    ∀ i, served.2.size.toNat ≤ i → served.2.data i = data i

/-! ### The ring and its reader -/

/-- The ring holds what the reader can still read. -/
def Holds (ring : RingT) (reader : Reader ringCap.toNat UInt8) : Prop :=
  Represents ring reader.view

theorem holds_init (memory : Fin ringCap.toNat → UInt8) :
    Holds (ringInit memory) (Reader.empty _ _) :=
  represents_init memory

namespace Holds

variable {ring : RingT} {reader : Reader ringCap.toNat UInt8}

theorem write (holds : Holds ring reader) (src : Nat → UInt8) (n : UInt32) :
    Holds (ringWrite ring src n) (reader.write (bytesAt src n.toNat)) :=
  (Represents.write holds src n).trans (reader.write_view _).symm

theorem read (holds : Holds ring reader) (dst : Nat → UInt8) (n : UInt32) :
    bytesAt (ringRead ring dst n).2.1 (ringRead ring dst n).1.toNat =
        (reader.next n.toNat).segment reader.stream ∧
      (ringRead ring dst n).1.toNat = (reader.next n.toNat).size ∧
      Holds (ringRead ring dst n).2.2 (reader.read n.toNat) := by
  obtain ⟨bytes, rest⟩ := Represents.read holds dst n
  refine ⟨bytes.trans (reader.segment_next n.toNat).symm, ?_,
    Eq.trans rest (reader.read_view n.toNat).symm⟩
  rw [toNat_ringRead_count, ← Represents.length holds, reader.length_view, reader.size_next]

theorem bounded (holds : Holds ring reader) : ring.used ≤ ringCap.toNat :=
  Represents.bounded holds

/-- The depth of the ring. -/
theorem used (holds : Holds ring reader) : ring.used = reader.stream.length - reader.start := by
  rw [← Represents.length holds, reader.length_view]

end Holds

/-! ### One request -/

/-- A buffer never gets more than it has room for. -/
theorem toNat_nbytes (format : InFormat) (b : PwBuffer) :
    ∃ nframes, (nbytes format b).toNat = nframes * format.inStride.toNat ∧
      nframes * format.inStride.toNat ≤ b.maxsize.toNat := by
  have bounded : ∀ nframes : UInt32, nframes ≤ b.maxsize / format.inStride →
      (nframes * format.inStride).toNat = nframes.toNat * format.inStride.toNat ∧
        nframes.toNat * format.inStride.toNat ≤ b.maxsize.toNat := by
    intro nframes less
    have frames : nframes.toNat ≤ b.maxsize.toNat / format.inStride.toNat := by
      rw [← UInt32.toNat_div]
      exact UInt32.le_iff_toNat_le.mp less
    have inside : nframes.toNat * format.inStride.toNat ≤ b.maxsize.toNat :=
      (Nat.mul_le_mul_right _ frames).trans (Nat.div_mul_le_self _ _)
    have small := b.maxsize.toNat_lt
    exact ⟨by rw [UInt32.toNat_mul, Nat.mod_eq_of_lt (by omega)], inside⟩
  unfold nbytes
  dsimp only
  generalize (if b.requested ≠ 0 then b.requested.toUInt32 else b.maxsize / format.inStride) = asked
  by_cases more : asked > b.maxsize / format.inStride
  · rw [if_pos more]
    exact ⟨_, bounded _ UInt32.le_rfl⟩
  · rw [if_neg more]
    exact ⟨_, bounded _ (UInt32.not_lt.mp more)⟩

/-- What is at a pointer after `memset` up to the end. -/
theorem bytesAt_memset (dst : Nat → UInt8) {got size : Nat} (less : got ≤ size) :
    bytesAt (memset dst got (size - got)) size =
      bytesAt dst got ++ List.replicate (size - got) 0 := by
  obtain ⟨more, rfl⟩ := Nat.exists_eq_add_of_le less
  rw [Nat.add_sub_cancel_left, bytesAt, List.range_add, List.map_append, List.map_map]
  refine congrArg₂ _ (List.map_congr_left fun i inside => ?_) ?_
  · have := List.mem_range.mp inside
    exact if_neg (by omega)
  · refine List.eq_replicate_iff.mpr ⟨by rw [List.length_map, List.length_range], ?_⟩
    intro byte member
    obtain ⟨i, inside, rfl⟩ := List.mem_map.mp member
    have := List.mem_range.mp inside
    refine if_pos ⟨Nat.le_add_right got i, ?_⟩
    show got + i < got + more
    omega

/-- The buffer after a read of `got` of `nbytes` bytes. -/
def padded (dst : Nat → UInt8) (got nbytes : UInt32) : Nat → UInt8 :=
  if got < nbytes then memset dst got.toNat (nbytes - got).toNat else dst

theorem bytesAt_padded (dst : Nat → UInt8) {got nbytes : UInt32} (less : got ≤ nbytes) :
    bytesAt (padded dst got nbytes) nbytes.toNat =
      bytesAt dst got.toNat ++ List.replicate (nbytes.toNat - got.toNat) 0 := by
  have count := UInt32.le_iff_toNat_le.mp less
  have rest : (nbytes - got).toNat = nbytes.toNat - got.toNat := UInt32.toNat_sub_of_le _ _ less
  unfold padded
  by_cases short : got < nbytes
  · rw [if_pos short, rest, bytesAt_memset dst count]
  · have all : nbytes.toNat ≤ got.toNat := UInt32.le_iff_toNat_le.mp (UInt32.not_lt.mp short)
    rw [if_neg short, Nat.sub_eq_zero_of_le all, List.replicate_zero, List.append_nil,
      Nat.le_antisymm all count]

theorem padded_beyond (dst : Nat → UInt8) {got nbytes : UInt32} (less : got ≤ nbytes) {i : Nat}
    (beyond : nbytes.toNat ≤ i) : padded dst got nbytes i = dst i := by
  have count := UInt32.le_iff_toNat_le.mp less
  have rest : (nbytes - got).toNat = nbytes.toNat - got.toNat := UInt32.toNat_sub_of_le _ _ less
  unfold padded
  split
  · rw [rest]
    exact if_neg (by omega)
  · rfl

theorem ringRead_le (ring : RingT) (dst : Nat → UInt8) (n : UInt32) :
    (ringRead ring dst n).1 ≤ n := by
  refine UInt32.le_iff_toNat_le.mpr ?_
  rw [toNat_ringRead_count]
  exact Nat.min_le_left _ _

/-- Nothing is written behind the requested bytes. -/
theorem padded_read_beyond (ring : RingT) (data : Nat → UInt8) {size : UInt32} {i : Nat}
    (beyond : size.toNat ≤ i) :
    padded (ringRead ring data size).2.1 (ringRead ring data size).1 size i = data i := by
  have less := ringRead_le ring data size
  have outside : ¬ i < (ringRead ring data size).1.toNat :=
    not_lt.mpr ((UInt32.le_iff_toNat_le.mp less).trans beyond)
  rw [padded_beyond _ less beyond, ringRead_memory, readLoop_apply, if_neg outside]

/-- A mapped buffer gets what the ring has, and silence. -/
theorem onProcessCapture_mapped (format : InFormat) (ring : RingT) {b : PwBuffer}
    {data : Nat → UInt8} (mapped : b.data = some data) :
    onProcessCapture format ring (some b) =
      ((ringRead ring data (nbytes format b)).2.2, some (b,
        { data := padded (ringRead ring data (nbytes format b)).2.1
            (ringRead ring data (nbytes format b)).1 (nbytes format b)
          offset := 0, stride := format.inStride.toInt32, size := nbytes format b })) := by
  rw [onProcessCapture]
  simp only [mapped]
  rfl

/-- **One request.** The callback answers with the next cut of the pushed bytes. -/
theorem onProcessCapture_some {ring : RingT} {reader : Reader ringCap.toNat UInt8}
    (holds : Holds ring reader) (format : InFormat) {b : PwBuffer} {data : Nat → UInt8}
    (mapped : b.data = some data) :
    ∃ after filled, onProcessCapture format ring (some b) = (after, some (b, filled)) ∧
      Holds after (reader.read (nbytes format b).toNat) ∧
      Answered format reader.stream (reader.next (nbytes format b).toNat) (b, filled) := by
  obtain ⟨nframes, size, inside⟩ := toNat_nbytes format b
  obtain ⟨bytes, count, rest⟩ := holds.read data (nbytes format b)
  refine ⟨_, _, onProcessCapture_mapped format ring mapped, rest, rfl, ?_,
    ⟨nframes, by rw [size, Nat.mul_comm]⟩, ⟨rfl, rfl⟩, ?_, Reader.next_exhausted, ?_⟩
  · exact UInt32.le_iff_toNat_le.mpr (size.trans_le inside)
  · exact (bytesAt_padded _ (ringRead_le ring data _)).trans (congrArg₂ _ bytes (by rw [count]))
  · intro other same i beyond
    cases mapped.symm.trans same
    exact padded_read_beyond ring data beyond

/-! ### Runs -/

/-- What a cut holds does not change when more is pushed. -/
theorem Answered.append {format : InFormat} {captured : List UInt8} {cut : Cut ringCap.toNat}
    {served : PwBuffer × Filled} (answered : Answered format captured cut served)
    (known : cut.written ≤ captured.length) (src : List UInt8) :
    Answered format (captured ++ src) cut served :=
  { answered with pcm := by rw [answered.pcm, cut.segment_append known] }

/-- The invariant of a run: the buffers filled so far are cuts of the pushed bytes. -/
structure Steady (format : InFormat) (size : Nat) (side : CaptureSide)
    (reader : Reader ringCap.toNat UInt8) (cuts : List (Cut ringCap.toNat)) : Prop where
  holds : Holds side.capRing reader
  stream : reader.stream = side.captured
  served : Served reader cuts
  answered : List.Forall₂ (Answered format side.captured) cuts side.served
  standing : reader.Aligned size
  aligned : ∀ cut ∈ cuts, cut.Aligned size

theorem steady_start (format : InFormat) (size : Nat) (memory : Fin ringCap.toNat → UInt8) :
    Steady format size (CaptureSide.start memory) (Reader.empty _ _) [] :=
  ⟨holds_init memory, rfl, Served.nil _, List.Forall₂.nil, Reader.Aligned.empty, nofun⟩

namespace Steady

variable {format : InFormat} {size : Nat} {side : CaptureSide}
  {reader : Reader ringCap.toNat UInt8} {cuts : List (Cut ringCap.toNat)}

theorem push (steady : Steady format size side reader cuts) (wholeCapacity : size ∣ ringCap.toNat)
    {src : Nat → UInt8} {len : Int32} (whole : size ∣ (pushed src len).length) :
    Steady format size (side.step format (.push src len)) (reader.write (pushed src len))
      cuts := by
  refine ⟨?_, congrArg (· ++ _) steady.stream, steady.served.write _, ?_,
    steady.standing.write wholeCapacity whole, steady.aligned⟩
  · show Holds (wpwWriteCapture side.capRing src len).2 _
    rw [wpwWriteCapture]
    by_cases none : len ≤ 0
    · have nothing : pushed src len = [] := by
        have count : len.toNatClampNeg = 0 :=
          Int.toNat_of_nonpos (Int32.le_iff_toInt_le.mp none)
        rw [pushed, count]
        rfl
      rw [if_pos none, nothing]
      exact Eq.trans steady.holds reader.write_nil_view.symm
    · have positive : 0 ≤ len := Int32.le_of_lt (Int32.not_le.mp none)
      rw [if_neg none, pushed, ← Int32.toNat_toUInt32_of_le positive]
      exact steady.holds.write src len.toUInt32
  · have known : ∀ cut ∈ cuts, cut.written ≤ side.captured.length := by
      rw [← steady.stream]
      exact steady.served.known
    exact ((List.forall₂_and_left _ _).mpr ⟨known, steady.answered⟩).imp
      fun cut served both => both.2.append both.1 _

theorem process (steady : Steady format size side reader cuts)
    (wholeStride : size ∣ format.inStride.toNat) (b : Option PwBuffer) :
    ∃ reader cuts, Steady format size (side.step format (.process b)) reader cuts := by
  have passed : ∀ b, onProcessCapture format side.capRing b = (side.capRing, none) →
      Steady format size (side.step format (.process b)) reader cuts := by
    intro b same
    have step : side.step format (.process b) = side := by
      rw [CaptureSide.step, same]
      simp
    rw [step]
    exact steady
  cases b with
  | none => exact ⟨_, _, passed none rfl⟩
  | some b =>
    cases mapped : b.data with
    | none =>
      refine ⟨_, _, passed (some b) ?_⟩
      rw [onProcessCapture]
      simp only [mapped]
    | some data =>
      obtain ⟨after, filled, call, holds, answered⟩ :=
        onProcessCapture_some steady.holds format mapped
      obtain ⟨nframes, count, inside⟩ := toNat_nbytes format b
      have whole : size ∣ (nbytes format b).toNat := by
        rw [count]
        exact Nat.dvd_mul_left_of_dvd wholeStride nframes
      refine ⟨reader.read (nbytes format b).toNat,
        cuts ++ [reader.next (nbytes format b).toNat], ?_⟩
      rw [CaptureSide.step, call]
      rw [steady.stream] at answered
      refine ⟨holds, steady.stream, steady.served.read _, ?_, steady.standing.read whole, ?_⟩
      · exact List.rel_append steady.answered (List.Forall₂.cons answered List.Forall₂.nil)
      · intro cut member
        rcases List.mem_append.mp member with earlier | here
        · exact steady.aligned cut earlier
        · rw [List.mem_singleton.mp here]
          exact steady.standing.next whole

end Steady

/-- The run lemma. -/
theorem steady_run (format : InFormat) {size : Nat} (wholeCapacity : size ∣ ringCap.toNat)
    (wholeStride : size ∣ format.inStride.toNat) (memory : Fin ringCap.toNat → UInt8)
    {events : List CaptureEvent} (whole : ∀ event ∈ events, event.Whole size) :
    ∃ reader cuts, Steady format size (CaptureSide.run format memory events) reader cuts := by
  refine List.foldlRecOn (motive := fun side => ∃ reader cuts, Steady format size side reader cuts)
    events _ ⟨_, _, steady_start format size memory⟩ ?_
  rintro side ⟨reader, cuts, steady⟩ event member
  cases event with
  | push src len => exact ⟨_, _, steady.push wholeCapacity (whole _ member)⟩
  | process b => exact steady.process wholeStride b

end Wolverine.Bridge
