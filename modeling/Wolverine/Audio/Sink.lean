/-
**The sink process callback of `audio.rs`.**

PipeWire hands the callback a buffer; the callback writes the chunk of its first data block into
the playback ring and drops what does not fit.
-/

import Wolverine.Audio.Ring

namespace Wolverine.Audio

/-- Bytes a ring holds. -/
def ringCapacity : Nat := 256 * 1024

/-- One data block of a dequeued PipeWire buffer. -/
structure SpaData where
  /-- The mapped memory, if there is any. -/
  data : Option (List UInt8)
  /-- The size of the chunk. -/
  size : Nat
  /-- The offset of the chunk. -/
  offset : Nat
  deriving DecidableEq, Repr

/-- What `dequeue_buffer` returned: nothing, or the data blocks of a buffer. -/
abbrev Dequeued := Option (List SpaData)

/-- The slice that the callback writes, if it gets as far as writing. -/
def sinkSlice (buffer : Dequeued) : Option (List UInt8) := do
  let datas ← buffer
  let d ← datas.head?
  let slice ← d.data
  let stop := min (d.offset + d.size) slice.length
  if d.offset < stop then some ((slice.take stop).drop d.offset) else none

/-- The sink process callback. -/
def sinkProcess (buffer : Dequeued) (play : Ring ringCapacity UInt8) : Ring ringCapacity UInt8 :=
  match sinkSlice buffer with
  | some slice => (play.write slice).2
  | none => play

/-- The bytes a callback delivers. -/
def sinkBytes (buffer : Dequeued) : List UInt8 := (sinkSlice buffer).getD []

/-- The callback delivers a whole number of 4-byte stereo frames. -/
def WholeFrames (buffer : Dequeued) : Prop := 4 ∣ (sinkBytes buffer).length

/-- A callback that delivers whole frames. -/
theorem sinkProcess_flow {size : Nat} (positive : 0 < size) (wholeCapacity : size ∣ ringCapacity)
    {play : Ring ringCapacity UInt8} (aligned : size ∣ play.avail) {buffer : Dequeued}
    (whole : size ∣ (sinkBytes buffer).length) :
    Ring.Flow size play (sinkBytes buffer) [] (sinkProcess buffer play) := by
  unfold sinkBytes at whole ⊢
  unfold sinkProcess
  generalize sinkSlice buffer = offered at whole ⊢
  cases offered with
  | none => exact Ring.Flow.refl positive aligned
  | some slice => exact Ring.Flow.write positive wholeCapacity aligned whole

/-- A callback only adds to the ring. -/
theorem le_avail_sinkProcess (buffer : Dequeued) (play : Ring ringCapacity UInt8) :
    play.avail ≤ (sinkProcess buffer play).avail := by
  unfold sinkProcess
  split
  · rw [Ring.avail, Ring.avail, Ring.write_items, List.length_append]
    exact Nat.le_add_right _ _
  · exact le_rfl

end Wolverine.Audio
