/-
**The byte rings of `ring.rs`.**

A ring is an atomic single-producer, single-consumer FIFO of fixed capacity; the capacity bound is
part of the type. It is generic in its elements, as the ring crate is. The producer drops the
newest elements when the ring is full (`write` keeps the longest prefix that fits), the consumer
takes or discards the oldest (`read`, `skip`).

`Flow size ring delivered taken after` — from `ring`, with `delivered` handed to the producer and
`taken` read by the consumer, the ring ends as `after`, and `taken` followed by what is left is the
old content followed by `delivered` with only whole aligned frames removed. Flows compose
(`Flow.trans`), and every operation is one when sizes are whole numbers of frames.
-/

import Wolverine.Base.Frames

namespace Wolverine.Audio

open Wolverine.Frames

/-- The content of a ring, oldest first. -/
structure Ring (capacity : Nat) (α : Type) where
  items : List α
  fits : items.length ≤ capacity

namespace Ring

variable {capacity : Nat} {α : Type}

/-- An empty ring. -/
def new (capacity : Nat) (α : Type) : Ring capacity α := ⟨[], Nat.zero_le capacity⟩

/-- Bytes available to read. -/
def avail (ring : Ring capacity α) : Nat := ring.items.length

/-- Free slots. -/
def space (ring : Ring capacity α) : Nat := capacity - ring.items.length

/-- Write as much of `src` as fits; returns how much was written. -/
def write (ring : Ring capacity α) (src : List α) : Nat × Ring capacity α :=
  ((src.take ring.space).length, ⟨ring.items ++ src.take ring.space, by
    have old := ring.fits
    rw [List.length_append, List.length_take, space]
    omega⟩)

/-- Read up to `count` elements. -/
def read (ring : Ring capacity α) (count : Nat) : List α × Ring capacity α :=
  (ring.items.take count, ⟨ring.items.drop count, by
    have old := ring.fits
    rw [List.length_drop]
    omega⟩)

/-- Discard up to `count` of the oldest elements; returns how many were discarded. -/
def skip (ring : Ring capacity α) (count : Nat) : Nat × Ring capacity α :=
  let n := min count ring.avail
  (n, ⟨ring.items.drop n, by
    have old := ring.fits
    rw [List.length_drop]
    omega⟩)

@[simp] theorem write_items (ring : Ring capacity α) (src : List α) :
    (ring.write src).2.items = ring.items ++ src.take ring.space := rfl

@[simp] theorem read_fst (ring : Ring capacity α) (count : Nat) :
    (ring.read count).1 = ring.items.take count := rfl

@[simp] theorem read_items (ring : Ring capacity α) (count : Nat) :
    (ring.read count).2.items = ring.items.drop count := rfl

@[simp] theorem skip_items (ring : Ring capacity α) (count : Nat) :
    (ring.skip count).2.items = ring.items.drop count :=
  List.drop_eq_drop_min.symm

theorem avail_le (ring : Ring capacity α) : ring.avail ≤ capacity := ring.fits

/-- A write that fits is kept whole. -/
theorem write_items_of_fits {ring : Ring capacity α} {src : List α}
    (room : src.length ≤ ring.space) : (ring.write src).2.items = ring.items ++ src := by
  rw [write_items, List.take_of_length_le room]

/-- Whole frames in, whole frames written: the free space is a whole number of frames. -/
theorem space_aligned {size : Nat} (wholeCapacity : size ∣ capacity) {ring : Ring capacity α}
    (aligned : size ∣ ring.avail) : size ∣ ring.space := Nat.dvd_sub wholeCapacity aligned

/-! ### Flows -/

/-- What was delivered and what was taken between two states of the ring. -/
structure Flow (size : Nat) (ring : Ring capacity α) (delivered taken : List α)
    (after : Ring capacity α) : Prop where
  wholeDelivered : size ∣ delivered.length
  wholeTaken : size ∣ taken.length
  aligned : size ∣ after.avail
  thinned : Thinned size (ring.items ++ delivered) (taken ++ after.items)

/-- A list cut at a multiple of the frame size, or past its end, is cut between frames. -/
theorem take_aligned {size count : Nat} {stream : List α} (aligned : size ∣ stream.length)
    (boundary : size ∣ count) : size ∣ (stream.take count).length := by
  rw [List.length_take]
  rcases Nat.le_total count stream.length with inside | beyond
  · rw [Nat.min_eq_left inside]
    exact boundary
  · rw [Nat.min_eq_right beyond]
    exact aligned

theorem drop_aligned {size count : Nat} {stream : List α} (aligned : size ∣ stream.length)
    (boundary : size ∣ count) : size ∣ (stream.drop count).length := by
  rw [List.length_drop]
  exact Nat.dvd_sub aligned boundary

namespace Flow

variable {size : Nat} {ring middle after : Ring capacity α}

theorem refl (positive : 0 < size) (aligned : size ∣ ring.avail) : Flow size ring [] [] ring :=
  ⟨dvd_zero size, dvd_zero size, aligned, by
    rw [List.append_nil]
    exact Thinned.refl positive ring.items aligned⟩

/-- **Flows compose.** -/
theorem trans (positive : 0 < size) {delivered taken moreDelivered moreTaken : List α}
    (first : Flow size ring delivered taken middle)
    (second : Flow size middle moreDelivered moreTaken after) :
    Flow size ring (delivered ++ moreDelivered) (taken ++ moreTaken) after := by
  refine ⟨?_, ?_, second.aligned, ?_⟩
  · rw [List.length_append]
    exact Nat.dvd_add first.wholeDelivered second.wholeDelivered
  · rw [List.length_append]
    exact Nat.dvd_add first.wholeTaken second.wholeTaken
  · have start := first.thinned.append (Thinned.refl positive moreDelivered second.wholeDelivered)
    have rest := (Thinned.refl positive taken first.wholeTaken).append second.thinned
    rw [List.append_assoc, List.append_assoc] at start
    rw [List.append_assoc]
    exact start.trans positive rest

/-- From an empty ring, what was taken is what was delivered, thinned. -/
theorem sent (positive : 0 < size) {delivered taken : List α}
    (flow : Flow size (new capacity α) delivered taken after) : Thinned size delivered taken :=
  Thinned.left positive flow.thinned flow.wholeTaken

/-- The producer writes whole frames: what does not fit is dropped, frame by frame. -/
theorem write (positive : 0 < size) (wholeCapacity : size ∣ capacity)
    (aligned : size ∣ ring.avail) {src : List α} (whole : size ∣ src.length) :
    Flow size ring src [] (ring.write src).2 := by
  have cut := take_aligned whole (space_aligned wholeCapacity aligned)
  refine ⟨whole, dvd_zero size, ?_, ?_⟩
  · rw [avail, write_items, List.length_append]
    exact Nat.dvd_add aligned cut
  · rw [List.nil_append, write_items]
    exact (Thinned.refl positive ring.items aligned).append (Thinned.take positive whole cut)

/-- The consumer reads whole frames. -/
theorem read (positive : 0 < size) (aligned : size ∣ ring.avail) {count : Nat}
    (whole : size ∣ count) : Flow size ring [] (ring.read count).1 (ring.read count).2 := by
  refine ⟨dvd_zero size, take_aligned aligned whole, drop_aligned aligned whole, ?_⟩
  rw [List.append_nil, read_fst, read_items, List.take_append_drop]
  exact Thinned.refl positive ring.items aligned

/-- The consumer discards whole frames. -/
theorem skip (positive : 0 < size) (aligned : size ∣ ring.avail) {count : Nat}
    (whole : size ∣ count) : Flow size ring [] [] (ring.skip count).2 := by
  refine ⟨dvd_zero size, dvd_zero size, ?_, ?_⟩
  · rw [avail, skip_items]
    exact drop_aligned aligned whole
  · rw [List.append_nil, List.nil_append, skip_items]
    exact Thinned.drop_prefix positive aligned (take_aligned aligned whole)

end Flow

end Ring

end Wolverine.Audio
