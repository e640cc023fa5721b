/-
**Reading the tail of a growing stream.**

A stream grows at its end, and only its last `capacity` elements can still be read. A `Reader` is
the stream so far with the place that was reached in it; the reads of a run are `Cut`s of the
stream.

* `Reader.write_view`, `Reader.read_view` — what can still be read is a bounded queue that keeps
  the latest.
* `Served` — the invariant of a run: the cuts are apart and in order, and each lies in the tail that
  the stream had at its time. `Served.write`, `Served.read` keep it.
* `Served.thinned` — so what the cuts hold, one after the other, is the stream with only whole
  frames removed, if everything is measured in whole frames.
-/

import Wolverine.Base.Cyclic
import Wolverine.Base.Frames

namespace Wolverine.Tail

open Wolverine.Cyclic Wolverine.Frames

variable {capacity : Nat} {α : Type}

/-- A stream, and the place in it that its reader has reached. -/
structure Reader (capacity : Nat) (α : Type) where
  stream : List α
  start : Nat
  inside : start ≤ stream.length
  recent : stream.length ≤ start + capacity

/-- A segment that was read of a stream of length `written`. -/
structure Cut (capacity : Nat) where
  start : Nat
  stop : Nat
  written : Nat
  forwards : start ≤ stop
  inside : stop ≤ written
  recent : written ≤ start + capacity

/-- What a cut holds. -/
def Cut.segment (cut : Cut capacity) (stream : List α) : List α :=
  (stream.take cut.stop).drop cut.start

/-- The size of a cut. -/
def Cut.size (cut : Cut capacity) : Nat := cut.stop - cut.start

/-- A cut between frames. -/
structure Cut.Aligned (size : Nat) (cut : Cut capacity) : Prop where
  start : size ∣ cut.start
  stop : size ∣ cut.stop

namespace Reader

/-- Nothing was written yet. -/
def empty (capacity : Nat) (α : Type) : Reader capacity α := ⟨[], 0, le_rfl, Nat.zero_le _⟩

/-- The stream grows; what no longer lies in its tail is lost. -/
def write (reader : Reader capacity α) (src : List α) : Reader capacity α where
  stream := reader.stream ++ src
  start := max reader.start (reader.stream.length + src.length - capacity)
  inside := by
    have := reader.inside
    rw [List.length_append]
    omega
  recent := by
    rw [List.length_append]
    omega

/-- The cut that a read of up to `count` elements takes. -/
def next (reader : Reader capacity α) (count : Nat) : Cut capacity where
  start := reader.start
  stop := min (reader.start + count) reader.stream.length
  written := reader.stream.length
  forwards := by
    have := reader.inside
    omega
  inside := Nat.min_le_right _ _
  recent := reader.recent

/-- The reader behind that cut. -/
def read (reader : Reader capacity α) (count : Nat) : Reader capacity α where
  stream := reader.stream
  start := (reader.next count).stop
  inside := (reader.next count).inside
  recent := reader.recent.trans (Nat.add_le_add_right (reader.next count).forwards _)

/-- What can still be read. -/
def view (reader : Reader capacity α) : Queue capacity α where
  items := reader.stream.drop reader.start
  fits := by
    have := reader.recent
    rw [List.length_drop]
    omega

@[simp] theorem write_stream (reader : Reader capacity α) (src : List α) :
    (reader.write src).stream = reader.stream ++ src := rfl

@[simp] theorem read_stream (reader : Reader capacity α) (count : Nat) :
    (reader.read count).stream = reader.stream := rfl

theorem length_view (reader : Reader capacity α) :
    reader.view.items.length = reader.stream.length - reader.start := List.length_drop

/-- **A write keeps the latest.** -/
theorem write_view (reader : Reader capacity α) (src : List α) :
    (reader.write src).view.items = (reader.view.write src).items := by
  have inside := reader.inside
  show (reader.stream ++ src).drop (max reader.start _) =
    (reader.stream.drop reader.start ++ src).rtake capacity
  rw [List.rtake, ← List.drop_append_of_le_length inside, List.drop_drop, List.length_drop,
    List.length_append]
  exact congrArg (List.drop · _) (by omega)

theorem write_nil_view (reader : Reader capacity α) :
    (reader.write []).view.items = reader.view.items := by
  rw [write_view, Queue.write_items, List.append_nil, List.rtake,
    Nat.sub_eq_zero_of_le reader.view.fits, List.drop_zero]

/-- A read returns what its cut holds. -/
theorem segment_next (reader : Reader capacity α) (count : Nat) :
    (reader.next count).segment reader.stream = (reader.view.read count).1 := by
  show (reader.stream.take (min (reader.start + count) reader.stream.length)).drop reader.start =
    (reader.stream.drop reader.start).take count
  rw [← List.take_eq_take_min, ← List.take_drop]

/-- **A read leaves the rest.** -/
theorem read_view (reader : Reader capacity α) (count : Nat) :
    (reader.read count).view.items = (reader.view.read count).2.items := by
  show reader.stream.drop (min (reader.start + count) reader.stream.length) =
    (reader.stream.drop reader.start).drop count
  rw [← List.drop_eq_drop_min, List.drop_drop]

theorem size_next (reader : Reader capacity α) (count : Nat) :
    (reader.next count).size = min count (reader.stream.length - reader.start) := by
  have inside := reader.inside
  show min (reader.start + count) reader.stream.length - reader.start = _
  omega

/-- A read that returns less than it was asked for has reached the end of the stream. -/
theorem next_exhausted {reader : Reader capacity α} {count : Nat}
    (short : (reader.next count).size < count) :
    (reader.next count).stop = (reader.next count).written := by
  rw [size_next] at short
  show min (reader.start + count) reader.stream.length = reader.stream.length
  omega

/-- The reader stands between frames, and the stream ends there. -/
structure Aligned (size : Nat) (reader : Reader capacity α) : Prop where
  start : size ∣ reader.start
  stream : size ∣ reader.stream.length

namespace Aligned

variable {size : Nat} {reader : Reader capacity α}

theorem empty : Aligned size (empty capacity α) := ⟨dvd_zero size, dvd_zero size⟩

theorem write (aligned : Aligned size reader) (wholeCapacity : size ∣ capacity) {src : List α}
    (whole : size ∣ src.length) : Aligned size (reader.write src) := by
  have total : size ∣ reader.stream.length + src.length := Nat.dvd_add aligned.stream whole
  have start : (reader.write src).start =
      max reader.start (reader.stream.length + src.length - capacity) := rfl
  refine ⟨?_, by rwa [write_stream, List.length_append]⟩
  rcases max_choice reader.start (reader.stream.length + src.length - capacity) with old | new
  · rw [start, old]
    exact aligned.start
  · rw [start, new]
    exact Nat.dvd_sub total wholeCapacity

theorem next (aligned : Aligned size reader) {count : Nat} (whole : size ∣ count) :
    (reader.next count).Aligned size := by
  have stop : (reader.next count).stop = min (reader.start + count) reader.stream.length := rfl
  refine ⟨aligned.start, ?_⟩
  rcases min_choice (reader.start + count) reader.stream.length with all | rest
  · rw [stop, all]
    exact Nat.dvd_add aligned.start whole
  · rw [stop, rest]
    exact aligned.stream

theorem read (aligned : Aligned size reader) {count : Nat} (whole : size ∣ count) :
    Aligned size (reader.read count) :=
  ⟨(aligned.next whole).stop, aligned.stream⟩

end Aligned

end Reader

/-! ### The cuts of a run -/

/-- What was read up to now. -/
structure Served (reader : Reader capacity α) (cuts : List (Cut capacity)) : Prop where
  apart : cuts.Pairwise fun earlier later => earlier.stop ≤ later.start
  behind : ∀ cut ∈ cuts, cut.stop ≤ reader.start
  known : ∀ cut ∈ cuts, cut.written ≤ reader.stream.length

/-- What a cut holds does not change any more. -/
theorem Cut.segment_append (cut : Cut capacity) {stream : List α}
    (known : cut.written ≤ stream.length) (src : List α) :
    cut.segment (stream ++ src) = cut.segment stream := by
  rw [segment, segment, List.take_append_of_le_length (cut.inside.trans known)]

theorem Cut.length_segment (cut : Cut capacity) {stream : List α}
    (known : cut.written ≤ stream.length) : (cut.segment stream).length = cut.size := by
  have := cut.inside
  rw [segment, size, List.length_drop, List.length_take]
  omega

namespace Served

variable {reader : Reader capacity α} {cuts : List (Cut capacity)}

theorem nil (reader : Reader capacity α) : Served reader [] :=
  ⟨List.Pairwise.nil, nofun, nofun⟩

theorem write (served : Served reader cuts) (src : List α) : Served (reader.write src) cuts where
  apart := served.apart
  behind cut member := (served.behind cut member).trans (le_max_left _ _)
  known cut member := by
    rw [Reader.write_stream, List.length_append]
    exact Nat.le_add_right_of_le (served.known cut member)

/-- **A read adds the next cut.** -/
theorem read (served : Served reader cuts) (count : Nat) :
    Served (reader.read count) (cuts ++ [reader.next count]) := by
  refine ⟨List.pairwise_append.mpr ⟨served.apart, List.pairwise_singleton _ _, ?_⟩, ?_, ?_⟩
  · intro earlier member later here
    rw [List.mem_singleton.mp here]
    exact served.behind earlier member
  · intro cut member
    rcases List.mem_append.mp member with earlier | here
    · exact (served.behind cut earlier).trans (reader.next count).forwards
    · rw [List.mem_singleton.mp here]
      exact le_rfl
  · intro cut member
    rcases List.mem_append.mp member with earlier | here
    · exact served.known cut earlier
    · rw [List.mem_singleton.mp here]
      exact le_rfl

end Served

/-- Cuts that are apart and between frames only remove whole frames. -/
theorem thinned_segments {size : Nat} (positive : 0 < size) {stream : List α}
    (whole : size ∣ stream.length) :
    ∀ (cuts : List (Cut capacity)) (done : Nat), size ∣ done → done ≤ stream.length →
      (∀ cut ∈ cuts, done ≤ cut.start ∧ cut.written ≤ stream.length ∧ cut.Aligned size) →
      cuts.Pairwise (fun earlier later => earlier.stop ≤ later.start) →
      Thinned size (stream.drop done) (cuts.flatMap (·.segment stream)) := by
  intro cuts
  induction cuts with
  | nil =>
    intro done boundary _ _ _
    refine Thinned.drop_all positive _ ?_
    rw [List.length_drop]
    exact Nat.dvd_sub whole boundary
  | cons cut rest ih =>
    intro done boundary inside behind apart
    obtain ⟨after, known, aligned⟩ := behind cut List.mem_cons_self
    obtain ⟨first, apart⟩ := List.pairwise_cons.mp apart
    have cutInside := cut.inside
    have forwards := cut.forwards
    have later := ih cut.stop aligned.stop (by omega)
      (fun other member => ⟨first other member, (behind other (List.mem_cons_of_mem _ member)).2⟩)
      apart
    -- what is skipped, what the cut holds, what comes later
    have split : stream.drop done =
        (stream.take cut.start).drop done ++ (cut.segment stream ++ stream.drop cut.stop) := by
      have front : cut.segment stream ++ stream.drop cut.stop = stream.drop cut.start := by
        conv_rhs => rw [← List.take_append_drop cut.stop stream]
        rw [List.drop_append_of_le_length (by rw [List.length_take]; omega), Cut.segment]
      conv_lhs => rw [← List.take_append_drop cut.start stream]
      rw [List.drop_append_of_le_length (by rw [List.length_take]; omega), front]
    have skipped : size ∣ ((stream.take cut.start).drop done).length := by
      rw [List.length_drop, List.length_take, Nat.min_eq_left (by omega)]
      exact Nat.dvd_sub aligned.start boundary
    have held : size ∣ (cut.segment stream).length := by
      rw [cut.length_segment known]
      exact Nat.dvd_sub aligned.stop aligned.start
    rw [split, List.flatMap_cons, ← List.nil_append (cut.segment stream ++ rest.flatMap _)]
    exact (Thinned.drop_all positive _ skipped).append
      ((Thinned.refl positive _ held).append later)

/-- **What was read is the stream with only whole frames removed.** -/
theorem Served.thinned {reader : Reader capacity α} {cuts : List (Cut capacity)}
    (served : Served reader cuts) {size : Nat} (positive : 0 < size)
    (whole : size ∣ reader.stream.length) (aligned : ∀ cut ∈ cuts, cut.Aligned size) :
    Thinned size reader.stream (cuts.flatMap (·.segment reader.stream)) :=
  thinned_segments positive whole cuts 0 (dvd_zero size) (Nat.zero_le _)
    (fun cut member => ⟨Nat.zero_le _, served.known cut member, aligned cut member⟩) served.apart

end Wolverine.Tail
