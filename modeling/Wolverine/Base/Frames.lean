/-
**Streams cut into frames of a fixed size.**

A stream of samples carries meaning only frame by frame: a reader that slips by part of a frame
exchanges the channels. Two notions, over any element type:

* `Thinned size stream kept` — `kept` is `stream` with only whole frames removed, each one aligned
  to a frame boundary of `stream`. Nothing is reordered, repeated or shifted inside a frame. It is
  reflexive on aligned streams, transitive, and closed under concatenation and under cutting an
  aligned prefix or suffix.
* `Framed size P stream` — `stream` is a concatenation of frames that satisfy `P`; closed under
  concatenation and under cutting at a frame boundary.

`pieces size count buffer` cuts a buffer into its first `count` frames; on a buffer that starts
with that many frames it gives them back (`pieces_flatten`).
-/

import Mathlib.Tactic

namespace Wolverine.Frames

variable {α : Type} {size : Nat}

/-! ### Removing whole frames -/

/-- `kept` is `stream` with only whole, aligned frames removed. -/
inductive Thinned (size : Nat) : List α → List α → Prop
  | nil : Thinned size [] []
  | keep (frame : List α) {stream kept : List α} : frame.length = size →
      Thinned size stream kept → Thinned size (frame ++ stream) (frame ++ kept)
  | drop (frame : List α) {stream kept : List α} : frame.length = size →
      Thinned size stream kept → Thinned size (frame ++ stream) kept

/-- The first frame of a nonempty aligned stream. -/
theorem exists_frame (size : Nat) {stream : List α} (aligned : size ∣ stream.length)
    (nonempty : stream ≠ []) :
    ∃ frame rest, stream = frame ++ rest ∧ frame.length = size ∧ size ∣ rest.length := by
  have room : size ≤ stream.length :=
    Nat.le_of_dvd (List.length_pos_iff.mpr nonempty) aligned
  refine ⟨stream.take size, stream.drop size, (List.take_append_drop size stream).symm, ?_, ?_⟩
  · rw [List.length_take]
    omega
  · rw [List.length_drop]
    exact Nat.dvd_sub aligned (dvd_refl size)

/-- Induction on an aligned stream, one frame at a time. -/
theorem frame_induction {motive : List α → Prop} (positive : 0 < size) (nil : motive [])
    (frame : ∀ frame rest : List α, frame.length = size → size ∣ rest.length → motive rest →
      motive (frame ++ rest)) :
    ∀ stream : List α, size ∣ stream.length → motive stream := by
  intro stream
  induction length : stream.length using Nat.strong_induction_on generalizing stream with
  | _ total ih =>
    intro aligned
    by_cases empty : stream = []
    · rw [empty]
      exact nil
    · obtain ⟨first, rest, split, firstSize, restAligned⟩ :=
        exists_frame size (by rw [length]; exact aligned) empty
      have shorter : rest.length < total := by
        rw [← length, split, List.length_append]
        omega
      rw [split]
      exact frame first rest firstSize restAligned (ih rest.length shorter rest rfl restAligned)

namespace Thinned

theorem refl (positive : 0 < size) (stream : List α) (aligned : size ∣ stream.length) :
    Thinned size stream stream :=
  frame_induction (motive := fun stream => Thinned size stream stream) positive .nil
    (fun frame _ firstSize _ rest => .keep frame firstSize rest) stream aligned

/-- An aligned stream may lose all its frames. -/
theorem drop_all (positive : 0 < size) (stream : List α) (aligned : size ∣ stream.length) :
    Thinned size stream [] :=
  frame_induction (motive := fun stream => Thinned size stream []) positive .nil
    (fun frame _ firstSize _ rest => .drop frame firstSize rest) stream aligned

theorem append {first second firstKept secondKept : List α}
    (left : Thinned size first firstKept) (right : Thinned size second secondKept) :
    Thinned size (first ++ second) (firstKept ++ secondKept) := by
  induction left with
  | nil => exact right
  | keep frame frameSize _ ih =>
    rw [List.append_assoc, List.append_assoc]
    exact .keep frame frameSize ih
  | drop frame frameSize _ ih =>
    rw [List.append_assoc]
    exact .drop frame frameSize ih

/-- What is kept of an aligned stream is aligned. -/
theorem kept_aligned {stream kept : List α} (thinned : Thinned size stream kept) :
    size ∣ kept.length := by
  induction thinned with
  | nil => exact dvd_zero size
  | keep frame frameSize _ ih =>
    rw [List.length_append, frameSize]
    exact Nat.dvd_add (dvd_refl size) ih
  | drop _ _ _ ih => exact ih

theorem eq_nil {kept : List α} (positive : 0 < size) (thinned : Thinned size [] kept) :
    kept = [] := by
  generalize empty : ([] : List α) = stream at thinned
  cases thinned with
  | nil => rfl
  | keep frame frameSize _ =>
    have none : frame = [] := (List.append_eq_nil_iff.mp empty.symm).1
    rw [none, List.length_nil] at frameSize
    omega
  | drop frame frameSize _ =>
    have none : frame = [] := (List.append_eq_nil_iff.mp empty.symm).1
    rw [none, List.length_nil] at frameSize
    omega

/-- Thinning a stream that starts with a frame either keeps that frame or drops it. -/
theorem frame_cases {frame stream kept : List α} (frameSize : frame.length = size)
    (positive : 0 < size) (thinned : Thinned size (frame ++ stream) kept) :
    (∃ rest, kept = frame ++ rest ∧ Thinned size stream rest) ∨ Thinned size stream kept := by
  generalize whole : frame ++ stream = input at thinned
  cases thinned with
  | nil =>
    have none : frame = [] := (List.append_eq_nil_iff.mp whole).1
    rw [none, List.length_nil] at frameSize
    omega
  | keep first firstSize rest =>
    obtain ⟨rfl, rfl⟩ := List.append_inj whole (by rw [frameSize, firstSize])
    exact Or.inl ⟨_, rfl, rest⟩
  | drop first firstSize rest =>
    obtain ⟨rfl, rfl⟩ := List.append_inj whole (by rw [frameSize, firstSize])
    exact Or.inr rest

/-- Removing frames twice removes frames. -/
theorem trans {stream middle kept : List α} (positive : 0 < size)
    (first : Thinned size stream middle) (second : Thinned size middle kept) :
    Thinned size stream kept := by
  induction first generalizing kept with
  | nil =>
    rw [eq_nil positive second]
    exact .nil
  | keep frame frameSize _ ih =>
    rcases frame_cases frameSize positive second with ⟨rest, rfl, thinned⟩ | thinned
    · exact .keep frame frameSize (ih thinned)
    · exact .drop frame frameSize (ih thinned)
  | drop frame frameSize _ ih => exact .drop frame frameSize (ih second)

theorem dvd_length_drop {stream : List α} {count : Nat} (aligned : size ∣ stream.length)
    (cut : size ∣ (stream.take count).length) : size ∣ (stream.drop count).length := by
  have total : stream.length = (stream.take count).length + (stream.drop count).length := by
    rw [← List.length_append, List.take_append_drop]
  exact (Nat.dvd_add_right cut).mp (total ▸ aligned)

/-- Only an aligned prefix of an aligned stream is kept. -/
theorem take (positive : 0 < size) {stream : List α} {count : Nat}
    (aligned : size ∣ stream.length) (cut : size ∣ (stream.take count).length) :
    Thinned size stream (stream.take count) := by
  have rest := dvd_length_drop aligned cut
  have joined := (refl positive _ cut).append (drop_all positive _ rest)
  rwa [List.take_append_drop, List.append_nil] at joined

/-- An aligned prefix of an aligned stream is removed. -/
theorem drop_prefix (positive : 0 < size) {stream : List α} {count : Nat}
    (aligned : size ∣ stream.length) (cut : size ∣ (stream.take count).length) :
    Thinned size stream (stream.drop count) := by
  have rest := dvd_length_drop aligned cut
  have joined := (drop_all positive _ cut).append (refl positive _ rest)
  rwa [List.take_append_drop, List.nil_append] at joined

/-- An aligned prefix of what is kept. -/
theorem left {stream kept rest : List α} (positive : 0 < size)
    (thinned : Thinned size stream (kept ++ rest)) (aligned : size ∣ kept.length) :
    Thinned size stream kept := by
  have cut : (kept ++ rest).take kept.length = kept := List.take_left
  have shorter : Thinned size (kept ++ rest) ((kept ++ rest).take kept.length) :=
    take positive thinned.kept_aligned (by rw [cut]; exact aligned)
  rw [cut] at shorter
  exact thinned.trans positive shorter

end Thinned

/-! ### Streams of good frames -/

/-- Frames laid end to end. -/
theorem length_flatten {frames : List (List α)} (sizes : ∀ frame ∈ frames, frame.length = size) :
    frames.flatten.length = frames.length * size := by
  rw [List.length_flatten, List.sum_eq_card_nsmul _ size, List.length_map, smul_eq_mul]
  intro total member
  obtain ⟨frame, inside, rfl⟩ := List.mem_map.mp member
  exact sizes frame inside

/-- The stream is a concatenation of frames of the given size that satisfy `P`. -/
def Framed (size : Nat) (P : List α → Prop) (stream : List α) : Prop :=
  ∃ frames : List (List α), stream = frames.flatten ∧
    ∀ frame ∈ frames, frame.length = size ∧ P frame

namespace Framed

variable {P : List α → Prop}

theorem nil : Framed size P ([] : List α) := ⟨[], rfl, by simp⟩

theorem mono {Q : List α → Prop} (weaker : ∀ frame, P frame → Q frame) {stream : List α}
    (framed : Framed size P stream) : Framed size Q stream := by
  obtain ⟨frames, rfl, good⟩ := framed
  exact ⟨frames, rfl, fun frame member => ⟨(good frame member).1, weaker _ (good frame member).2⟩⟩

theorem single {frame : List α} (frameSize : frame.length = size) (good : P frame) :
    Framed size P frame := by
  refine ⟨[frame], by rw [List.flatten_singleton], fun other member => ?_⟩
  rw [List.mem_singleton.mp member]
  exact ⟨frameSize, good⟩

/-- The first frame of a framed stream. -/
theorem first {stream : List α} (framed : Framed size P stream) (nonempty : stream ≠ []) :
    P (stream.take size) := by
  obtain ⟨frames, rfl, good⟩ := framed
  cases frames with
  | nil => exact absurd rfl nonempty
  | cons frame rest =>
    obtain ⟨frameSize, holds⟩ := good frame List.mem_cons_self
    rw [List.flatten_cons, ← frameSize, List.take_left]
    exact holds

theorem append {first second : List α} (left : Framed size P first) (right : Framed size P second) :
    Framed size P (first ++ second) := by
  obtain ⟨frames, rfl, good⟩ := left
  obtain ⟨others, rfl, goodOthers⟩ := right
  refine ⟨frames ++ others, (List.flatten_append).symm, fun frame member => ?_⟩
  rcases List.mem_append.mp member with inFirst | inSecond
  · exact good frame inFirst
  · exact goodOthers frame inSecond

theorem aligned {stream : List α} (framed : Framed size P stream) : size ∣ stream.length := by
  obtain ⟨frames, rfl, good⟩ := framed
  rw [length_flatten fun frame member => (good frame member).1]
  exact Dvd.intro_left frames.length rfl

/-- Cutting at a frame boundary leaves good frames on both sides. -/
theorem cut {stream : List α} (framed : Framed size P stream) (count : Nat) :
    Framed size P (stream.take (size * count)) ∧ Framed size P (stream.drop (size * count)) := by
  obtain ⟨frames, rfl, good⟩ := framed
  induction count generalizing frames with
  | zero =>
    rw [Nat.mul_zero, List.take_zero, List.drop_zero]
    exact ⟨nil, frames, rfl, good⟩
  | succ count ih =>
    cases frames with
    | nil =>
      rw [List.flatten_nil, List.take_nil, List.drop_nil]
      exact ⟨nil, nil⟩
    | cons frame rest =>
      have frameSize := (good frame List.mem_cons_self).1
      have next := ih rest fun other member => good other (List.mem_cons_of_mem _ member)
      have past : size * (count + 1) = frame.length + size * count := by rw [frameSize]; ring
      have head : Framed size P frame := single frameSize (good frame List.mem_cons_self).2
      rw [List.flatten_cons, past, List.take_length_add_append, List.drop_length_add_append]
      exact ⟨head.append next.1, next.2⟩

theorem take {stream : List α} {count : Nat} (framed : Framed size P stream)
    (boundary : size ∣ count) : Framed size P (stream.take count) := by
  obtain ⟨frames, rfl⟩ := boundary
  exact (framed.cut frames).1

theorem drop {stream : List α} {count : Nat} (framed : Framed size P stream)
    (boundary : size ∣ count) : Framed size P (stream.drop count) := by
  obtain ⟨frames, rfl⟩ := boundary
  exact (framed.cut frames).2

end Framed

/-! ### Cutting a buffer -/

/-- The first `count` frames of a buffer. -/
def pieces (size count : Nat) (buffer : List α) : List (List α) :=
  (List.range count).map fun i => (buffer.drop (i * size)).take size

/-- The frames at the front of a buffer are its first pieces. -/
theorem pieces_flatten {frames : List (List α)} (sizes : ∀ frame ∈ frames, frame.length = size)
    (rest : List α) : pieces size frames.length (frames.flatten ++ rest) = frames := by
  induction frames with
  | nil => rfl
  | cons frame others ih =>
    have frameSize := sizes frame List.mem_cons_self
    have next := ih fun other member => sizes other (List.mem_cons_of_mem _ member)
    rw [pieces, List.length_cons, List.range_succ_eq_map, List.map_cons, List.map_map,
      List.flatten_cons, List.append_assoc]
    refine congrArg₂ List.cons ?_ ?_
    · rw [Nat.zero_mul, List.drop_zero, ← frameSize, List.take_left]
    · refine Eq.trans (List.map_congr_left fun i _ => ?_) next
      show ((frame ++ (others.flatten ++ rest)).drop ((i + 1) * size)).take size = _
      rw [show (i + 1) * size = frame.length + i * size by rw [frameSize]; ring,
        List.drop_length_add_append]

end Wolverine.Frames
