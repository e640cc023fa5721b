/-
**The source process callback of `audio.rs`: what it writes.**

The callback trims the capture ring, reads into the mapped memory of the first data block and fills
up to the served size with zeros; the rest of the memory is left alone.

* `sourceTrim_spares` — the trim leaves what the read takes, as far as there was as much.
* `fillSlice_memory` — the served bytes: the oldest that survive the trim, then zeros.
* `source_fills` — the callback as a whole.
-/

import Wolverine.Audio.Source
import Wolverine.Base.Overlay

namespace Wolverine.Audio

open Wolverine.Rust Wolverine.Overlay

/-! ### The callback -/

/-- A dequeued buffer: the frames PipeWire requests, and the mapped memory of each data block, if
there is any. -/
structure MappedBuffer where
  requested : Nat
  datas : List (Option (List UInt8))
  deriving DecidableEq, Repr

/-- The chunk of a data block. -/
structure Chunk where
  offset : Nat
  stride : Int
  size : Nat
  deriving DecidableEq, Repr

/-- The first data block after the callback. -/
structure SourceFill where
  memory : Option (List UInt8)
  chunk : Chunk
  deriving DecidableEq, Repr

/-- Trim the ring, read `want` bytes to the start of the mapped memory, and fill up with zeros. -/
def fillSlice (config : SourceConfig) (want : Nat) (slice : List UInt8)
    (cap : Ring ringCapacity UInt8) : List UInt8 × Ring ringCapacity UInt8 :=
  let cap :=
    match sourceTrim config want cap.avail with
    | some excess => (cap.skip excess).2
    | none => cap
  let (pcm, cap) := cap.read want
  let got := pcm.length
  let slice := overlay slice 0 pcm
  (overlay slice got (List.replicate (want - got) 0), cap)

/-- The chunk the callback leaves. -/
def sourceChunk (config : SourceConfig) (want : Nat) : Chunk where
  offset := 0
  stride := Int.bmod config.inStride u32Size   -- `in_stride as i32`
  size := want % u32Size   -- `want as u32`

/-- The source process callback; no data block is touched when there is none. -/
def sourceProcess (profile : Profile) (config : SourceConfig) (buffer : Option MappedBuffer)
    (cap : Ring ringCapacity UInt8) :
    Except Panic (Option SourceFill × Ring ringCapacity UInt8) :=
  match buffer with
  | none => .ok (none, cap)
  | some buffer =>
    match buffer.datas with
    | [] => .ok (none, cap)
    | none :: _ => .ok (some { memory := none, chunk := sourceChunk config 0 }, cap)
    | some slice :: _ => do
      let want ← sourceWant config profile buffer.requested slice.length
      let (slice, cap) := fillSlice config want slice cap
      return (some { memory := some slice, chunk := sourceChunk config want }, cap)

/-! ### How much -/

variable {config : SourceConfig}

/-- The bytes that a request of `requested` frames is served from `len` mapped bytes. -/
def servedBytes (config : SourceConfig) (requested len : Nat) : Nat :=
  if 0 < requested then
    min (requested * config.inStride) (len / config.inStride * config.inStride)
  else len / config.inStride * config.inStride

theorem sourceWant_eq (profile : Profile) {requested : Nat}
    (fits : requested * config.inStride < usizeSize) (len : Nat) :
    sourceWant config profile requested len = .ok (servedBytes config requested len) := by
  unfold sourceWant servedBytes mulUsize
  rw [if_pos fits]
  split <;> rfl

/-- Whole frames are served. -/
theorem inStride_dvd_servedBytes (requested len : Nat) :
    config.inStride ∣ servedBytes config requested len := by
  have buffer : config.inStride ∣ len / config.inStride * config.inStride := Dvd.intro_left _ rfl
  have request : config.inStride ∣ requested * config.inStride := Dvd.intro_left _ rfl
  unfold servedBytes
  split
  · rcases Nat.le_total (requested * config.inStride) (len / config.inStride * config.inStride)
      with less | more
    · rwa [Nat.min_eq_left less]
    · rwa [Nat.min_eq_right more]
  · exact buffer

/-- What is served fits the mapped memory. -/
theorem servedBytes_le (requested len : Nat) : servedBytes config requested len ≤ len := by
  have buffer : len / config.inStride * config.inStride ≤ len := Nat.div_mul_le_self _ _
  unfold servedBytes
  split
  · exact (Nat.min_le_right _ _).trans buffer
  · exact buffer

/-! ### How much less -/

/-- The bytes that the trim discards. -/
def discarded (config : SourceConfig) (want avail : Nat) : Nat :=
  (sourceTrim config want avail).getD 0

/-- Whole frames are discarded. -/
theorem inStride_dvd_discarded (want avail : Nat) :
    config.inStride ∣ discarded config want avail := by
  unfold discarded sourceTrim
  simp only
  split
  · exact Nat.dvd_sub_mod _
  · exact dvd_zero _

/-- **The trim never starves the read**: it leaves what the read takes, as far as there was as
much. -/
theorem sourceTrim_spares (want avail : Nat) :
    min (avail - discarded config want avail) want = min avail want := by
  obtain ⟨left, -⟩ := avail_after_trim config want avail
  unfold discarded
  rw [left, trimmed]
  split
  · rename_i deep
    have high : want * 2 ≤ sourceHigh config want := Nat.le_max_right _ _
    rw [Nat.min_eq_right (by omega), Nat.min_eq_right (by omega)]
  · rfl

/-- The depth that the trim and the read leave. -/
theorem depth_after_read (want avail : Nat) :
    avail - discarded config want avail - want ≤
      max (2 * config.capLow) (2 * want) - min avail want := by
  obtain ⟨left, -⟩ := avail_after_trim config want avail
  have fresh := trimmed_le config want avail
  have spared := @sourceTrim_spares config want avail
  unfold discarded at spared ⊢
  rw [left] at spared ⊢
  rw [sourceHigh, SourceConfig.capHigh, Nat.mul_comm config.capLow, Nat.mul_comm want] at fresh
  omega

/-! ### What -/

theorem fillSlice_cap (want : Nat) (slice : List UInt8) (cap : Ring ringCapacity UInt8) :
    (fillSlice config want slice cap).2.items =
      (cap.items.drop (discarded config want cap.avail)).drop want := by
  unfold fillSlice discarded
  cases sourceTrim config want cap.avail with
  | none => rfl
  | some excess =>
    show ((cap.skip excess).2.read want).2.items = _
    rw [Ring.read_items, Ring.skip_items]
    rfl

/-- **The served bytes**: the oldest that survive the trim, then zeros. The rest of the memory is
left alone. -/
theorem fillSlice_memory {want : Nat} {slice : List UInt8} (fits : want ≤ slice.length)
    (cap : Ring ringCapacity UInt8) :
    (fillSlice config want slice cap).1 =
      (cap.items.drop (discarded config want cap.avail)).take want ++
        List.replicate (want - min cap.avail want) 0 ++ slice.drop want := by
  have spared := @sourceTrim_spares config want cap.avail
  have read : (fillSlice config want slice cap).1 =
      overlay (overlay slice 0 ((cap.items.drop (discarded config want cap.avail)).take want))
        ((cap.items.drop (discarded config want cap.avail)).take want).length
        (List.replicate (want -
          ((cap.items.drop (discarded config want cap.avail)).take want).length) 0) := by
    unfold fillSlice discarded
    cases sourceTrim config want cap.avail with
    | none => rfl
    | some excess =>
      show overlay (overlay slice 0 ((cap.skip excess).2.read want).1) _ _ = _
      rw [Ring.read_fst, Ring.skip_items]
      rfl
  have length : ((cap.items.drop (discarded config want cap.avail)).take want).length =
      min cap.avail want := by
    rw [List.length_take, List.length_drop, Nat.min_comm]
    exact spared
  generalize (cap.items.drop (discarded config want cap.avail)).take want = pcm at read length ⊢
  have joined := @overlay_overlay _ slice pcm (List.replicate (want - pcm.length) 0) 0 (by
    rw [List.length_replicate]
    omega)
  rw [Nat.zero_add] at joined
  have served : (pcm ++ List.replicate (want - pcm.length) (0 : UInt8)).length = want := by
    rw [List.length_append, List.length_replicate]
    omega
  rw [read, joined, overlay, served, length, List.take_zero, Nat.zero_add]
  rfl

/-- **The source callback.** With a mapped buffer and no overflow it serves `want` bytes, whole
frames that fit the memory, and discards `gone` bytes, whole frames of the ring. The served bytes
are the oldest `min a want` that survive the trim, in order, and then zeros; the rest of the memory
is left alone. The ring keeps what comes after the served bytes, at most the freshness window less
what was read. -/
theorem source_fills (profile : Profile) (config : SourceConfig) {requested : Nat}
    (fits : requested * config.inStride < usizeSize) (slice : List UInt8)
    (rest : List (Option (List UInt8))) (cap : Ring ringCapacity UInt8) :
    let a := cap.avail
    let want := servedBytes config requested slice.length
    let gone := discarded config want a
    ∃ output after,
      sourceProcess profile config (some ⟨requested, some slice :: rest⟩) cap =
        .ok (some ⟨some output, sourceChunk config want⟩, after) ∧
      config.inStride ∣ want ∧ want ≤ slice.length ∧
      config.inStride ∣ gone ∧ gone ≤ a ∧
      ((cap.items.drop gone).take want).length = min a want ∧
      output = (cap.items.drop gone).take want ++ List.replicate (want - min a want) 0 ++
        slice.drop want ∧
      after.items = (cap.items.drop gone).drop want ∧
      after.avail ≤ max (2 * config.capLow) (2 * want) - min a want := by
  intro a want gone
  have inside : want ≤ slice.length := servedBytes_le requested slice.length
  refine ⟨(fillSlice config want slice cap).1, (fillSlice config want slice cap).2, ?_,
    inStride_dvd_servedBytes requested slice.length, inside, inStride_dvd_discarded want a,
    (avail_after_trim config want a).2, ?_, fillSlice_memory inside cap,
    fillSlice_cap want slice cap, ?_⟩
  · unfold sourceProcess
    simp only [sourceWant_eq profile fits, bind, Except.bind]
    rfl
  · rw [List.length_take, List.length_drop, Nat.min_comm]
    exact sourceTrim_spares want a
  · rw [Ring.avail, fillSlice_cap, List.length_drop, List.length_drop]
    exact depth_after_read want a

/-- Two frames asked for, and one and a half in the ring. -/
theorem source_fills_underrun :
    let a := 3
    let want := servedBytes .shipped 2 8
    let gone := discarded .shipped want a
    ∃ output after,
      sourceProcess .debug .shipped (some ⟨2, [some (List.replicate 8 7)]⟩)
          (⟨[1, 2, 3], by decide⟩ : Ring ringCapacity UInt8) =
        .ok (some ⟨some output, sourceChunk .shipped want⟩, after) ∧
      SourceConfig.shipped.inStride ∣ want ∧ want ≤ 8 ∧
      SourceConfig.shipped.inStride ∣ gone ∧ gone ≤ a ∧
      (([1, 2, 3].drop gone).take want).length = min a want ∧
      output = ([1, 2, 3].drop gone).take want ++ List.replicate (want - min a want) 0 ++
        (List.replicate 8 7).drop want ∧
      after.items = ([1, 2, 3].drop gone).drop want ∧
      after.avail ≤ max (2 * SourceConfig.shipped.capLow) (2 * want) - min a want :=
  source_fills .debug .shipped (by decide) (List.replicate 8 7) [] ⟨[1, 2, 3], by decide⟩

end Wolverine.Audio
