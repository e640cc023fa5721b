/-
**The port of the bridge.**

`audio.rs` stands in for the C bridge. Its rings are half as large and drop the newest bytes where
the rings of C drop the oldest; and before its microphone serves, it drops what is too old. Both
bridges are given the same calls here, with buffers that are mapped.

* `Fifos` — what both are for: two queues without a bound.
* `Related.step` — while nothing has to be dropped, a call on either is the one on the queues.
* `Related.parts` — what has to be dropped leaves the two with different rings.
* `bridges_agree_iff` — so the two keep the same rings through a run exactly when the port drops
  nothing, and then they answer alike.
-/

import Wolverine.Audio.Fill
import Wolverine.Bridge.Lifecycle
import Wolverine.Python.Port

namespace Wolverine.Bridge

open Wolverine.Audio Wolverine.Cyclic Wolverine.Machine Wolverine.Rust
open Wolverine.Python (onProcessPlayback wpwPlaybackAvail wpwReadPlayback ringCapacity_le
  content_ringWrite content_ringRead)

/-! ### Calls -/

/-- What the driver and PipeWire ask of a bridge that is running. -/
inductive PortCall
  /-- PipeWire plays the chunk of a mapped buffer. -/
  | play (memory : List UInt8) (offset size : UInt32)
  /-- The driver asks how much is to be played, -/
  | avail
  /-- and takes up to `len` bytes of it. -/
  | take (len : Nat)
  /-- The driver hands over microphone bytes. -/
  | capture (pcm : List UInt8)
  /-- PipeWire asks for microphone bytes. -/
  | serve (requested : UInt64) (memory : List UInt8)

/-- What a call hands back. -/
inductive PortAnswer
  | done
  | count (n : Int)
  | pcm (bytes : List UInt8)
  | filled (memory : List UInt8) (chunk : Chunk)
  deriving DecidableEq, Repr

/-- The lengths fit the types of C, and a chunk lies in its memory. -/
def PortCall.Proper : PortCall → Prop
  | .play memory offset size => offset.toNat + size.toNat ≤ memory.length
  | .avail => True
  | .take len => len < 2 ^ 31
  | .capture pcm => pcm.length < 2 ^ 31
  | .serve requested memory => requested.toNat < 2 ^ 32 ∧ memory.length < 2 ^ 32

/-- A pointer into memory. -/
def pointer (memory : List UInt8) (offset i : Nat) : UInt8 := memory.getD (offset + i) 0

/-- The buffer of a request. -/
def mappedBuffer (requested : UInt64) (memory : List UInt8) : PwBuffer where
  data := some (pointer memory 0)
  maxsize := UInt32.ofNat memory.length
  requested := requested

/-! ### The two bridges -/

/-- The rings of the C bridge. -/
structure CSide where
  playRing : RingT
  capRing : RingT

def CSide.step (format : InFormat) (side : CSide) : PortCall → CSide × PortAnswer
  | .play memory offset size =>
    ({ side with
        playRing := onProcessPlayback side.playRing [⟨pointer memory offset.toNat, size⟩] }, .done)
  | .avail => (side, .count (wpwPlaybackAvail side.playRing).toInt)
  | .take len =>
    let (got, dst, playRing) := wpwReadPlayback side.playRing (fun _ => 0) (Int32.ofNat len)
    ({ side with playRing }, .pcm (bytesAt dst got.toNatClampNeg))
  | .capture pcm =>
    let (sent, capRing) :=
      wpwWriteCapture side.capRing (pointer pcm 0) (Int32.ofNat pcm.length)
    ({ side with capRing }, .count sent.toInt)
  | .serve requested memory =>
    match onProcessCapture format side.capRing (some (mappedBuffer requested memory)) with
    | (capRing, some (_, filled)) =>
      ({ side with capRing }, .filled (bytesAt filled.data memory.length)
        { offset := filled.offset.toNat
          stride := filled.stride.toInt
          size := filled.size.toNat })
    | (capRing, none) => ({ side with capRing }, .done)

/-- The rings of the port. -/
structure RustSide where
  play : Ring ringCapacity UInt8
  cap : Ring ringCapacity UInt8

def RustSide.step (profile : Profile) (config : SourceConfig) (side : RustSide) :
    PortCall → RustSide × Except Panic PortAnswer
  | .play memory offset size =>
    let d := { data := some memory, size := size.toNat, offset := offset.toNat }
    ({ side with play := sinkProcess (some [d]) side.play }, .ok .done)
  | .avail => (side, .ok (.count side.play.avail))
  | .take len =>
    let (pcm, play) := side.play.read len
    ({ side with play }, .ok (.pcm pcm))
  | .capture pcm =>
    let (written, cap) := side.cap.write pcm
    ({ side with cap }, .ok (.count written))
  | .serve requested memory =>
    match sourceProcess profile config (some ⟨requested.toNat, [some memory]⟩) side.cap with
    | .ok (some ⟨some memory, chunk⟩, cap) => ({ side with cap }, .ok (.filled memory chunk))
    | .ok (_, cap) => ({ side with cap }, .ok .done)
    | .error panic => (side, .error panic)

/-- Both bridges, given the same calls. -/
structure Both where
  c : CSide
  rust : RustSide

namespace Both

/-- Both have just been started. -/
def start (playMemory capMemory : Fin ringCap.toNat → UInt8) : Both where
  c := ⟨ringInit playMemory, ringInit capMemory⟩
  rust := ⟨Ring.new _ _, Ring.new _ _⟩

def step (format : InFormat) (profile : Profile) (config : SourceConfig) (both : Both)
    (call : PortCall) : Both × PortAnswer × Except Panic PortAnswer :=
  let (c, answer) := both.c.step format call
  let (rust, ported) := both.rust.step profile config call
  (⟨c, rust⟩, answer, ported)

/-- The rings hold the same bytes. -/
def Same (both : Both) : Prop :=
  both.c.playRing.content = both.rust.play.items ∧ both.c.capRing.content = both.rust.cap.items

end Both

/-! ### What they are for -/

/-- A queue each way, without a bound. -/
structure Fifos where
  play : List UInt8
  cap : List UInt8
  deriving DecidableEq, Repr

namespace Fifos

def empty : Fifos := ⟨[], []⟩

def step (config : SourceConfig) (fifos : Fifos) : PortCall → Fifos × PortAnswer
  | .play memory offset size =>
    ({ fifos with play := fifos.play ++ (memory.drop offset.toNat).take size.toNat }, .done)
  | .avail => (fifos, .count fifos.play.length)
  | .take len => ({ fifos with play := fifos.play.drop len }, .pcm (fifos.play.take len))
  | .capture pcm => ({ fifos with cap := fifos.cap ++ pcm }, .count pcm.length)
  | .serve requested memory =>
    let want := servedBytes config requested.toNat memory.length
    ({ fifos with cap := fifos.cap.drop want },
      .filled (fifos.cap.take want ++ List.replicate (want - fifos.cap.length) 0 ++
        memory.drop want) (sourceChunk config want))

/-- The port has nothing to drop. -/
def Room (config : SourceConfig) (fifos : Fifos) : PortCall → Prop
  | .play _ _ size => fifos.play.length + size.toNat ≤ ringCapacity
  | .avail | .take _ => True
  | .capture pcm => fifos.cap.length + pcm.length ≤ ringCapacity
  | .serve requested memory =>
    fifos.cap.length ≤ sourceHigh config (servedBytes config requested.toNat memory.length)

end Fifos

/-! ### Memory -/

theorem bytesAt_pointer {memory : List UInt8} {offset count : Nat}
    (inside : offset + count ≤ memory.length) :
    bytesAt (pointer memory offset) count = (memory.drop offset).take count := by
  have length : ((memory.drop offset).take count).length = count := by
    rw [List.length_take, List.length_drop]
    omega
  refine List.ext_getElem ((length_bytesAt _ _).trans length.symm) fun i left right => ?_
  rw [length] at right
  simp only [bytesAt, pointer, List.getElem_map, List.getElem_range, List.getElem_take,
    List.getElem_drop]
  exact List.getD_eq_getElem _ _ (by omega)

theorem bytesAt_pointer_all (memory : List UInt8) :
    bytesAt (pointer memory 0) memory.length = memory := by
  rw [bytesAt_pointer (by omega), List.drop_zero, List.take_length]

/-- A push of bytes in memory. -/
theorem pushed_pointer {pcm : List UInt8} (small : pcm.length < 2 ^ 31) :
    pushed (pointer pcm 0) (Int32.ofNat pcm.length) = pcm := by
  rw [pushed, Int32.toNatClampNeg_ofNat_of_lt small]
  exact bytesAt_pointer_all pcm

/-- What was written at the start of a memory, and the memory behind it. -/
theorem bytesAt_over {data : Nat → UInt8} {memory : List UInt8} {count : Nat}
    (inside : count ≤ memory.length) (behind : ∀ i, count ≤ i → data i = pointer memory 0 i) :
    bytesAt data memory.length = bytesAt data count ++ memory.drop count := by
  obtain ⟨more, length⟩ := Nat.exists_eq_add_of_le inside
  rw [length, bytesAt, List.range_add, List.map_append, List.map_map]
  refine congrArg (bytesAt data count ++ ·) ?_
  have rest : bytesAt (pointer memory count) more = memory.drop count := by
    rw [bytesAt_pointer (by omega), List.take_of_length_le]
    rw [List.length_drop]
    omega
  rw [← rest]
  refine List.map_congr_left fun i _ => (behind (count + i) (Nat.le_add_right _ _)).trans ?_
  rw [pointer, pointer, Nat.zero_add]

/-- Both bridges fill equally many bytes. -/
theorem toNat_nbytes_eq {format : InFormat} {config : SourceConfig}
    (same : format.inStride.toNat = config.inStride) {b : PwBuffer}
    (small : b.requested.toNat < 2 ^ 32) :
    (nbytes format b).toNat = servedBytes config b.requested.toNat b.maxsize.toNat := by
  have clamped : ∀ asked : UInt32,
      ((if asked > b.maxsize / format.inStride then b.maxsize / format.inStride else asked) *
        format.inStride).toNat =
      min asked.toNat (b.maxsize.toNat / config.inStride) * config.inStride := by
    intro asked
    have frames : (b.maxsize / format.inStride).toNat = b.maxsize.toNat / config.inStride := by
      rw [UInt32.toNat_div, same]
    have least : (if asked > b.maxsize / format.inStride then b.maxsize / format.inStride
        else asked).toNat = min asked.toNat (b.maxsize.toNat / config.inStride) := by
      rw [← frames]
      by_cases more : asked > b.maxsize / format.inStride
      · rw [if_pos more, Nat.min_eq_right (UInt32.le_iff_toNat_le.mp (UInt32.le_of_lt more))]
      · rw [if_neg more, Nat.min_eq_left (UInt32.le_iff_toNat_le.mp (UInt32.not_lt.mp more))]
    have inside : min asked.toNat (b.maxsize.toNat / config.inStride) * config.inStride ≤
        b.maxsize.toNat :=
      (Nat.mul_le_mul_right _ (Nat.min_le_right _ _)).trans (Nat.div_mul_le_self _ _)
    rw [UInt32.toNat_mul, least, same, Nat.mod_eq_of_lt (inside.trans_lt b.maxsize.toNat_lt)]
  unfold nbytes servedBytes
  dsimp only
  rw [clamped]
  by_cases hint : b.requested = 0
  · have none : ¬ 0 < b.requested.toNat := by
      rw [hint]
      decide
    rw [if_neg none, if_neg (not_not.mpr hint), UInt32.toNat_div, same, Nat.min_self]
  · have some_ : 0 < b.requested.toNat :=
      Nat.pos_of_ne_zero fun zero => hint (UInt64.toNat_inj.mp zero)
    have asked : b.requested.toUInt32.toNat = b.requested.toNat := by
      rw [UInt64.toNat_toUInt32, Nat.mod_eq_of_lt small]
    rw [if_pos some_, if_pos hint, asked, Nat.mul_min_mul_right]

/-- A product of two `uint32_t` does not overflow a `usize`. -/
theorem product_fits {format : InFormat} {config : SourceConfig}
    (same : format.inStride.toNat = config.inStride) {requested : Nat} (few : requested < 2 ^ 32) :
    requested * config.inStride < usizeSize := by
  have square : usizeSize = 2 ^ 32 * 2 ^ 32 := by decide
  rw [square, ← same]
  exact Nat.mul_lt_mul'' few format.inStride.toNat_lt

/-! ### The rings -/

/-- How much a write leaves in a ring of the C bridge. -/
theorem length_written {ring : RingT} {items src : List UInt8}
    {fits : items.length ≤ ringCap.toNat}
    (written : Represents ring (Queue.write ⟨items, fits⟩ src)) :
    ring.content.length = min (items.length + src.length) ringCap.toNat := by
  simp only [Represents, Queue.write_items] at written
  rw [written, List.rtake, List.length_drop, List.length_append]
  omega

/-- A sink callback appends what fits. -/
theorem sinkProcess_items (buffer : Dequeued) (play : Ring ringCapacity UInt8) :
    (sinkProcess buffer play).items = play.items ++ (sinkBytes buffer).take play.space := by
  unfold sinkProcess sinkBytes
  cases sinkSlice buffer with
  | none => rw [Option.getD_none, List.take_nil, List.append_nil]
  | some slice => exact Ring.write_items play slice

/-- The chunk that a sink callback is handed. -/
theorem sinkBytes_chunk {memory : List UInt8} {offset size : Nat}
    (inside : offset + size ≤ memory.length) :
    sinkBytes (some [⟨some memory, size, offset⟩]) = (memory.drop offset).take size := by
  have slice : sinkSlice (some [⟨some memory, size, offset⟩]) =
      if offset < min (offset + size) memory.length then
        some ((memory.take (min (offset + size) memory.length)).drop offset) else none := rfl
  rw [sinkBytes, slice, Nat.min_eq_left inside]
  by_cases positive : offset < offset + size
  · rw [if_pos positive, Option.getD_some, List.drop_take, Nat.add_sub_cancel_left]
  · rw [if_neg positive, Option.getD_none, (by omega : size = 0), List.take_zero]

/-- A source callback on a mapped buffer. -/
theorem sourceProcess_mapped (profile : Profile) (config : SourceConfig) {requested : Nat}
    (fits : requested * config.inStride < usizeSize) (memory : List UInt8)
    (cap : Ring ringCapacity UInt8) :
    let want := servedBytes config requested memory.length
    sourceProcess profile config (some ⟨requested, [some memory]⟩) cap =
      .ok (some ⟨some (fillSlice config want memory cap).1, sourceChunk config want⟩,
        (fillSlice config want memory cap).2) := by
  unfold sourceProcess
  simp only [sourceWant_eq profile fits, bind, Except.bind]
  rfl

/-- Nothing is too old. -/
theorem discarded_of_fresh {config : SourceConfig} {want avail : Nat}
    (fresh : avail ≤ sourceHigh config want) : discarded config want avail = 0 := by
  unfold discarded sourceTrim
  simp only
  rw [if_neg (by omega), Option.getD_none]

/-- Something is too old, and what is dropped goes beyond what is served. -/
theorem discarded_of_stale {config : SourceConfig} {want avail : Nat}
    (stale : sourceHigh config want < avail) :
    0 < discarded config want avail ∧ discarded config want avail + want ≤ avail := by
  have frame : config.inStride ≤ config.capLow := config.lowFits
  have rest := Nat.mod_lt (avail - max config.capLow want) config.inStride_pos
  have low := Nat.le_max_left config.capLow want
  have high : sourceHigh config want = max (config.capLow * 2) (want * 2) := rfl
  unfold discarded sourceTrim
  simp only
  rw [if_pos stale, Option.getD_some]
  omega

/-! ### One call -/

/-- What a request leaves in the two bridges, and what it is answered. -/
theorem step_serve {format : InFormat} {config : SourceConfig}
    (same : format.inStride.toNat = config.inStride) (profile : Profile) (both : Both)
    {requested : UInt64} (few : requested.toNat < 2 ^ 32) (memory : List UInt8) :
    let size := nbytes format (mappedBuffer requested memory)
    let taken := ringRead both.c.capRing (pointer memory 0) size
    let want := servedBytes config requested.toNat memory.length
    let fill := fillSlice config want memory both.rust.cap
    both.step format profile config (.serve requested memory) =
      (⟨⟨both.c.playRing, taken.2.2⟩, ⟨both.rust.play, fill.2⟩⟩,
        .filled (bytesAt (padded taken.2.1 taken.1 size) memory.length)
          { offset := 0, stride := format.inStride.toInt32.toInt, size := size.toNat },
        .ok (.filled fill.1 (sourceChunk config want))) := by
  have called := onProcessCapture_mapped format both.c.capRing
    (rfl : (mappedBuffer requested memory).data = some (pointer memory 0))
  have ported := sourceProcess_mapped profile config (product_fits same few) memory both.rust.cap
  simp only [Both.step, CSide.step, RustSide.step, called, ported]
  rfl

/-- Both bridges hold the queues. -/
structure Related (both : Both) (fifos : Fifos) : Prop where
  cPlay : both.c.playRing.content = fifos.play
  cCap : both.c.capRing.content = fifos.cap
  play : both.rust.play.items = fifos.play
  cap : both.rust.cap.items = fifos.cap

theorem related_start (playMemory capMemory : Fin ringCap.toNat → UInt8) :
    Related (Both.start playMemory capMemory) Fifos.empty :=
  ⟨represents_init playMemory, represents_init capMemory, rfl, rfl⟩

namespace Related

variable {both : Both} {fifos : Fifos} {format : InFormat} {config : SourceConfig}

theorem same (related : Related both fifos) : both.Same :=
  ⟨related.cPlay.trans related.play.symm, related.cCap.trans related.cap.symm⟩

theorem playFits (related : Related both fifos) : fifos.play.length ≤ ringCapacity := by
  rw [← related.play]
  exact both.rust.play.fits

theorem capFits (related : Related both fifos) : fifos.cap.length ≤ ringCapacity := by
  rw [← related.cap]
  exact both.rust.cap.fits

/-- What PipeWire plays. -/
theorem played (related : Related both fifos) {memory : List UInt8} {offset size : UInt32}
    (inside : offset.toNat + size.toNat ≤ memory.length)
    (room : fifos.play.length + size.toNat ≤ ringCapacity) :
    (onProcessPlayback both.c.playRing [⟨pointer memory offset.toNat, size⟩]).content =
        fifos.play ++ (memory.drop offset.toNat).take size.toNat ∧
      (sinkProcess (some [⟨some memory, size.toNat, offset.toNat⟩]) both.rust.play).items =
        fifos.play ++ (memory.drop offset.toNat).take size.toNat := by
  constructor
  · rw [← bytesAt_pointer inside]
    exact content_ringWrite related.cPlay _ (room.trans ringCapacity_le)
  · rw [sinkProcess_items, sinkBytes_chunk inside, related.play, List.take_take, Ring.space,
      related.play, Nat.min_eq_right (by omega)]

/-- What the driver hands over. -/
theorem captured (related : Related both fifos) {pcm : List UInt8} (small : pcm.length < 2 ^ 31)
    (room : fifos.cap.length + pcm.length ≤ ringCapacity) :
    let sent := wpwWriteCapture both.c.capRing (pointer pcm 0) (Int32.ofNat pcm.length)
    sent.1.toInt = pcm.length ∧ sent.2.content = fifos.cap ++ pcm ∧
      (both.rust.cap.write pcm).1 = pcm.length ∧
      (both.rust.cap.write pcm).2.items = fifos.cap ++ pcm := by
  have fits : fifos.cap.length ≤ ringCap.toNat := related.capFits.trans ringCapacity_le
  have holds : Represents both.c.capRing ⟨fifos.cap, fits⟩ := related.cCap
  have space : pcm.length ≤ both.rust.cap.space := by
    rw [Ring.space, related.cap]
    omega
  obtain ⟨count, content⟩ :=
    wpwWriteCapture_queue holds (pointer pcm 0) (Int32.ofNat pcm.length)
  rw [pushed_pointer small] at count content
  refine ⟨count, ?_, ?_, ?_⟩
  · rw [Represents, Queue.write_items, List.rtake, List.length_append,
      Nat.sub_eq_zero_of_le (room.trans ringCapacity_le), List.drop_zero] at content
    exact content
  · show (pcm.take both.rust.cap.space).length = _
    rw [List.take_of_length_le space]
  · rw [Ring.write_items_of_fits space, related.cap]

/-- What the C bridge leaves in a buffer. -/
theorem filledBy (related : Related both fifos) (same : format.inStride.toNat = config.inStride)
    {requested : UInt64} {memory : List UInt8} (few : requested.toNat < 2 ^ 32)
    (small : memory.length < 2 ^ 32) :
    let size := nbytes format (mappedBuffer requested memory)
    let taken := ringRead both.c.capRing (pointer memory 0) size
    let want := servedBytes config requested.toNat memory.length
    size.toNat = want ∧ taken.2.2.content = fifos.cap.drop want ∧
      bytesAt (padded taken.2.1 taken.1 size) memory.length =
        fifos.cap.take want ++ List.replicate (want - fifos.cap.length) 0 ++ memory.drop want := by
  intro size taken want
  have count : size.toNat = want := by
    have length : (mappedBuffer requested memory).maxsize.toNat = memory.length := by
      rw [mappedBuffer, UInt32.toNat_ofNat', Nat.mod_eq_of_lt small]
    have equal := toNat_nbytes_eq same (b := mappedBuffer requested memory) few
    rw [length] at equal
    exact equal
  have inside : size.toNat ≤ memory.length :=
    count.trans_le (servedBytes_le requested.toNat memory.length)
  have got : taken.1.toNat = min size.toNat fifos.cap.length := by
    rw [toNat_ringRead_count, ← length_content, related.cCap]
  obtain ⟨bytes, rest⟩ := content_ringRead related.cCap
    (related.capFits.trans ringCapacity_le) (pointer memory 0) size
  refine ⟨count, by rw [rest, count], ?_⟩
  have behind : ∀ i, size.toNat ≤ i → padded taken.2.1 taken.1 size i = pointer memory 0 i :=
    fun i beyond => padded_read_beyond both.c.capRing (pointer memory 0) beyond
  have silence : size.toNat - min size.toNat fifos.cap.length = want - fifos.cap.length := by
    omega
  calc bytesAt (padded taken.2.1 taken.1 size) memory.length
      = bytesAt (padded taken.2.1 taken.1 size) size.toNat ++ memory.drop size.toNat :=
        bytesAt_over inside behind
    _ = bytesAt taken.2.1 taken.1.toNat ++ List.replicate (size.toNat - taken.1.toNat) 0 ++
          memory.drop size.toNat := by
        rw [bytesAt_padded _ (ringRead_le both.c.capRing (pointer memory 0) size)]
    _ = fifos.cap.take want ++ List.replicate (want - fifos.cap.length) 0 ++
          memory.drop want := by
        rw [bytes, got, silence, count]

/-- What the port leaves in a buffer. -/
theorem filledByPort (related : Related both fifos) {memory : List UInt8} {want : Nat}
    (inside : want ≤ memory.length) (fresh : fifos.cap.length ≤ sourceHigh config want) :
    (fillSlice config want memory both.rust.cap).1 =
        fifos.cap.take want ++ List.replicate (want - fifos.cap.length) 0 ++ memory.drop want ∧
      (fillSlice config want memory both.rust.cap).2.items = fifos.cap.drop want := by
  have avail : both.rust.cap.avail = fifos.cap.length := congrArg List.length related.cap
  have none_ : discarded config want both.rust.cap.avail = 0 := by
    rw [avail]
    exact discarded_of_fresh fresh
  have silence : want - min fifos.cap.length want = want - fifos.cap.length := by omega
  rw [fillSlice_memory inside, fillSlice_cap, none_, List.drop_zero, avail, silence, related.cap]
  exact ⟨rfl, rfl⟩

/-- A request. -/
theorem served (related : Related both fifos) (same : format.inStride.toNat = config.inStride)
    (profile : Profile) {requested : UInt64} {memory : List UInt8} (few : requested.toNat < 2 ^ 32)
    (small : memory.length < 2 ^ 32)
    (fresh : fifos.cap.length ≤
      sourceHigh config (servedBytes config requested.toNat memory.length)) :
    Related (both.step format profile config (.serve requested memory)).1
        (fifos.step config (.serve requested memory)).1 ∧
      (both.step format profile config (.serve requested memory)).2 =
        ((fifos.step config (.serve requested memory)).2,
          .ok (fifos.step config (.serve requested memory)).2) := by
  obtain ⟨count, content, bytes⟩ := related.filledBy same few small
  obtain ⟨served, left⟩ :=
    related.filledByPort (servedBytes_le requested.toNat memory.length) fresh
  have stride : format.inStride.toInt32.toInt = Int.bmod config.inStride u32Size := by
    rw [← same]
    exact BitVec.toInt_eq_toNat_bmod _
  have chunk : sourceChunk config (servedBytes config requested.toNat memory.length) =
      { offset := 0
        stride := format.inStride.toInt32.toInt
        size := (nbytes format (mappedBuffer requested memory)).toNat } := by
    have size := (nbytes format (mappedBuffer requested memory)).toNat_lt
    rw [sourceChunk, stride, ← count]
    exact congrArg (Chunk.mk 0 _) (Nat.mod_eq_of_lt size)
  rw [step_serve same profile both few memory]
  simp only [Fifos.step, bytes, served, chunk]
  exact ⟨⟨related.cPlay, content, related.play, left⟩, trivial⟩

/-- **One call** with nothing to drop is the call on the queues. -/
theorem step (related : Related both fifos) (same : format.inStride.toNat = config.inStride)
    (profile : Profile) {call : PortCall} (proper : call.Proper) (room : fifos.Room config call) :
    Related (both.step format profile config call).1 (fifos.step config call).1 ∧
      (both.step format profile config call).2 =
        ((fifos.step config call).2, .ok (fifos.step config call).2) := by
  cases call with
  | play memory offset size =>
    obtain ⟨content, items⟩ := related.played proper room
    exact ⟨⟨content, related.cCap, items, related.cap⟩, rfl⟩
  | avail =>
    have depth : both.c.playRing.used = fifos.play.length := by
      rw [← length_content, related.cPlay]
    have fits : both.c.playRing.used ≤ ringCap.toNat :=
      depth.trans_le (related.playFits.trans ringCapacity_le)
    refine ⟨related, ?_⟩
    show (PortAnswer.count (wpwPlaybackAvail both.c.playRing).toInt,
      Except.ok (PortAnswer.count both.rust.play.avail)) = _
    rw [Python.toInt_wpwPlaybackAvail fits, depth, Ring.avail, related.play]
    rfl
  | take len =>
    have fits : fifos.play.length ≤ ringCap.toNat := related.playFits.trans ringCapacity_le
    have holds : Represents both.c.playRing ⟨fifos.play, fits⟩ := related.cPlay
    obtain ⟨got, dst, after, read, _, bytes, rest⟩ :=
      wpwReadPlayback_queue holds (fun _ => 0) (Int32.ofNat len)
    rw [Int32.toNatClampNeg_ofNat_of_lt proper] at bytes rest
    simp only [Both.step, CSide.step, RustSide.step, Fifos.step, read, bytes, Ring.read_fst,
      Queue.read_fst, related.play]
    refine ⟨⟨rest, related.cCap, ?_, related.cap⟩, trivial⟩
    rw [Ring.read_items, related.play]
  | capture pcm =>
    obtain ⟨sent, content, written, items⟩ := related.captured proper room
    simp only [Both.step, CSide.step, RustSide.step, Fifos.step, sent, written]
    exact ⟨⟨related.cPlay, content, related.play, items⟩, trivial⟩
  | serve requested memory => exact related.served same profile proper.1 proper.2 room

/-- **What has to be dropped parts the two**: if they are left with the same rings, the port had
nothing to drop. -/
theorem parts (related : Related both fifos) (same : format.inStride.toNat = config.inStride)
    (profile : Profile) {call : PortCall} (proper : call.Proper)
    (alike : (both.step format profile config call).1.Same) : fifos.Room config call := by
  have smaller : ringCapacity < ringCap.toNat := by decide
  have playHolds : Represents both.c.playRing
      ⟨fifos.play, related.playFits.trans ringCapacity_le⟩ := related.cPlay
  have capHolds : Represents both.c.capRing
      ⟨fifos.cap, related.capFits.trans ringCapacity_le⟩ := related.cCap
  cases call with
  | play memory offset size =>
    have length := length_written (playHolds.write (pointer memory offset.toNat) size)
    have kept := (both.step format profile config (.play memory offset size)).1.rust.play.fits
    rw [← alike.1] at kept
    have bound := length.symm.trans_le kept
    rw [length_bytesAt] at bound
    show fifos.play.length + size.toNat ≤ ringCapacity
    omega
  | avail | take => trivial
  | capture pcm =>
    obtain ⟨_, written⟩ :=
      wpwWriteCapture_queue capHolds (pointer pcm 0) (Int32.ofNat pcm.length)
    rw [pushed_pointer proper] at written
    have length := length_written written
    have kept := (both.step format profile config (.capture pcm)).1.rust.cap.fits
    rw [← alike.2] at kept
    have bound := length.symm.trans_le kept
    show fifos.cap.length + pcm.length ≤ ringCapacity
    omega
  | serve requested memory =>
    by_contra stale
    have avail : both.rust.cap.avail = fifos.cap.length := congrArg List.length related.cap
    obtain ⟨_, content, _⟩ := related.filledBy same proper.1 proper.2
    obtain ⟨gone, inside⟩ := discarded_of_stale (Nat.lt_of_not_le stale)
    rw [step_serve same profile both proper.1 memory] at alike
    have rings := congrArg List.length alike.2
    simp only [content, fillSlice_cap, avail, related.cap, List.length_drop] at rings
    omega

end Related

/-! ### Runs -/

/-- **The port keeps the rings of the C bridge as long as it has nothing to drop, and only so
long.** On frames of one size, both bridges are given any calls that fit the types of C. They hold
the same bytes after every number of calls exactly when, along the run of two queues without a
bound, what is played and captured fits the rings of the port and what is served is not older than
the window of its microphone. Then every call is answered alike: by the queues. -/
theorem bridges_agree_iff (profile : Profile) {config : SourceConfig} {format : InFormat}
    (same : format.inStride.toNat = config.inStride)
    (playMemory capMemory : Fin ringCap.toNat → UInt8) {calls : List PortCall}
    (proper : ∀ call ∈ calls, call.Proper) :
    let run := produce (Both.step format profile config) (Both.start playMemory capMemory)
    ((∀ n, (run (calls.take n)).1.Same) ↔
        Along (Fifos.Room config) (Fifos.step config) Fifos.empty calls) ∧
      (Along (Fifos.Room config) (Fifos.step config) Fifos.empty calls →
        (run calls).2 =
          (produce (Fifos.step config) Fifos.empty calls).2.map fun answer =>
            (answer, .ok answer)) := by
  have simulates : ∀ both fifos call, Related both fifos → call.Proper → fifos.Room config call →
      Related (both.step format profile config call).1 (fifos.step config call).1 ∧
        (both.step format profile config call).2 =
          ((fifos.step config call).2, .ok (fifos.step config call).2) :=
    fun _ _ _ related proper room => related.step same profile proper room
  have start := related_start playMemory capMemory
  refine ⟨along_iff (fun _ _ related => related.same) ?_ ?_ calls _ _ start proper, fun along => ?_⟩
  · exact fun both fifos call related proper room =>
      (simulates both fifos call related proper room).1
  · exact fun both fifos call related proper alike => related.parts same profile proper alike
  · exact (produce_simulates_along simulates calls _ _ start proper along).2

/-- A stereo frame to play, and a request for more than the microphone has. -/
theorem bridges_agree_iff_mono :
    let calls : List PortCall :=
      [.play [5, 6, 7, 8] 0 4, .capture [1, 2], .serve 2 [9, 9, 9, 9, 9], .avail, .take 4]
    let run := produce (Both.step (InFormat.ofChannels 1 (by decide)) .debug .shipped)
      (Both.start (fun _ => 0) fun _ => 0)
    ((∀ n, (run (calls.take n)).1.Same) ↔
        Along (Fifos.Room .shipped) (Fifos.step .shipped) Fifos.empty calls) ∧
      (Along (Fifos.Room .shipped) (Fifos.step .shipped) Fifos.empty calls →
        (run calls).2 =
          (produce (Fifos.step .shipped) Fifos.empty calls).2.map fun answer =>
            (answer, .ok answer)) := by
  refine bridges_agree_iff .debug (by decide) _ _ ?_
  intro call member
  simp only [List.mem_cons, List.not_mem_nil, or_false] at member
  rcases member with rfl | rfl | rfl | rfl | rfl
  · exact Nat.le_refl 4
  · exact (by decide : [1, 2].length < 2 ^ 31)
  · exact ⟨by decide, by decide⟩
  · trivial
  · exact (by decide : 4 < 2 ^ 31)

end Wolverine.Bridge
