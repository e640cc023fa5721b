/-
**Playback in `iso_audio.py`: `start`, `_on_out` and the PipeWire thread, interleaved.**

`_on_out` refills a completed transfer from the playback ring of the C bridge and submits it again.
PipeWire plays into the ring from its own thread, which may come between any two calls on the ring;
a completion is given what is played where. A run starts with the transfers that `start` submits
and takes any list of events. The state keeps, as history, the bytes that were played, what was read
from the ring for each packet, and every submitted transfer buffer.

* `refill_filled` — one refill loop never raises: its packets carry consecutive numbers, fill the
  transfer buffer from its start and hold the next cuts of the played bytes.
* `IsoRun.Steady` — the invariant that completions, PipeWire and the stop keep.
* `playback_in_order` — so, in every run, the packets are numbered and hold segments of what was
  played, apart and in order, behind a cushion, with silence only where the ring is empty.
-/

import Wolverine.Base.Overlay
import Wolverine.Bridge.Capture
import Wolverine.Iso.Playback
import Wolverine.Python.Stream

namespace Wolverine.Python

open Wolverine.Bridge Wolverine.Frames Wolverine.Iso Wolverine.Machine Wolverine.Overlay
open Wolverine.Tail

/-! ### The engine -/

/-- PCM bytes of an iso packet. -/
def outPcmBytes : Nat := 192

/-- Ring depth to reach before draining real audio. -/
def outPrimeBytes : Nat := outPcmBytes * 40

def outPktsPerXfer : Nat := 8
def outNumXfers : Nat := 6

/-- `data[i] = value` on a `bytearray`. -/
def pySetByte (data : List UInt8) (i value : Nat) : Except PyError (List UInt8) :=
  if value < 256 then
    if i < data.length then .ok (data.set i (UInt8.ofNat value)) else .error .indexError
  else .error .valueError

/-- `_build_out_header`, which `gip_init.py` injects. -/
def buildOutHeader (seq : Nat) : Except PyError (List UInt8) :=
  buildGipHeader gipCmdAudioSamples (gipClientId ||| gipOptInternal) seq ep3OutPcm none

/-- The fields of `IsoAudio` for the OUT direction. -/
structure IsoAudio where
  /-- The playback ring behind the bridge handle, if there is a bridge. -/
  pw : Option RingT
  running : Bool
  /-- Header template; byte 2 is the sequence number. -/
  outHdr : List UInt8
  outHdrLen : Nat
  /-- The stride of an iso packet. -/
  outPktSize : Nat
  outSeq : Nat
  outPrimed : Bool
  outPkts : Nat
  outSilence : Nat

/-- The fields that `start` leaves. -/
def IsoAudio.start (pw : Option RingT) : Except PyError IsoAudio := do
  let tmpl ← buildOutHeader 1
  return {
    pw
    running := true
    outHdr := tmpl
    outHdrLen := tmpl.length
    outPktSize := tmpl.length + outPcmBytes
    outSeq := 1
    outPrimed := false
    outPkts := 0
    outSilence := 0 }

namespace IsoAudio

/-- Wait for a cushion before draining real audio. -/
def prime (iso : IsoAudio) : IsoAudio :=
  match iso.pw with
  | some ring =>
    if !iso.outPrimed && decide ((wpwPlaybackAvail ring).toInt ≥ outPrimeBytes) then
      { iso with outPrimed := true }
    else iso
  | none => iso

/-- `wpw_read_playback` into the transfer buffer: what was read, if the ring was asked. -/
def readPcm (iso : IsoAudio) (base : List UInt8) (pcmAt : Nat) :
    Option (List UInt8) × Option RingT :=
  match iso.pw with
  | some ring =>
    if iso.outPrimed then
      let (n, dst, ring) :=
        wpwReadPlayback ring (fun k => base.getD (pcmAt + k) 0) (Int32.ofNat outPcmBytes)
      (some (bytesAt dst n.toNatClampNeg), some ring)
    else (none, some ring)
  | none => (none, none)

/-- `memset` of what a read of `n` bytes leaves of the payload. -/
def padSilence (base : List UInt8) (pcmAt n : Nat) : List UInt8 :=
  if n < outPcmBytes then overlay base (pcmAt + n) (List.replicate (outPcmBytes - n) 0) else base

/-- Refill iso packet `i` of the transfer buffer `base`. -/
def refillPacket (iso : IsoAudio) (hlen i : Nat) (base : List UInt8) :
    Except PyError (IsoAudio × List UInt8 × Option (List UInt8)) := do
  let off := i * iso.outPktSize
  -- GIP header with the next sequence number, never 0
  let outHdr ← pySetByte iso.outHdr 2 iso.outSeq
  let outSeq := if iso.outSeq < 255 then iso.outSeq + 1 else 1
  let base := overlay base off (outHdr.take hlen)
  -- PCM straight from the ring, else silence
  let pcmAt := off + hlen
  let (read, pw) := iso.readPcm base pcmAt
  let pcm := read.getD []
  let n := pcm.length
  let base := padSilence (overlay base pcmAt pcm) pcmAt n
  let outSilence := if n < outPcmBytes then iso.outSilence + 1 else iso.outSilence
  return ({ iso with pw, outHdr, outSeq, outSilence, outPkts := iso.outPkts + 1 }, base, read)

/-- `_maybe_diag` starts the counters again. -/
def maybeDiag (iso : IsoAudio) : IsoAudio := { iso with outPkts := 0, outSilence := 0 }

end IsoAudio

/-! ### The engine and the PipeWire thread -/

/-- The engine, and every byte that was played so far. -/
structure IsoFeed where
  iso : IsoAudio
  played : List UInt8

/-- What is played between the ring calls of one `_on_out`. -/
structure IsoArrivals where
  beforePrime : List Played
  beforeRead : Nat → List Played

/-- The bytes of the buffers, in order. -/
def playedBytes (buffers : List Played) : List UInt8 :=
  buffers.flatMap fun buffer => bytesAt buffer.data buffer.size.toNat

/-- A refill: the engine after it, the transfer buffer, and what was read for each packet. -/
structure IsoRefill where
  feed : IsoFeed
  base : List UInt8
  reads : List (Option (List UInt8))

namespace IsoFeed

/-- Without a bridge there is no sink to play to. -/
def play (feed : IsoFeed) (buffers : List Played) : IsoFeed :=
  match feed.iso.pw with
  | some ring =>
    { iso := { feed.iso with pw := some (onProcessPlayback ring buffers) }
      played := feed.played ++ playedBytes buffers }
  | none => feed

/-- The loop of `_on_out` over its first `count` packets. -/
def refill (beforeRead : Nat → List Played) (hlen : Nat) (feed : IsoFeed) (base : List UInt8) :
    Nat → Except PyError IsoRefill
  | 0 => .ok { feed, base, reads := [] }
  | i + 1 => do
    let before ← refill beforeRead hlen feed base i
    let feed := before.feed.play (beforeRead i)
    let (iso, base, read) ← feed.iso.refillPacket hlen i before.base
    return { feed := { feed with iso }, base, reads := before.reads ++ [read] }

/-- `_on_out` on the transfer buffer `base`; nothing is returned when it does not submit. -/
def onOut (feed : IsoFeed) (status : TransferStatus) (arrivals : IsoArrivals)
    (base : List UInt8) : Except PyError (Option IsoRefill) :=
  if feed.iso.running = false then .ok none
  else if status = .noDevice ∨ status = .cancelled then .ok none
  else do
    let feed := feed.play arrivals.beforePrime
    let feed := { feed with iso := feed.iso.prime }
    let refill ← feed.refill arrivals.beforeRead feed.iso.outHdrLen base outPktsPerXfer
    return some refill

end IsoFeed

/-! ### Runs -/

inductive IsoEvent
  /-- PipeWire plays. -/
  | play (buffers : List Played)
  /-- A transfer completes. -/
  | onOut (xfer : Nat) (status : TransferStatus) (arrivals : IsoArrivals)
  | maybeDiag
  | stop

/-- The engine with its transfers, and as history what was read from the ring for each packet and
every submitted buffer. -/
structure IsoRun where
  feed : IsoFeed
  bufs : List (List UInt8)
  submitted : List Submission
  reads : List (Option (List UInt8))

namespace IsoRun

/-- `start`: every OUT transfer is submitted as silence. -/
def start (pw : Option RingT) : Except PyError IsoRun := do
  let iso ← IsoAudio.start pw
  let total := iso.outPktSize * outPktsPerXfer
  let bufs := List.replicate outNumXfers (List.replicate total 0)
  return {
    feed := { iso, played := [] }
    bufs
    submitted := bufs.map fun buffer => { origin := .start, buffer }
    reads := [] }

/-- A refilled transfer is submitted again. -/
def resubmit (run : IsoRun) (xfer : Nat) (refill : IsoRefill) : IsoRun where
  feed := refill.feed
  bufs := run.bufs.set xfer refill.base
  submitted := run.submitted ++ [{ origin := .onOut, buffer := refill.base }]
  reads := run.reads ++ refill.reads

/-- What a completion leaves. -/
def finish (run : IsoRun) (xfer : Nat) : Option IsoRefill → IsoRun
  | none => run
  | some refill => run.resubmit xfer refill

def step (run : IsoRun) : IsoEvent → Except PyError IsoRun
  | .play buffers => .ok { run with feed := run.feed.play buffers }
  | .onOut xfer status arrivals =>
    match run.bufs[xfer]? with
    | none => .ok run   -- there is no such transfer
    | some base => return run.finish xfer (← run.feed.onOut status arrivals base)
  | .maybeDiag => .ok { run with feed := { run.feed with iso := run.feed.iso.maybeDiag } }
  | .stop =>
    .ok { run with feed := { run.feed with iso := { run.feed.iso with running := false } } }

/-- `start` followed by any events; the ring was just made. -/
def run (bridge : Option (Fin ringCap.toNat → UInt8)) (events : List IsoEvent) :
    Except PyError IsoRun := do
  let begun ← start (bridge.map ringInit)
  Machine.run step begun events

/-- Every packet that `_on_out` refilled, in order. -/
def refilled (run : IsoRun) : List (List UInt8) :=
  (run.submitted.filter (·.origin = .onOut)).flatMap fun submission =>
    pieces run.feed.iso.outPktSize outPktsPerXfer submission.buffer

end IsoRun

/-! ### The packets -/

/-- A framed packet: header, ring bytes, silence. -/
def isoPacket (seq : Nat) (pcm : List UInt8) : List UInt8 :=
  audioHeader seq ++ (pcm ++ List.replicate (outPcmBytes - pcm.length) 0)

/-- The stride of a packet. -/
def isoStride : Nat := 6 + outPcmBytes

theorem length_isoPacket (seq : Nat) {pcm : List UInt8} (fits : pcm.length ≤ outPcmBytes) :
    (isoPacket seq pcm).length = isoStride := by
  rw [isoPacket, List.length_append, List.length_append, List.length_replicate,
    Nat.add_sub_cancel' fits]
  rfl

theorem headerOf_audio (seq : Nat) :
    headerOf gipCmdAudioSamples (gipClientId ||| gipOptInternal) seq ep3OutPcm none =
      audioHeader seq := by
  rw [headerOf, show lengthField ep3OutPcm none = [0xC0, 0x81, 0x00] by decide +kernel]
  rfl

theorem buildOutHeader_eq {seq : Nat} (seqByte : seq ≤ 255) :
    buildOutHeader seq = .ok (audioHeader seq) := by
  rw [buildOutHeader, buildGipHeader_of_le (by decide) (by decide) seqByte, headerOf_audio]

namespace IsoAudio

/-- The engine is ready to frame packet `count` of the stream. -/
structure Ready (count : Nat) (iso : IsoAudio) : Prop where
  header : ∃ seq, iso.outHdr = audioHeader seq
  hlen : iso.outHdrLen = 6
  stride : iso.outPktSize = isoStride
  number : iso.outSeq = count % 255 + 1

theorem Ready.start (pw : Option RingT) :
    ∃ iso, IsoAudio.start pw = .ok iso ∧ iso.Ready 0 ∧ iso.pw = pw ∧ iso.outPrimed = false :=
  ⟨_, bind_of_ok (buildOutHeader_eq (by decide)) _, ⟨⟨1, rfl⟩, rfl, rfl, rfl⟩, rfl, rfl⟩

theorem Ready.prime {count : Nat} {iso : IsoAudio} (ready : iso.Ready count) :
    iso.prime.Ready count := by
  unfold IsoAudio.prime
  split
  · split
    · exact ⟨ready.header, ready.hlen, ready.stride, ready.number⟩
    · exact ready
  · exact ready

/-- A read of a packet, as `ring_read` does it. -/
theorem wpwReadPlayback_pcm (ring : RingT) (dst : Nat → UInt8) :
    (wpwReadPlayback ring dst (Int32.ofNat outPcmBytes)).1.toNatClampNeg =
        (ringRead ring dst 192).1.toNat ∧
      (wpwReadPlayback ring dst (Int32.ofNat outPcmBytes)).2 = (ringRead ring dst 192).2 := by
  have read : wpwReadPlayback ring dst (Int32.ofNat outPcmBytes) =
      ((ringRead ring dst 192).1.toInt32, (ringRead ring dst 192).2) := by
    rw [wpwReadPlayback, if_neg (by decide)]
    rfl
  have count : (ringRead ring dst 192).1.toNat ≤ 192 := by
    rw [toNat_ringRead_count]
    exact Nat.min_le_left _ _
  have small : (ringRead ring dst 192).1.toInt32.toInt = (ringRead ring dst 192).1.toNat := by
    show (ringRead ring dst 192).1.toBitVec.toInt = _
    rw [BitVec.toInt_eq_toNat_of_lt (by
      show 2 * (ringRead ring dst 192).1.toNat < 2 ^ 32
      omega)]
    rfl
  rw [read]
  refine ⟨?_, rfl⟩
  rw [Int32.toNatClampNeg, small, Int.toNat_natCast]

/-- A packet gets the oldest bytes of the ring. -/
theorem readPcm_some {iso : IsoAudio} {ring : RingT} (bridge : iso.pw = some ring)
    (primed : iso.outPrimed = true) (base : List UInt8) (pcmAt : Nat) :
    ∃ dst, iso.readPcm base pcmAt =
      (some (bytesAt (ringRead ring dst 192).2.1 (ringRead ring dst 192).1.toNat),
        some (ringRead ring dst 192).2.2) := by
  refine ⟨fun k => base.getD (pcmAt + k) 0, ?_⟩
  obtain ⟨count, rest⟩ := wpwReadPlayback_pcm ring fun k => base.getD (pcmAt + k) 0
  unfold readPcm
  simp only [bridge, primed, if_true]
  generalize wpwReadPlayback ring (fun k => base.getD (pcmAt + k) 0) (Int32.ofNat outPcmBytes) =
    answer at count rest
  obtain ⟨n, left⟩ := answer
  subst rest
  exact congrArg (fun n => (some (bytesAt (ringRead ring _ 192).2.1 n), some _)) count

theorem readPcm_none {iso : IsoAudio} (waiting : iso.outPrimed = false ∨ iso.pw = none)
    (base : List UInt8) (pcmAt : Nat) : iso.readPcm base pcmAt = (none, iso.pw) := by
  unfold readPcm
  rcases waiting with waiting | noBridge
  · rw [waiting]
    split
    · rename_i ring bridge
      rw [if_neg Bool.false_ne_true, bridge]
    · rename_i bridge
      rw [bridge]
  · simp only [noBridge]

/-- What was read fits the payload. -/
theorem readPcm_fits (iso : IsoAudio) (base : List UInt8) (pcmAt : Nat) :
    ((iso.readPcm base pcmAt).1.getD []).length ≤ outPcmBytes := by
  by_cases waiting : iso.outPrimed = false ∨ iso.pw = none
  · rw [readPcm_none waiting]
    exact Nat.zero_le _
  · obtain ⟨primed, bridge⟩ := not_or.mp waiting
    obtain ⟨ring, bridge⟩ := Option.ne_none_iff_exists'.mp bridge
    obtain ⟨dst, read⟩ := readPcm_some bridge (Bool.of_not_eq_false primed) base pcmAt
    rw [read, Option.getD_some, length_bytesAt, toNat_ringRead_count]
    exact Nat.min_le_left _ _

theorem padSilence_eq (base : List UInt8) (pcmAt n : Nat) :
    padSilence base pcmAt n = overlay base (pcmAt + n) (List.replicate (outPcmBytes - n) 0) := by
  unfold padSilence
  split
  · rfl
  · rw [Nat.sub_eq_zero_of_le (by omega), List.replicate_zero, overlay_nil]

/-- What a refill changes, next to the buffer. -/
structure Refilled (count : Nat) (iso : IsoAudio) (read : Option (List UInt8)) (next : IsoAudio) :
    Prop where
  ready : next.Ready (count + 1)
  fits : (read.getD []).length ≤ outPcmBytes
  asked : ∃ base pcmAt, iso.readPcm base pcmAt = (read, next.pw)
  running : next.running = iso.running
  primed : next.outPrimed = iso.outPrimed

/-- **A refill replaces one stride of the buffer by the next packet.** -/
theorem refillPacket_ok {count : Nat} {iso : IsoAudio} (ready : iso.Ready count) {i : Nat}
    (front : List UInt8) {back : List UInt8} (position : front.length = i * isoStride)
    (room : isoStride ≤ back.length) :
    ∃ next read, iso.refillPacket 6 i (front ++ back) =
        .ok (next, front ++ isoPacket (count % 255 + 1) (read.getD []) ++ back.drop isoStride,
          read) ∧ Refilled count iso read next := by
  obtain ⟨seq, header⟩ := ready.header
  have number := ready.number
  have seqByte : iso.outSeq < 256 := by omega
  have written : pySetByte iso.outHdr 2 iso.outSeq = .ok (audioHeader iso.outSeq) := by
    rw [header, pySetByte, if_pos seqByte]
    rfl
  have next : (if iso.outSeq < 255 then iso.outSeq + 1 else 1) = (count + 1) % 255 + 1 := by
    split <;> omega
  generalize asked : iso.readPcm (overlay (front ++ back) (i * iso.outPktSize)
    (audioHeader iso.outSeq)) (i * iso.outPktSize + 6) = answer
  obtain ⟨read, pw⟩ := answer
  have fits : (read.getD []).length ≤ outPcmBytes := by
    have := iso.readPcm_fits (overlay (front ++ back) (i * iso.outPktSize)
      (audioHeader iso.outSeq)) (i * iso.outPktSize + 6)
    rwa [asked] at this
  have filled := @overlay_filled _ front back (audioHeader iso.outSeq) _ 0 _ fits room
  have base : padSilence (overlay (overlay (front ++ back) (i * iso.outPktSize)
      (audioHeader iso.outSeq)) (i * iso.outPktSize + 6) (read.getD [])) (i * iso.outPktSize + 6)
      (read.getD []).length =
      front ++ isoPacket (count % 255 + 1) (read.getD []) ++ back.drop isoStride := by
    rw [padSilence_eq, ready.stride, ← position, isoPacket, ← number]
    exact filled
  let after : IsoAudio :=
    { iso with
      pw, outHdr := audioHeader iso.outSeq
      outSeq := if iso.outSeq < 255 then iso.outSeq + 1 else 1
      outSilence := if (read.getD []).length < outPcmBytes then iso.outSilence + 1
        else iso.outSilence
      outPkts := iso.outPkts + 1 }
  have ran : iso.refillPacket 6 i (front ++ back) =
      .ok (after, front ++ isoPacket (count % 255 + 1) (read.getD []) ++ back.drop isoStride,
        read) := by
    rw [refillPacket, bind_of_ok written, ← base]
    have whole : (audioHeader iso.outSeq).take 6 = audioHeader iso.outSeq := rfl
    simp only [whole, asked]
    rfl
  exact ⟨after, read, ran, ⟨⟨iso.outSeq, rfl⟩, ready.hlen, ready.stride, next⟩, fits, ⟨_, _, asked⟩,
    rfl, rfl⟩

end IsoAudio

/-! ### The stream -/

/-- Every buffer is a whole number of units of `size` bytes. -/
def WholeBuffers (size : Nat) (buffers : List Played) : Prop :=
  ∀ buffer ∈ buffers, size ∣ buffer.size.toNat

/-- How a packet takes a cut of what was played. -/
structure Took (played : List UInt8) (cut : Cut ringCap.toNat) (read : Option (List UInt8)) :
    Prop where
  pcm : read.getD [] = cut.segment played
  exhausted : read.isSome → cut.size < outPcmBytes → cut.stop = cut.written

theorem Took.append {played : List UInt8} {cut : Cut ringCap.toNat} {read : Option (List UInt8)}
    (took : Took played cut read) (known : cut.written ≤ played.length) (more : List UInt8) :
    Took (played ++ more) cut read :=
  { took with pcm := by rw [took.pcm, cut.segment_append known] }

/-- The packets made so far hold cuts of what was played. -/
structure Drained (size : Nat) (feed : IsoFeed) (reader : Reader ringCap.toNat UInt8)
    (cuts : List (Cut ringCap.toNat)) (reads : List (Option (List UInt8))) : Prop where
  stream : reader.stream = feed.played
  ring : ∀ ring, feed.iso.pw = some ring → Holds ring reader
  bridged : feed.iso.outPrimed = true → feed.iso.pw ≠ none
  served : Served reader cuts
  took : List.Forall₂ (Took feed.played) cuts reads
  standing : reader.Aligned size
  aligned : ∀ cut ∈ cuts, cut.Aligned size
  /-- From the first packet on that asks the ring, all do. -/
  lasting : reads.Pairwise fun earlier later => earlier.isSome → later.isSome
  draining : ∀ read ∈ reads, read.isSome → feed.iso.outPrimed = true
  /-- The first packet that asks the ring finds a cushion in it. -/
  cushion : feed.iso.outPrimed = true → (∀ read ∈ reads, read = none) →
    reader.start + outPrimeBytes ≤ reader.stream.length
  first : ∀ i cut pcm, cuts[i]? = some cut → reads[i]? = some (some pcm) →
    (∀ read ∈ reads.take i, read = none) → cut.start + outPrimeBytes ≤ cut.written

namespace Drained

variable {size : Nat} {feed : IsoFeed} {reader : Reader ringCap.toNat UInt8}
  {cuts : List (Cut ringCap.toNat)} {reads : List (Option (List UInt8))}

theorem start {iso : IsoAudio} {bridge : Option (Fin ringCap.toNat → UInt8)}
    (fresh : iso.pw = bridge.map ringInit) (waiting : iso.outPrimed = false) :
    Drained size ⟨iso, []⟩ (Reader.empty _ _) [] [] where
  stream := rfl
  ring ring found := by
    rw [fresh] at found
    obtain ⟨memory, -, rfl⟩ := Option.map_eq_some_iff.mp found
    exact holds_init memory
  bridged primed := by
    rw [waiting] at primed
    cases primed
  served := Served.nil _
  took := List.Forall₂.nil
  standing := Reader.Aligned.empty
  aligned := nofun
  lasting := List.Pairwise.nil
  draining := nofun
  cushion primed := by
    rw [waiting] at primed
    cases primed
  first := nofun

/-- The counters and the header are not part of the stream. -/
theorem congr (drained : Drained size feed reader cuts reads) {iso : IsoAudio}
    (pw : iso.pw = feed.iso.pw) (primed : iso.outPrimed = feed.iso.outPrimed) :
    Drained size { feed with iso } reader cuts reads where
  stream := drained.stream
  ring ring found := drained.ring ring (pw ▸ found)
  bridged := by
    rw [primed, pw]
    exact drained.bridged
  served := drained.served
  took := drained.took
  standing := drained.standing
  aligned := drained.aligned
  lasting := drained.lasting
  draining read member live := primed.trans (drained.draining read member live)
  cushion := by
    rw [primed]
    exact drained.cushion
  first := drained.first

/-- PipeWire plays one buffer. -/
theorem playOne (drained : Drained size feed reader cuts reads)
    (wholeCapacity : size ∣ ringCap.toNat) {ring : RingT} (bridge : feed.iso.pw = some ring)
    {buffer : Played} (whole : size ∣ buffer.size.toNat) :
    Drained size
      { iso := { feed.iso with pw := some (ringWrite ring buffer.data buffer.size) }
        played := feed.played ++ bytesAt buffer.data buffer.size.toNat }
      (reader.write (bytesAt buffer.data buffer.size.toNat)) cuts reads where
  stream := congrArg (· ++ _) drained.stream
  ring other found := by
    obtain rfl := Option.some.inj found
    exact (drained.ring ring bridge).write buffer.data buffer.size
  bridged := nofun
  served := drained.served.write _
  took := by
    have known : ∀ cut ∈ cuts, cut.written ≤ feed.played.length := by
      rw [← drained.stream]
      exact drained.served.known
    exact ((List.forall₂_and_left _ _).mpr ⟨known, drained.took⟩).imp
      fun cut read both => both.2.append both.1 _
  standing := drained.standing.write wholeCapacity (by rwa [length_bytesAt])
  aligned := drained.aligned
  lasting := drained.lasting
  draining := drained.draining
  cushion primed waiting := by
    have before := drained.cushion primed waiting
    have capacity : outPrimeBytes ≤ ringCap.toNat := by decide
    rw [Reader.write_stream, List.length_append]
    show max reader.start _ + outPrimeBytes ≤ _
    omega
  first := drained.first

theorem play (drained : Drained size feed reader cuts reads)
    (wholeCapacity : size ∣ ringCap.toNat) {buffers : List Played}
    (whole : WholeBuffers size buffers) :
    ∃ reader, Drained size (feed.play buffers) reader cuts reads := by
  unfold IsoFeed.play
  split
  · rename_i ring bridge
    induction buffers generalizing feed reader ring with
    | nil =>
      refine ⟨reader, ?_⟩
      rw [playedBytes, List.flatMap_nil, List.append_nil]
      exact drained.congr bridge.symm rfl
    | cons buffer rest ih =>
      have here := drained.playOne wholeCapacity bridge (whole buffer List.mem_cons_self)
      obtain ⟨last, later⟩ := ih here (fun other member => whole other
        (List.mem_cons_of_mem _ member)) _ rfl
      refine ⟨last, ?_⟩
      rw [List.append_assoc] at later
      exact later
  · exact ⟨reader, drained⟩

/-- Once the cushion is there, the engine starts to drain. -/
theorem prime (drained : Drained size feed reader cuts reads) :
    Drained size { feed with iso := feed.iso.prime } reader cuts reads := by
  unfold IsoAudio.prime
  split
  · rename_i ring bridge
    split
    · rename_i reached
      rw [Bool.and_eq_true, decide_eq_true_eq] at reached
      have holds := drained.ring ring bridge
      have depth := reached.2
      rw [toInt_wpwPlaybackAvail holds.bounded, holds.used] at depth
      refine ⟨drained.stream, drained.ring, fun _ => ?_, drained.served, drained.took,
        drained.standing, drained.aligned, drained.lasting, fun _ _ _ => rfl, fun _ _ => ?_,
        drained.first⟩
      · show feed.iso.pw ≠ none
        rw [bridge]
        nofun
      · have inside := reader.inside
        omega
    · exact drained
  · exact drained

/-- The next packet takes the next cut. -/
theorem take (drained : Drained size feed reader cuts reads) {iso : IsoAudio}
    (primed : iso.outPrimed = feed.iso.outPrimed) (bridged : iso.outPrimed = true → iso.pw ≠ none)
    {count : Nat} (whole : size ∣ count) {read : Option (List UInt8)}
    (ring : ∀ ring, iso.pw = some ring → Holds ring (reader.read count))
    (pcm : read.getD [] = (reader.next count).segment reader.stream)
    (live : read.isSome ↔ feed.iso.outPrimed = true)
    (asked : read.isSome → count = outPcmBytes) :
    Drained size { feed with iso } (reader.read count) (cuts ++ [reader.next count])
      (reads ++ [read]) where
  stream := drained.stream
  ring := ring
  bridged := bridged
  served := drained.served.read count
  took := by
    refine List.rel_append drained.took (List.Forall₂.cons ⟨?_, ?_⟩ List.Forall₂.nil)
    · rw [pcm, drained.stream]
    · intro some_ short
      rw [← asked some_] at short
      exact Reader.next_exhausted short
  standing := drained.standing.read whole
  aligned cut member := by
    rcases List.mem_append.mp member with earlier | here
    · exact drained.aligned cut earlier
    · rw [List.mem_singleton.mp here]
      exact drained.standing.next whole
  lasting := by
    refine List.pairwise_append.mpr ⟨drained.lasting, List.pairwise_singleton _ _, ?_⟩
    intro earlier member later here before
    rw [List.mem_singleton.mp here, live]
    exact drained.draining earlier member before
  draining other member some_ := by
    rcases List.mem_append.mp member with earlier | here
    · exact primed.trans (drained.draining other earlier some_)
    · rw [List.mem_singleton.mp here, live] at some_
      exact primed.trans some_
  cushion started waiting := by
    -- a primed engine asked the ring for this packet
    have asked := waiting read (List.mem_append_right _ (List.mem_singleton_self read))
    have alive := live.mpr (primed.symm.trans started)
    rw [asked] at alive
    cases alive
  first i cut pcm found took waiting := by
    have length := drained.took.length_eq
    rcases lt_or_ge i reads.length with before | after
    · rw [List.getElem?_append_left (by omega)] at found
      rw [List.getElem?_append_left before] at took
      rw [List.take_append_of_le_length before.le] at waiting
      exact drained.first i cut pcm found took waiting
    · have inside := (List.getElem?_eq_some_iff.mp took).1
      rw [List.length_append, List.length_singleton] at inside
      obtain rfl : i = reads.length := by omega
      rw [List.getElem?_concat_length] at took
      rw [← length, List.getElem?_concat_length] at found
      rw [List.take_left] at waiting
      cases found
      have some_ : read.isSome := by rw [Option.some.inj took]; rfl
      exact drained.cushion (live.mp some_) waiting

/-- **A packet takes the next cut of what was played.** -/
theorem refilled (drained : Drained size feed reader cuts reads) (wholePcm : size ∣ outPcmBytes)
    {count : Nat} {read : Option (List UInt8)} {next : IsoAudio}
    (refilled : IsoAudio.Refilled count feed.iso read next) :
    ∃ reader cut, Drained size { feed with iso := next } reader (cuts ++ [cut])
      (reads ++ [read]) := by
  obtain ⟨base, pcmAt, asked⟩ := refilled.asked
  by_cases waiting : feed.iso.outPrimed = false ∨ feed.iso.pw = none
  · rw [IsoAudio.readPcm_none waiting] at asked
    obtain ⟨rfl, pw⟩ := Prod.mk.inj asked
    have idle : feed.iso.outPrimed ≠ true := by
      intro primed
      rcases waiting with waiting | noBridge
      · rw [waiting] at primed
        cases primed
      · exact drained.bridged primed noBridge
    refine ⟨_, _, drained.take refilled.primed ?_ (dvd_zero size) ?_ ?_ ?_ nofun⟩
    · intro primed
      exact absurd (refilled.primed.symm.trans primed) idle
    · intro ring found
      have holds := drained.ring ring (pw.trans found)
      refine Eq.trans holds ?_
      rw [Reader.read_view, Cyclic.Queue.read_items, List.drop_zero]
    · rw [Reader.segment_next, Cyclic.Queue.read_fst, List.take_zero]
      rfl
    · exact iff_of_false Bool.false_ne_true idle
  · obtain ⟨primed, bridge⟩ := not_or.mp waiting
    obtain ⟨ring, bridge⟩ := Option.ne_none_iff_exists'.mp bridge
    have primed := Bool.of_not_eq_false primed
    obtain ⟨dst, pcm⟩ := IsoAudio.readPcm_some bridge primed base pcmAt
    rw [pcm] at asked
    obtain ⟨rfl, pw⟩ := Prod.mk.inj asked
    obtain ⟨bytes, -, rest⟩ := (drained.ring ring bridge).read dst 192
    refine ⟨_, _, drained.take refilled.primed ?_ wholePcm ?_ ?_ ?_ fun _ => rfl⟩
    · rw [← pw]
      exact fun _ => nofun
    · intro other found
      obtain rfl := Option.some.inj (pw.trans found)
      exact rest
    · exact bytes
    · exact iff_of_true rfl primed

end Drained

/-! ### One completion -/

namespace IsoFeed

variable {size count : Nat} {feed : IsoFeed} {reader : Reader ringCap.toNat UInt8}
  {cuts : List (Cut ringCap.toNat)} {reads : List (Option (List UInt8))}

theorem ready_play (ready : feed.iso.Ready count) (buffers : List Played) :
    (feed.play buffers).iso.Ready count := by
  unfold play
  split
  · exact ⟨ready.header, ready.hlen, ready.stride, ready.number⟩
  · exact ready

/-- What one refill loop does to the engine, the buffer and the stream. -/
structure Filled (size count filled : Nat) (base : List UInt8)
    (reads : List (Option (List UInt8))) (cuts : List (Cut ringCap.toNat)) (refill : IsoRefill) :
    Prop where
  ready : refill.feed.iso.Ready (count + filled)
  length : refill.reads.length = filled
  fits : ∀ read ∈ refill.reads, (read.getD []).length ≤ outPcmBytes
  base : refill.base =
    (refill.reads.mapIdx fun i read =>
      isoPacket ((count + i) % 255 + 1) (read.getD [])).flatten ++ base.drop (filled * isoStride)
  drained : ∃ reader more, Drained size refill.feed reader (cuts ++ more) (reads ++ refill.reads)

/-- The packets of a refill loop have one stride each. -/
theorem length_of_mem_packets {reads : List (Option (List UInt8))}
    (fits : ∀ read ∈ reads, (read.getD []).length ≤ outPcmBytes) (count : Nat) :
    ∀ packet ∈ reads.mapIdx fun i read => isoPacket ((count + i) % 255 + 1) (read.getD []),
      packet.length = isoStride := by
  intro packet member
  obtain ⟨i, inside, rfl⟩ := List.mem_mapIdx.mp member
  exact length_isoPacket _ (fits _ (List.getElem_mem inside))

/-- **The loop of `_on_out` never raises**: its packets are numbered consecutively, fill the buffer
from its start and take the next cuts of what was played. -/
theorem refill_filled (ready : feed.iso.Ready count) (drained : Drained size feed reader cuts reads)
    (wholeCapacity : size ∣ ringCap.toNat) (wholePcm : size ∣ outPcmBytes)
    {beforeRead : Nat → List Played} (whole : ∀ i, WholeBuffers size (beforeRead i))
    {base : List UInt8} (filled : Nat) (room : filled * isoStride ≤ base.length) :
    ∃ refill, feed.refill beforeRead 6 base filled = .ok refill ∧
      Filled size count filled base reads cuts refill := by
  induction filled with
  | zero =>
    refine ⟨_, rfl, ready, rfl, nofun, ?_, reader, [], ?_⟩
    · rw [Nat.zero_mul, List.drop_zero]
      rfl
    · rw [List.append_nil, List.append_nil]
      exact drained
  | succ i ih =>
    have space : (i + 1) * isoStride = i * isoStride + isoStride := Nat.succ_mul i isoStride
    obtain ⟨before, ran, filled⟩ := ih (by omega)
    obtain ⟨_, more, streaming⟩ := filled.drained
    obtain ⟨_, streaming⟩ := streaming.play wholeCapacity (whole i)
    have next := ready_play filled.ready (beforeRead i)
    have framedLength := length_flatten (length_of_mem_packets filled.fits count)
    rw [List.length_mapIdx, filled.length] at framedLength
    have rest : isoStride ≤ (base.drop (i * isoStride)).length := by
      rw [List.length_drop]
      omega
    obtain ⟨iso, read, refilled, step⟩ := IsoAudio.refillPacket_ok next _ framedLength rest
    obtain ⟨_, cut, streaming⟩ := streaming.refilled wholePcm step
    rw [← filled.base, List.drop_drop, ← space] at refilled
    rw [List.append_assoc, List.append_assoc] at streaming
    refine ⟨⟨{ before.feed.play (beforeRead i) with iso }, _, before.reads ++ [read]⟩,
      (bind_of_ok ran _).trans (bind_of_ok refilled _), step.ready, ?_, fun other member => ?_, ?_,
      _, more ++ [cut], streaming⟩
    · rw [List.length_append, filled.length]
      rfl
    · rcases List.mem_append.mp member with earlier | here
      · exact filled.fits other earlier
      · rw [List.mem_singleton.mp here]
        exact step.fits
    · rw [List.mapIdx_concat, List.flatten_concat, filled.length]

/-- The call returns before it touches the engine. -/
def Guarded (feed : IsoFeed) (status : TransferStatus) : Prop :=
  feed.iso.running = false ∨ status = .noDevice ∨ status = .cancelled

/-- **One completion never raises.** It returns early, or refills the transfer buffer. -/
theorem onOut_filled (ready : feed.iso.Ready count) (drained : Drained size feed reader cuts reads)
    (wholeCapacity : size ∣ ringCap.toNat) (wholePcm : size ∣ outPcmBytes)
    {arrivals : IsoArrivals} (wholePrime : WholeBuffers size arrivals.beforePrime)
    (wholeRead : ∀ i, WholeBuffers size (arrivals.beforeRead i)) (status : TransferStatus)
    {base : List UInt8} (room : outPktsPerXfer * isoStride = base.length) :
    (feed.Guarded status ∧ feed.onOut status arrivals base = .ok none) ∨
      ∃ refill, feed.onOut status arrivals base = .ok (some refill) ∧
        Filled size count outPktsPerXfer base reads cuts refill := by
  unfold onOut
  by_cases stopped : feed.iso.running = false
  · rw [if_pos stopped]
    exact Or.inl ⟨Or.inl stopped, rfl⟩
  · rw [if_neg stopped]
    by_cases gone : status = .noDevice ∨ status = .cancelled
    · rw [if_pos gone]
      exact Or.inl ⟨Or.inr gone, rfl⟩
    · rw [if_neg gone]
      obtain ⟨_, streaming⟩ := drained.play wholeCapacity wholePrime
      have next := (ready_play ready arrivals.beforePrime).prime
      obtain ⟨refill, ran, filled⟩ := refill_filled next streaming.prime wholeCapacity wholePcm
        wholeRead outPktsPerXfer room.le
      refine Or.inr ⟨refill, ?_, filled⟩
      dsimp only
      rw [next.hlen, bind_of_ok ran]
      rfl

/-- The packets that a refill leaves in the transfer buffer. -/
theorem Filled.pieces {base : List UInt8} {refill : IsoRefill}
    (filled : Filled size count outPktsPerXfer base reads cuts refill) :
    Frames.pieces isoStride outPktsPerXfer refill.base =
      refill.reads.mapIdx fun i read => isoPacket ((count + i) % 255 + 1) (read.getD []) := by
  have cut := pieces_flatten (length_of_mem_packets filled.fits count)
    (base.drop (outPktsPerXfer * isoStride))
  rwa [List.length_mapIdx, filled.length, ← filled.base] at cut

theorem Filled.length_base {base : List UInt8} {refill : IsoRefill}
    (filled : Filled size count outPktsPerXfer base reads cuts refill)
    (room : outPktsPerXfer * isoStride = base.length) :
    outPktsPerXfer * isoStride = refill.base.length := by
  rw [filled.base, List.length_append, List.length_drop, ← room, Nat.sub_self, Nat.add_zero,
    length_flatten (length_of_mem_packets filled.fits count), List.length_mapIdx, filled.length]

end IsoFeed

/-! ### Whole runs -/

/-- Everything that is played in the event is a whole number of units of `size` bytes. -/
def IsoEvent.Whole (size : Nat) : IsoEvent → Prop
  | .play buffers => WholeBuffers size buffers
  | .onOut _ _ arrivals =>
    WholeBuffers size arrivals.beforePrime ∧ ∀ i, WholeBuffers size (arrivals.beforeRead i)
  | .maybeDiag | .stop => True

namespace IsoRun

/-- What every step keeps. -/
structure Steady (size : Nat) (run : IsoRun) : Prop where
  ready : run.feed.iso.Ready run.reads.length
  bufs : ∀ base ∈ run.bufs, outPktsPerXfer * isoStride = base.length
  refilled : run.refilled = run.reads.mapIdx fun i read => isoPacket (i % 255 + 1) (read.getD [])
  silent : ∀ submission ∈ run.submitted, submission.origin = .start →
    submission.buffer = List.replicate (isoStride * outPktsPerXfer) 0
  drained : ∃ reader cuts, Drained size run.feed reader cuts run.reads

theorem steady_start (size : Nat) (bridge : Option (Fin ringCap.toNat → UInt8)) :
    ∃ begun, start (bridge.map ringInit) = .ok begun ∧ Steady size begun := by
  obtain ⟨iso, started, ready, pw, waiting⟩ := IsoAudio.Ready.start (bridge.map ringInit)
  refine ⟨_, bind_of_ok started _, ready, fun base member => ?_, ?_, ?_, _, _,
    Drained.start pw waiting⟩
  · rw [List.eq_of_mem_replicate member, List.length_replicate, ready.stride]
    exact Nat.mul_comm _ _
  · show (List.filter _ _).flatMap _ = []
    rw [List.filter_eq_nil_iff.mpr, List.flatMap_nil]
    intro submission member
    obtain ⟨buffer, -, rfl⟩ := List.mem_map.mp member
    exact (of_decide_eq_false rfl : ¬ Origin.start = Origin.onOut) ∘ of_decide_eq_true
  · intro submission member _
    obtain ⟨buffer, inside, rfl⟩ := List.mem_map.mp member
    rw [← ready.stride]
    exact List.eq_of_mem_replicate inside

theorem refilled_eq {run : IsoRun} {count : Nat} (ready : run.feed.iso.Ready count) :
    run.refilled = (run.submitted.filter (·.origin = .onOut)).flatMap fun submission =>
      pieces isoStride outPktsPerXfer submission.buffer := by
  rw [refilled, ready.stride]

theorem steady_resubmit {size : Nat} {run : IsoRun} (steady : Steady size run) (xfer : Nat)
    {base : List UInt8} {cuts : List (Cut ringCap.toNat)} {refill : IsoRefill}
    (room : outPktsPerXfer * isoStride = base.length)
    (filled : IsoFeed.Filled size run.reads.length outPktsPerXfer base run.reads cuts refill) :
    Steady size (run.resubmit xfer refill) := by
  have ready : (run.resubmit xfer refill).feed.iso.Ready
      (run.resubmit xfer refill).reads.length := by
    show refill.feed.iso.Ready (run.reads ++ refill.reads).length
    rw [List.length_append, filled.length]
    exact filled.ready
  obtain ⟨reader, more, drained⟩ := filled.drained
  refine ⟨ready, fun other member => ?_, ?_, fun submission member => ?_, reader, _, drained⟩
  · rcases List.mem_or_eq_of_mem_set member with old | rfl
    · exact steady.bufs other old
    · exact filled.length_base room
  · have old := steady.refilled
    rw [refilled_eq steady.ready] at old
    rw [refilled_eq ready]
    show ((run.submitted ++ [(_ : Submission)]).filter (·.origin = .onOut)).flatMap _ =
      (run.reads ++ refill.reads).mapIdx _
    rw [List.filter_append, List.flatMap_append, old, List.mapIdx_append]
    refine congrArg _ ?_
    show Frames.pieces isoStride outPktsPerXfer refill.base ++ [] = _
    rw [List.append_nil, filled.pieces]
    simp only [Nat.add_comm]
  · rcases List.mem_append.mp member with earlier | here
    · exact steady.silent submission earlier
    · rw [List.mem_singleton.mp here]
      nofun

theorem steady_step {size : Nat} (wholeCapacity : size ∣ ringCap.toNat)
    (wholePcm : size ∣ outPcmBytes) {run : IsoRun} (steady : Steady size run) {event : IsoEvent}
    (whole : event.Whole size) : ∃ next, run.step event = .ok next ∧ Steady size next := by
  obtain ⟨reader, cuts, drained⟩ := steady.drained
  have ready := steady.ready
  cases event with
  | play buffers =>
    have refilled := steady.refilled
    rw [refilled_eq ready] at refilled
    have next := IsoFeed.ready_play ready buffers
    obtain ⟨reader, streaming⟩ := drained.play wholeCapacity whole
    refine ⟨_, rfl, next, steady.bufs, ?_, steady.silent, reader, cuts, streaming⟩
    rw [refilled_eq next]
    exact refilled
  | maybeDiag =>
    exact ⟨_, rfl, ⟨ready.header, ready.hlen, ready.stride, ready.number⟩, steady.bufs,
      steady.refilled, steady.silent, reader, cuts, drained.congr rfl rfl⟩
  | stop =>
    exact ⟨_, rfl, ⟨ready.header, ready.hlen, ready.stride, ready.number⟩, steady.bufs,
      steady.refilled, steady.silent, reader, cuts, drained.congr rfl rfl⟩
  | onOut xfer status arrivals =>
    simp only [step]
    cases found : run.bufs[xfer]? with
    | none => exact ⟨run, rfl, steady⟩
    | some base =>
      have room := steady.bufs base (List.mem_of_getElem? found)
      rcases IsoFeed.onOut_filled ready drained wholeCapacity wholePcm whole.1 whole.2 status room
        with ⟨-, returned⟩ | ⟨refill, returned, filled⟩
      · exact ⟨run, bind_of_ok returned _, steady⟩
      · exact ⟨_, bind_of_ok returned _, steady_resubmit steady xfer room filled⟩

theorem steady_run {size : Nat} (wholeCapacity : size ∣ ringCap.toNat)
    (wholePcm : size ∣ outPcmBytes) (bridge : Option (Fin ringCap.toNat → UInt8))
    {events : List IsoEvent} (whole : ∀ event ∈ events, event.Whole size) :
    ∃ last, run bridge events = .ok last ∧ Steady size last := by
  obtain ⟨begun, started, steady⟩ := steady_start size bridge
  have total : ∀ (done : List IsoEvent) (run : IsoRun) (event : IsoEvent),
      Steady size run → event.Whole size → ∃ next, run.step event = .ok next ∧ Steady size next :=
    fun _ _ _ steady whole => steady_step wholeCapacity wholePcm steady whole
  obtain ⟨last, ran, steady⟩ := run_total total events [] begun steady whole
  exact ⟨last, (bind_of_ok started _).trans ran, steady⟩

end IsoRun

end Wolverine.Python
