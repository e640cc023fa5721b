/-
**The playback half of the iso engine: the parts of `on_out`.**

`OutState` is what the OUT completion callback reads and writes of the engine state. Each part of
`on_out` is one function on it: `prime` waits for a cushion, `trimExcess` and `trim` bound the
latency, `refillPacket` writes one iso packet (header with the next sequence number, then ring
bytes, then silence) into the transfer buffer. The ring operations sit in different parts, so that
sink callbacks can run between them.

`refillPacket_base` — a refill replaces exactly one stride of the buffer by one whole packet, and
`decode_outPacket` reads that packet back.
-/

import Wolverine.Audio.Sink
import Wolverine.Base.Overlay
import Wolverine.Gip.RoundTrip

namespace Wolverine.Iso

open Wolverine.Rust Wolverine.Gip Wolverine.Audio Wolverine.Overlay

/-! ### Settings -/

/-- OUT: PCM bytes of a 1 ms frame (48 frames × 2 channels × 2 bytes). -/
def outPcmBytes : Nat := 192

def defaultOutPktsPerXfer : Nat := 8
def defaultOutNumXfers : Nat := 6
def defaultPrimeMs : Nat := 40

/-- A positive setting, or the default; `parsed` is the variable, if it is set and a `usize`. -/
def envUsize (parsed : Option Nat) (default : Nat) : Nat := (parsed.filter (0 < ·)).getD default

theorem envUsize_pos (parsed : Option Nat) {default : Nat} (positive : 0 < default) :
    0 < envUsize parsed default := by
  rw [envUsize]
  cases kept : parsed.filter (0 < ·) with
  | none => exact positive
  | some value => exact of_decide_eq_true (Option.filter_eq_some_iff.mp kept).2

/-- What `start` fixes for the OUT direction. -/
structure OutConfig where
  outPktsPerXfer : Nat
  outNumXfers : Nat
  primeBytes : Nat
  pktsPositive : 0 < outPktsPerXfer
  xfersPositive : 0 < outNumXfers

/-- The settings from the environment: `WOLVERINE_OUT_PKTS`, `WOLVERINE_OUT_XFERS` and
`WOLVERINE_PRIME_MS`. -/
def OutConfig.ofEnv (profile : Profile) (outPkts outXfers primeMs : Option Nat) :
    Except Panic OutConfig := do
  let primeBytes ← mulUsize profile outPcmBytes (envUsize primeMs defaultPrimeMs)
  return {
    outPktsPerXfer := envUsize outPkts defaultOutPktsPerXfer
    outNumXfers := envUsize outXfers defaultOutNumXfers
    primeBytes
    pktsPositive := envUsize_pos outPkts (by decide)
    xfersPositive := envUsize_pos outXfers (by decide) }

/-! ### The engine state -/

/-- The status of a completed transfer. -/
inductive TransferStatus
  | completed
  | error
  | timedOut
  | cancelled
  | stall
  | noDevice
  | overflow
  deriving DecidableEq, Repr

/-- The engine state of the OUT direction. -/
structure OutState where
  /-- System audio to send on EP3 OUT. -/
  play : Ring ringCapacity UInt8
  /-- The AUDIO_SAMPLES header template; byte 2 is the sequence number. -/
  outHdr : List UInt8
  /-- The stride of an iso packet. -/
  outPktSize : Nat
  /-- Iso packets of a transfer. -/
  outPktsPerXfer : Nat
  /-- Ring depth to reach before draining real audio. -/
  primeBytes : Nat
  outSeq : UInt8
  primed : Bool
  running : Bool
  outPkts : Nat
  outSilence : Nat
  outTrimmed : Nat
  /-- A primed engine has seen `primeBytes` bytes in the ring. -/
  primedFits : primed = true → primeBytes ≤ ringCapacity

/-- The header prefixed to every OUT packet. -/
def outHeader (seq : UInt8) : List UInt8 :=
  buildHeader Cmd.audioSamples optsInternal seq outPcmBytes

/-- The stride of an OUT packet: header and PCM. -/
def outStride : Nat := (outHeader 1).length + outPcmBytes

/-- The engine state that `start` builds. -/
def OutState.init (config : OutConfig) : OutState where
  play := Ring.new ringCapacity UInt8
  outHdr := outHeader 1
  outPktSize := outStride
  outPktsPerXfer := config.outPktsPerXfer
  primeBytes := config.primeBytes
  outSeq := 1
  primed := false
  running := true
  outPkts := 0
  outSilence := 0
  outTrimmed := 0
  primedFits := nofun

namespace OutState

/-! ### The parts of `on_out` -/

/-- Wait for a cushion before draining real audio. -/
def prime (st : OutState) : OutState :=
  if cushion : st.primed = false ∧ st.primeBytes ≤ st.play.avail then
    { st with primed := true, primedFits := fun _ => cushion.2.trans st.play.avail_le }
  else st

/-- How many of the oldest bytes to drop, when the ring has grown past the hysteresis. The sum does
not overflow, by `primedFits`. -/
def trimExcess (st : OutState) : Option Nat :=
  if st.primed then
    let avail := st.play.avail
    let high := st.primeBytes + max st.primeBytes outPcmBytes
    if high < avail then some ((avail - st.primeBytes) &&& (usizeSize - 1 - 3))   -- `& !3`
    else none
  else none

/-- Drop them. -/
def trim (st : OutState) (excess : Option Nat) : OutState :=
  match excess with
  | some excess =>
    let (n, play) := st.play.skip excess
    { st with play, outTrimmed := st.outTrimmed + n }
  | none => st

/-- Refill iso packet `i` of the transfer buffer `base`; `hlen` is the header length. Also returned
is what was read from the ring. -/
def refillPacket (st : OutState) (hlen i : Nat) (base : List UInt8) :
    OutState × List UInt8 × List UInt8 :=
  let off := i * st.outPktSize
  -- GIP header with the next sequence number, never 0
  let outHdr := st.outHdr.set 2 st.outSeq
  let outSeq := if st.outSeq < 255 then st.outSeq + 1 else 1
  let base := overlay base off outHdr
  -- PCM straight into the transfer buffer, else silence
  let (pcm, play) := if st.primed then st.play.read outPcmBytes else ([], st.play)
  let base := overlay base (off + hlen) pcm
  let n := pcm.length
  let base :=
    if n < outPcmBytes then
      overlay base (off + hlen + n) (List.replicate (outPcmBytes - n) 0)
    else base
  let outSilence := if n < outPcmBytes then st.outSilence + 1 else st.outSilence
  ({ st with play, outHdr, outSeq, outSilence, outPkts := st.outPkts + 1 }, base, pcm)

/-- The periodic diagnostic starts its counters again. -/
def diagnostics (st : OutState) : OutState :=
  { st with outPkts := 0, outSilence := 0, outTrimmed := 0 }

end OutState

/-! ### The packets on the bus -/

/-- A framed packet: header, ring bytes, silence. -/
def outPacket (seq : UInt8) (pcm : List UInt8) : List UInt8 :=
  outHeader seq ++ (pcm ++ List.replicate (outPcmBytes - pcm.length) 0)

/-- The sequence number of packet `i`: 1 to 255, cyclic. -/
def seqAt (i : Nat) : UInt8 := UInt8.ofNat (i % 255 + 1)

theorem toNat_seqAt (i : Nat) : (seqAt i).toNat = i % 255 + 1 := by
  rw [seqAt, UInt8.toNat_ofNat']
  omega

theorem seqAt_succ (i : Nat) :
    seqAt (i + 1) = if seqAt i < 255 then seqAt i + 1 else 1 := by
  refine UInt8.toNat_inj.mp ?_
  have value := toNat_seqAt i
  have next := toNat_seqAt (i + 1)
  by_cases small : seqAt i < 255
  · have below : (seqAt i).toNat < 255 := UInt8.lt_iff_toNat_lt.mp small
    rw [if_pos small, next, UInt8.toNat_add, value]
    show (i + 1) % 255 + 1 = (i % 255 + 1 + 1) % 256
    omega
  · have top : ¬ (seqAt i).toNat < 255 := fun below => small (UInt8.lt_iff_toNat_lt.mpr below)
    rw [if_neg small, next]
    show (i + 1) % 255 + 1 = 1
    omega

/-- Writing the sequence number into the header template. -/
theorem outHeader_set (old seq : UInt8) : (outHeader old).set 2 seq = outHeader seq := by
  rw [outHeader, outHeader, buildHeader_eq, buildHeader_eq]
  rfl

theorem length_outHeader (first second : UInt8) :
    (outHeader first).length = (outHeader second).length := by
  rw [← outHeader_set first second, List.length_set]

theorem length_outPacket (seq : UInt8) {pcm : List UInt8} (fits : pcm.length ≤ outPcmBytes) :
    (outPacket seq pcm).length = outStride := by
  rw [outStride, outPacket, List.length_append, List.length_append, List.length_replicate,
    length_outHeader seq 1, Nat.add_sub_cancel' fits]

/-- **A packet on the bus decodes to its sequence number and its payload.** -/
theorem decode_outPacket (profile : Profile) (seq : UInt8) {pcm : List UInt8}
    (fits : pcm.length ≤ outPcmBytes) :
    decode profile (outPacket seq pcm) = .ok (some
      { cmd := Cmd.audioSamples
        options := optsInternal
        seq
        hdrLen := (outHeader seq).length
        pktLen := outPcmBytes
        chunkOffset := 0
        payload := pcm ++ List.replicate (outPcmBytes - pcm.length) 0 }) := by
  have whole : (pcm ++ List.replicate (outPcmBytes - pcm.length) 0).length = outPcmBytes := by
    rw [List.length_append, List.length_replicate, Nat.add_sub_cancel' fits]
  have built := @decode_built profile Cmd.audioSamples optsInternal seq (by decide)
    (pcm ++ List.replicate (outPcmBytes - pcm.length) 0) (by rw [whole]; decide) []
  rw [whole, List.append_nil] at built
  exact built

namespace OutState

/-- The engine is ready to frame packet `count` of the stream. -/
structure Ready (pkts count : Nat) (st : OutState) : Prop where
  header : ∃ seq, st.outHdr = outHeader seq
  stride : st.outPktSize = outStride
  pkts : st.outPktsPerXfer = pkts
  number : st.outSeq = seqAt count

theorem Ready.hlen {pkts count : Nat} {st : OutState} (ready : st.Ready pkts count) :
    st.outHdr.length = (outHeader 1).length := by
  obtain ⟨seq, header⟩ := ready.header
  rw [header, length_outHeader seq 1]

/-- `start` leaves the engine ready for the first packet. -/
theorem Ready.init (config : OutConfig) :
    (OutState.init config).Ready config.outPktsPerXfer 0 := ⟨⟨1, rfl⟩, rfl, rfl, rfl⟩

/-- The ring content is not part of the framing. -/
theorem Ready.play {pkts count : Nat} {st : OutState} (ready : st.Ready pkts count)
    (play : Ring ringCapacity UInt8) : { st with play }.Ready pkts count :=
  ⟨ready.header, ready.stride, ready.pkts, ready.number⟩

/-- What a refill reads from the ring fits the payload. -/
theorem length_refillPacket_pcm (st : OutState) (hlen i : Nat) (base : List UInt8) :
    (st.refillPacket hlen i base).2.2.length ≤ outPcmBytes := by
  show (if st.primed then st.play.read outPcmBytes else ([], st.play)).1.length ≤ outPcmBytes
  split
  · exact List.length_take_le _ _
  · exact Nat.zero_le _

/-- **A refill replaces one stride of the buffer by one packet.** -/
theorem refillPacket_base {pkts count : Nat} {st : OutState} (ready : st.Ready pkts count) {i : Nat}
    (front back : List UInt8) (position : front.length = i * outStride)
    (room : outStride ≤ back.length) :
    (st.refillPacket (outHeader 1).length i (front ++ back)).2.1 =
      front ++
        outPacket st.outSeq (st.refillPacket (outHeader 1).length i (front ++ back)).2.2 ++
        back.drop outStride := by
  obtain ⟨seq, header⟩ := ready.header
  have bound := st.length_refillPacket_pcm (outHeader 1).length i (front ++ back)
  have hdr : st.outHdr.set 2 st.outSeq = outHeader st.outSeq := by rw [header, outHeader_set]
  have hlen : (outHeader 1).length = (outHeader st.outSeq).length := length_outHeader 1 st.outSeq
  unfold refillPacket at bound ⊢
  simp only at bound ⊢
  generalize (if st.primed then st.play.read outPcmBytes else ([], st.play)) = got at bound ⊢
  obtain ⟨pcm, play⟩ := got
  simp only at bound ⊢
  have packet := length_outPacket st.outSeq bound
  have fits : front.length + (outHeader st.outSeq ++ pcm).length + (outPcmBytes - pcm.length) ≤
      (front ++ back).length := by
    rw [outStride, hlen] at room
    simp only [List.length_append]
    omega
  have filled : overlay (overlay (front ++ back) front.length (outHeader st.outSeq))
      (front.length + (outHeader st.outSeq).length) pcm =
      overlay (front ++ back) front.length (outHeader st.outSeq ++ pcm) :=
    overlay_overlay (by rw [Nat.add_assoc, ← List.length_append]; omega)
  rw [hdr, hlen, ready.stride, ← position, filled]
  by_cases short : pcm.length < outPcmBytes
  · have silence : overlay (overlay (front ++ back) front.length (outHeader st.outSeq ++ pcm))
        (front.length + (outHeader st.outSeq).length + pcm.length)
        (List.replicate (outPcmBytes - pcm.length) 0) =
        overlay (front ++ back) front.length (outPacket st.outSeq pcm) := by
      rw [Nat.add_assoc, ← List.length_append, overlay_overlay (by rwa [List.length_replicate]),
        outPacket, List.append_assoc]
    rw [if_pos short, silence, overlay_seam, packet]
  · have full : outPacket st.outSeq pcm = outHeader st.outSeq ++ pcm := by
      rw [outPacket, Nat.sub_eq_zero_of_le (not_lt.mp short), List.replicate_zero,
        List.append_nil]
    rw [if_neg short, ← full, overlay_seam, packet]

/-- A refill moves on to the next sequence number. -/
theorem Ready.refillPacket {pkts count : Nat} {st : OutState} (ready : st.Ready pkts count)
    (hlen i : Nat) (base : List UInt8) :
    (st.refillPacket hlen i base).1.Ready pkts (count + 1) := by
  obtain ⟨seq, header⟩ := ready.header
  refine ⟨⟨st.outSeq, ?_⟩, ready.stride, ready.pkts, ?_⟩
  · show st.outHdr.set 2 st.outSeq = outHeader st.outSeq
    rw [header, outHeader_set]
  · rw [seqAt_succ, ← ready.number]
    rfl

theorem refillPacket_play (st : OutState) (hlen i : Nat) (base : List UInt8) :
    ((st.refillPacket hlen i base).2.2, (st.refillPacket hlen i base).1.play) =
      if st.primed then st.play.read outPcmBytes else ([], st.play) := rfl

/-- What a primed engine reads for a packet. -/
theorem refillPacket_read {st : OutState} (primed : st.primed = true) (hlen i : Nat)
    (base : List UInt8) :
    (st.refillPacket hlen i base).2.2 = st.play.items.take outPcmBytes ∧
      (st.refillPacket hlen i base).1.play = (st.play.read outPcmBytes).2 := by
  have got := st.refillPacket_play hlen i base
  rw [if_pos primed] at got
  exact ⟨congrArg Prod.fst got, congrArg Prod.snd got⟩

/-- An engine that is not primed reads nothing. -/
theorem refillPacket_waiting {st : OutState} (waiting : st.primed = false) (hlen i : Nat)
    (base : List UInt8) :
    (st.refillPacket hlen i base).2.2 = [] ∧
      (st.refillPacket hlen i base).1.play = st.play := by
  have got := st.refillPacket_play hlen i base
  rw [if_neg (by rw [waiting]; exact Bool.false_ne_true)] at got
  exact ⟨congrArg Prod.fst got, congrArg Prod.snd got⟩

theorem prime_play (st : OutState) : st.prime.play = st.play := by
  rw [prime]
  split <;> rfl

theorem Ready.prime {pkts count : Nat} {st : OutState} (ready : st.Ready pkts count) :
    st.prime.Ready pkts count := by
  rw [OutState.prime]
  split
  · exact ⟨ready.header, ready.stride, ready.pkts, ready.number⟩
  · exact ready

theorem Ready.trim {pkts count : Nat} {st : OutState} (ready : st.Ready pkts count)
    (excess : Option Nat) : (st.trim excess).Ready pkts count := by
  cases excess with
  | none => exact ready
  | some excess => exact ⟨ready.header, ready.stride, ready.pkts, ready.number⟩

/-- The trim drops whole stereo frames. -/
theorem trimExcess_aligned {st : OutState} {excess : Nat} (trims : st.trimExcess = some excess) :
    4 ∣ excess := by
  have masked : ∀ n : Nat, 4 ∣ n &&& (usizeSize - 1 - 3) := by
    intro n
    have low : (n &&& (usizeSize - 1 - 3)) &&& (2 ^ 2 - 1) = 0 := by
      rw [Nat.and_assoc, show (usizeSize - 1 - 3) &&& (2 ^ 2 - 1) = 0 by decide, Nat.and_zero]
    rw [Nat.and_two_pow_sub_one_eq_mod] at low
    exact Nat.dvd_of_mod_eq_zero low
  rw [trimExcess] at trims
  split at trims
  · simp only at trims
    split at trims
    · cases trims
      exact masked _
    · cases trims
  · cases trims

end OutState

end Wolverine.Iso
