/-
**The header decoder of `gip_init.py`, and the two decoders side by side.**

The loops of `decode_gip_header` stop at the first byte without the continuation bit or at the end
of the data, whichever comes first: a cut header is decoded from the bytes that are there.

* `decodeGipHeader_eq` — what the decoder returns, on every byte string.
* `decode_buildGipHeader` — the header round trip, with and without a chunk offset.
* `decoders_agree_iff` — on data with short varints, `gip::decode` returns the same header exactly
  where no varint is cut; the Rust decoder rejects a cut one.
-/

import Wolverine.Gip.RoundTrip
import Wolverine.Python.Wire

namespace Wolverine.Python

open Wolverine.Rust
open Wolverine.Gip (lengthVarint offsetVarint offsetLength chunked HeaderComplete ShortVarints
  headerPacket)

/-! ### The decoder -/

/-- One of the two varint loops, on the bytes from index `pos` on: the value and the index after
the last byte read. -/
def decodeVarintLoop (value shift pos : Nat) : List UInt8 → Nat × Nat
  | [] => (value, pos)
  | byte :: rest =>
    let value := value ||| (byte.toNat &&& 0x7f) <<< shift
    if byte.toNat &&& 0x80 = 0 then (value, pos + 1)
    else decodeVarintLoop value (shift + 7) (pos + 1) rest

/-- The varint at index `pos`. -/
def decodeVarint (data : List UInt8) (pos : Nat) : Nat × Nat :=
  decodeVarintLoop 0 0 pos (data.drop pos)

/-- What `decode_gip_header` returns. -/
structure Header where
  cmd : Nat
  opts : Nat
  seq : Nat
  hdrLen : Nat
  pktLen : Nat
  /-- Meaningful only when CHUNK is set. -/
  chunkOffset : Nat
  deriving DecidableEq, Repr

def decodeGipHeader (data : List UInt8) : Option Header :=
  match data with
  | cmd :: opts :: seq :: _ :: _ =>
    let (pktLen, pos) := decodeVarint data 3
    let (chunkOffset, pos) :=
      if opts.toNat &&& gipOptChunk ≠ 0 then decodeVarint data pos else (0, pos)
    some
      { cmd := cmd.toNat, opts := opts.toNat, seq := seq.toNat, hdrLen := pos, pktLen, chunkOffset }
  | _ => none   -- `len(data) < 4`

/-! ### What it returns -/

theorem and_continue_eq_zero (byte : UInt8) :
    byte.toNat &&& 0x80 = 0 ↔ Leb128.continues byte = false := by
  have masked : (byte &&& 0x80).toNat = byte.toNat &&& 0x80 := UInt8.toNat_and _ _
  rw [Leb128.continues, decide_eq_false_iff_not, not_not, ← UInt8.toNat_inj, masked]
  rfl

/-- **The loop invariant.** The accumulator is below the next group, so each byte adds its seven
bits above it. -/
theorem decodeVarintLoop_eq (bytes : List UInt8) : ∀ value shift pos : Nat, value < 2 ^ shift →
    decodeVarintLoop value shift pos bytes =
      (value + Leb128.value (Leb128.run bytes) * 2 ^ shift, pos + (Leb128.run bytes).length) := by
  induction bytes with
  | nil =>
    intro value shift pos _
    show (value, pos) = (value + 0 * 2 ^ shift, pos + 0)
    rw [Nat.zero_mul, Nat.add_zero, Nat.add_zero]
  | cons byte rest ih =>
    intro value shift pos below
    have group : byte.toNat &&& 0x7f = Leb128.low7 byte := by
      rw [Leb128.low7_eq, Leb128.and_low7]
    have added : value ||| Leb128.low7 byte <<< shift = value + Leb128.low7 byte * 2 ^ shift := by
      rw [Nat.or_comm, ← Nat.shiftLeft_add_eq_or_of_lt below, Nat.shiftLeft_eq, Nat.add_comm]
    rw [decodeVarintLoop]
    simp only [group, added]
    by_cases last : byte.toNat &&& 0x80 = 0
    · have stop := (and_continue_eq_zero byte).mp last
      rw [if_pos last, Leb128.run_cons_last stop]
      simp only [Leb128.value, Nat.mul_zero, Nat.add_zero, List.length_singleton]
    · have more : Leb128.continues byte = true :=
        Bool.eq_true_of_not_eq_false fun stop => last ((and_continue_eq_zero byte).mpr stop)
      have next : value + Leb128.low7 byte * 2 ^ shift < 2 ^ (shift + 7) := by
        rw [Nat.add_comm shift]
        exact Gip.add_shifted_lt below (Leb128.low7_lt byte)
      rw [if_neg last, ih _ _ _ next, Leb128.run_cons_continues more, Leb128.value,
        List.length_cons, pow_add]
      refine Prod.ext ?_ ?_
      · show _ + _ * (2 ^ shift * 2 ^ 7) = _ + (_ + 128 * _) * 2 ^ shift
        ring
      · show pos + 1 + _ = pos + (_ + 1)
        ring

theorem decodeVarint_eq (data : List UInt8) (pos : Nat) :
    decodeVarint data pos =
      (Leb128.value (Leb128.run (data.drop pos)), pos + (Leb128.run (data.drop pos)).length) := by
  rw [decodeVarint, decodeVarintLoop_eq _ 0 0 pos (by decide), pow_zero, Nat.mul_one, Nat.zero_add]

/-- The CHUNK bit, as the decoder tests it. -/
theorem and_gipOptChunk_ne_zero (opts : UInt8) :
    opts.toNat &&& gipOptChunk ≠ 0 ↔ opts &&& Gip.Opt.chunk ≠ 0 := by
  have masked : (opts &&& Gip.Opt.chunk).toNat = opts.toNat &&& gipOptChunk := UInt8.toNat_and _ _
  rw [Ne, Ne, ← UInt8.toNat_inj, masked]
  rfl

/-- **What the decoder returns.** -/
theorem decodeGipHeader_eq {data : List UInt8} (long : 4 ≤ data.length) :
    decodeGipHeader data = some
      { cmd := (data.getD 0 0).toNat
        opts := (data.getD 1 0).toNat
        seq := (data.getD 2 0).toNat
        hdrLen := 3 + (lengthVarint data).length + offsetLength data
        pktLen := Leb128.value (lengthVarint data)
        chunkOffset := if chunked data then Leb128.value (offsetVarint data) else 0 } := by
  match data, long with
  | cmd :: opts :: seq :: first :: rest, _ =>
    unfold decodeGipHeader
    simp only [decodeVarint_eq]
    by_cases set_ : opts.toNat &&& gipOptChunk ≠ 0
    · have chunk : chunked (cmd :: opts :: seq :: first :: rest) :=
        (and_gipOptChunk_ne_zero opts).mp set_
      simp only [if_pos set_, if_pos chunk, offsetLength]
      rfl
    · have plain : ¬ chunked (cmd :: opts :: seq :: first :: rest) := fun chunk =>
        set_ ((and_gipOptChunk_ne_zero opts).mpr chunk)
      simp only [if_neg set_, if_neg plain, offsetLength]
      rfl

/-- Data of fewer than four bytes is rejected. -/
theorem decodeGipHeader_short {data : List UInt8} (short : data.length < 4) :
    decodeGipHeader data = none := by
  match data, short with
  | [], _ => rfl
  | [_], _ => rfl
  | [_, _], _ => rfl
  | [_, _, _], _ => rfl

/-! ### The round trip -/

theorem isVarint_lengthField (pktLen : Nat) (chunkOffset : Option Nat) :
    Leb128.IsVarint (lengthField pktLen chunkOffset) := by
  have encoded := Leb128.isVarint_encode pktLen
  unfold lengthField
  split
  · exact Leb128.isVarint_stretch encoded
  · exact encoded

/-- The padding does not change the declared length. -/
theorem value_lengthField (pktLen : Nat) (chunkOffset : Option Nat) :
    Leb128.value (lengthField pktLen chunkOffset) = pktLen := by
  unfold lengthField
  split
  · rw [Leb128.value_stretch, Leb128.value_encode]
  · exact Leb128.value_encode pktLen

/-- **A built header has even length**, with and without a chunk offset. -/
theorem even_lengthField (pktLen : Nat) (chunkOffset : Option Nat) :
    Even (3 + (lengthField pktLen chunkOffset).length + (chunkField chunkOffset).length) := by
  have nonempty := (Leb128.isVarint_encode pktLen).ne_nil
  rw [Nat.even_iff]
  unfold lengthField
  split
  · rw [Leb128.length_stretch nonempty]
    omega
  · omega

section Frame

variable {cmd opts seq : UInt8} {varint : List UInt8}

/-- A header without CHUNK is read back, whatever follows it. -/
theorem decodeGipHeader_frame (plain : opts.toNat &&& gipOptChunk = 0)
    (isVarint : Leb128.IsVarint varint) (rest : List UInt8) :
    decodeGipHeader ([cmd, opts, seq] ++ varint ++ rest) = some
      { cmd := cmd.toNat
        opts := opts.toNat
        seq := seq.toNat
        hdrLen := ([cmd, opts, seq] ++ varint).length
        pktLen := Leb128.value varint
        chunkOffset := 0 } := by
  have positive : 0 < varint.length := List.length_pos_iff.mpr isVarint.ne_nil
  have front : ([cmd, opts, seq] ++ varint).length = 3 + varint.length := List.length_append
  have long : 4 ≤ ([cmd, opts, seq] ++ varint ++ rest).length := by
    rw [List.length_append, front]
    omega
  have notChunked : ¬ chunked ([cmd, opts, seq] ++ varint ++ rest) := fun chunk =>
    (and_gipOptChunk_ne_zero opts).mpr chunk plain
  rw [decodeGipHeader_eq long, Gip.lengthVarint_frame isVarint, offsetLength, if_neg notChunked,
    if_neg notChunked, front]
  rfl

/-- A header with CHUNK and its offset are read back, whatever follows them. -/
theorem decodeGipHeader_chunk {offset : List UInt8} (chunk : opts.toNat &&& gipOptChunk ≠ 0)
    (isVarint : Leb128.IsVarint varint) (isOffset : Leb128.IsVarint offset) (rest : List UInt8) :
    decodeGipHeader ([cmd, opts, seq] ++ varint ++ (offset ++ rest)) = some
      { cmd := cmd.toNat
        opts := opts.toNat
        seq := seq.toNat
        hdrLen := ([cmd, opts, seq] ++ varint ++ offset).length
        pktLen := Leb128.value varint
        chunkOffset := Leb128.value offset } := by
  have positive : 0 < varint.length := List.length_pos_iff.mpr isVarint.ne_nil
  have front : ([cmd, opts, seq] ++ varint).length = 3 + varint.length := List.length_append
  have long : 4 ≤ ([cmd, opts, seq] ++ varint ++ (offset ++ rest)).length := by
    rw [List.length_append, front]
    omega
  have field := @Gip.lengthVarint_frame cmd opts seq varint isVarint (offset ++ rest)
  have behind : ([cmd, opts, seq] ++ varint ++ (offset ++ rest)).drop (3 + varint.length) =
      offset ++ rest := by rw [← front, List.drop_left]
  have place : offsetVarint ([cmd, opts, seq] ++ varint ++ (offset ++ rest)) = offset := by
    rw [offsetVarint, field, behind]
    exact (isOffset.append rest).1
  have set_ : chunked ([cmd, opts, seq] ++ varint ++ (offset ++ rest)) :=
    (and_gipOptChunk_ne_zero opts).mp chunk
  rw [decodeGipHeader_eq long, field, offsetLength, if_pos set_, if_pos set_, place,
    List.length_append, front]
  rfl

end Frame

theorem toNat_ofNat_byte {value : Nat} (byte : value ≤ 255) :
    (UInt8.ofNat value).toNat = value := by
  rw [UInt8.toNat_ofNat']
  exact Nat.mod_eq_of_lt (Nat.lt_succ_of_le byte)

/-- The header that is built where its first three values are bytes. -/
def headerOf (cmd opts seq pktLen : Nat) (chunkOffset : Option Nat) : List UInt8 :=
  [UInt8.ofNat cmd, UInt8.ofNat opts, UInt8.ofNat seq] ++ lengthField pktLen chunkOffset ++
    chunkField chunkOffset

theorem buildGipHeader_of_le {cmd opts seq : Nat} (cmdByte : cmd ≤ 255) (optsByte : opts ≤ 255)
    (seqByte : seq ≤ 255) (pktLen : Nat) (chunkOffset : Option Nat) :
    buildGipHeader cmd opts seq pktLen chunkOffset =
      .ok (headerOf cmd opts seq pktLen chunkOffset) := by
  have head : pyBytes [cmd, opts, seq] =
      .ok [UInt8.ofNat cmd, UInt8.ofNat opts, UInt8.ofNat seq] := by
    refine pyBytes_ok fun value member => ?_
    simp only [List.mem_cons, List.not_mem_nil, or_false] at member
    omega
  rw [buildGipHeader_eq, head]
  rfl

theorem length_headerOf (cmd opts seq pktLen : Nat) (chunkOffset : Option Nat) :
    (headerOf cmd opts seq pktLen chunkOffset).length =
      3 + (lengthField pktLen chunkOffset).length + (chunkField chunkOffset).length := by
  rw [headerOf, List.length_append, List.length_append]
  rfl

/-- A header with a chunk offset exactly where CHUNK is set is read back, whatever follows it. -/
theorem decode_headerOf {cmd opts seq : Nat} (cmdByte : cmd ≤ 255) (optsByte : opts ≤ 255)
    (seqByte : seq ≤ 255) (pktLen : Nat) {chunkOffset : Option Nat}
    (given : chunkOffset.isSome = true ↔ opts &&& gipOptChunk ≠ 0) (trailing : List UInt8) :
    decodeGipHeader (headerOf cmd opts seq pktLen chunkOffset ++ trailing) = some
      { cmd, opts, seq, hdrLen := (headerOf cmd opts seq pktLen chunkOffset).length, pktLen
        chunkOffset := chunkOffset.getD 0 } := by
  have cmdValue : (UInt8.ofNat cmd).toNat = cmd := toNat_ofNat_byte cmdByte
  have optsValue : (UInt8.ofNat opts).toNat = opts := toNat_ofNat_byte optsByte
  have seqValue : (UInt8.ofNat seq).toNat = seq := toNat_ofNat_byte seqByte
  have isVarint := isVarint_lengthField pktLen chunkOffset
  have declared := value_lengthField pktLen chunkOffset
  unfold headerOf
  cases chunkOffset with
  | none =>
    have plain : (UInt8.ofNat opts).toNat &&& gipOptChunk = 0 := by
      rw [optsValue]
      exact not_not.mp fun chunk => absurd (given.mpr chunk) (by decide)
    have decoded := @decodeGipHeader_frame (UInt8.ofNat cmd) _ (UInt8.ofNat seq) _ plain isVarint
      trailing
    rw [cmdValue, optsValue, seqValue, declared] at decoded
    rw [chunkField, List.append_nil]
    exact decoded
  | some offset =>
    have chunk : (UInt8.ofNat opts).toNat &&& gipOptChunk ≠ 0 := by
      rw [optsValue]
      exact given.mp rfl
    have decoded := @decodeGipHeader_chunk (UInt8.ofNat cmd) _ (UInt8.ofNat seq) _ _ chunk
      isVarint (Leb128.isVarint_encode offset) trailing
    rw [cmdValue, optsValue, seqValue, declared, Leb128.value_encode] at decoded
    rw [chunkField, List.append_assoc]
    exact decoded

/-- **The header round trip.** A header built with a chunk offset exactly where CHUNK is set has
even length and is read back to its arguments, whatever follows it. -/
theorem decode_buildGipHeader {cmd opts seq : Nat} (cmdByte : cmd ≤ 255) (optsByte : opts ≤ 255)
    (seqByte : seq ≤ 255) (pktLen : Nat) {chunkOffset : Option Nat}
    (given : chunkOffset.isSome = true ↔ opts &&& gipOptChunk ≠ 0) (trailing : List UInt8) :
    ∃ header, buildGipHeader cmd opts seq pktLen chunkOffset = .ok header ∧
      Even header.length ∧
      decodeGipHeader (header ++ trailing) = some
        { cmd, opts, seq, hdrLen := header.length, pktLen
          chunkOffset := chunkOffset.getD 0 } := by
  refine ⟨headerOf cmd opts seq pktLen chunkOffset,
    buildGipHeader_of_le cmdByte optsByte seqByte pktLen chunkOffset, ?_,
    decode_headerOf cmdByte optsByte seqByte pktLen given trailing⟩
  rw [length_headerOf]
  exact even_lengthField pktLen chunkOffset

/-- The second chunk of an AUTH message: length 58 in one byte, offset 58, header padded. -/
theorem decode_buildGipHeader_second :
    ∃ header, buildGipHeader 6 0xa1 2 58 (some 58) = .ok header ∧ Even header.length ∧
      decodeGipHeader (header ++ [0xff]) = some
        { cmd := 6, opts := 0xa1, seq := 2, hdrLen := header.length, pktLen := 58
          chunkOffset := (some 58).getD 0 } :=
  decode_buildGipHeader (by decide) (by decide) (by decide) 58 (by decide) [0xff]

/-! ### The two decoders -/

/-- The header of a packet that `gip::decode` returns. -/
def Header.ofPacket (packet : Gip.Packet) : Header where
  cmd := packet.cmd.toNat
  opts := packet.options.toNat
  seq := packet.seq.toNat
  hdrLen := packet.hdrLen
  pktLen := packet.pktLen
  chunkOffset := packet.chunkOffset

/-- The varints that the header calls for, cut or not, have at most five bytes and 32-bit values. -/
def WordVarints (buf : List UInt8) : Prop :=
  (lengthVarint buf).length ≤ 5 ∧ Leb128.value (lengthVarint buf) < u32Size ∧
    (chunked buf → (offsetVarint buf).length ≤ 5 ∧ Leb128.value (offsetVarint buf) < u32Size)

instance (buf : List UInt8) : Decidable (WordVarints buf) :=
  inferInstanceAs (Decidable (_ ∧ _ ∧ (_ → _)))

/-- Both decoders return `None`, or both return the same header. -/
def Agree (profile : Profile) (buf : List UInt8) : Prop :=
  (Gip.decode profile buf).map (Option.map Header.ofPacket) = .ok (decodeGipHeader buf)

theorem WordVarints.short {buf : List UInt8} (words : WordVarints buf) : ShortVarints buf :=
  fun _ => ⟨words.1, fun _ chunk => (words.2.2 chunk).1⟩

/-- A 32-bit header is the same header in either language. -/
theorem ofPacket_headerPacket {buf : List UInt8} (words : WordVarints buf) (long : 4 ≤ buf.length) :
    some (Header.ofPacket (headerPacket buf)) = decodeGipHeader buf := by
  obtain ⟨-, lengthSmall, offsetSmall⟩ := words
  rw [decodeGipHeader_eq long, Header.ofPacket, headerPacket]
  simp only [Nat.mod_eq_of_lt lengthSmall]
  by_cases chunk : chunked buf
  · simp only [if_pos chunk, Nat.mod_eq_of_lt (offsetSmall chunk).2]
  · simp only [if_neg chunk]

/-- **The decoders agree exactly where no varint is cut**: on data too short for any varint, and on
data that holds every varint its header calls for. A cut header is rejected by `gip::decode` and
decoded by `decode_gip_header`. -/
theorem decoders_agree_iff (profile : Profile) {buf : List UInt8} (words : WordVarints buf) :
    Agree profile buf ↔ buf.length < 4 ∨ HeaderComplete buf := by
  rw [Agree, Gip.decode_eq profile words.short]
  by_cases long : 4 ≤ buf.length
  · by_cases complete : HeaderComplete buf
    · rw [if_pos complete, ← ofPacket_headerPacket words long]
      exact ⟨fun _ => Or.inr complete, fun _ => rfl⟩
    · rw [if_neg complete, decodeGipHeader_eq long]
      refine ⟨nofun, fun other => ?_⟩
      rcases other with short | whole
      · omega
      · exact absurd whole complete
  · have incomplete : ¬ HeaderComplete buf := fun complete => long complete.1
    rw [if_neg incomplete, decodeGipHeader_short (not_le.mp long)]
    exact ⟨fun _ => Or.inl (not_le.mp long), fun _ => rfl⟩

/-- A chunked header, and one byte after it. -/
theorem decoders_agree_iff_chunk :
    Agree .release [0x06, 0xa1, 0x02, 0xba, 0x00, 0x3a, 0xff] ↔
      [0x06, 0xa1, 0x02, 0xba, 0x00, 0x3a, 0xff].length < 4 ∨
        HeaderComplete [0x06, 0xa1, 0x02, 0xba, 0x00, 0x3a, 0xff] :=
  decoders_agree_iff .release (by decide)

/-- The length varint is cut after its first byte. -/
theorem decoders_disagree_cut :
    ¬ ∀ profile buf, WordVarints buf → Agree profile buf := by
  intro agree
  have cut := agree .release [0x20, 0x20, 0x01, 0x80] (by decide)
  exact absurd cut (by unfold Agree; decide)

end Wolverine.Python
