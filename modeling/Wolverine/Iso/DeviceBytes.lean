/-
**`decode` and `parse_in` on arbitrary device bytes.**

`SafeAndExact buf` collects what a decoder of device bytes owes: no overflowing shift, a declared
length and a chunk offset equal to the mathematical LEB128 values, a header inside the buffer, a
payload cut at the declared length, and a rejection of every value that a `u32` cannot hold.

`read_varint` has no limit on the number of bytes and drops the bits it shifts out, so this is not
true of every buffer. `safeAndExact_iff` gives the exact condition, `Fits`: no varint that is read
takes more than five bytes, and where the header is complete its values are below `2 ^ 32`.
-/

import Wolverine.Gip.Decode

namespace Wolverine.Iso

open Wolverine.Rust Wolverine.Gip

/-- Parse a received EP3 IN packet: decode the header, skip the two-byte sub-header. -/
def parseIn (profile : Profile) (buf : List UInt8) : Except Panic (Option (List UInt8)) := do
  let some pkt ← decode profile buf | return none
  if pkt.cmd ≠ Cmd.audioSamples then return none
  return if 2 ≤ pkt.payload.length then some (pkt.payload.drop 2) else none

/-- `parse_in` faults only where `decode` does. -/
theorem parseIn_of_ok {profile : Profile} {buf : List UInt8} {decoded : Option Packet}
    (returned : decode profile buf = .ok decoded) :
    parseIn profile buf = .ok (decoded.bind fun pkt =>
      if pkt.cmd = Cmd.audioSamples ∧ 2 ≤ pkt.payload.length then some (pkt.payload.drop 2)
      else none) := by
  unfold parseIn
  rw [returned]
  cases decoded with
  | none => rfl
  | some pkt =>
    by_cases audio : pkt.cmd = Cmd.audioSamples
    · simp [bind, Except.bind, pure, Except.pure, audio]
    · simp [bind, Except.bind, pure, Except.pure, audio]

/-! ### What is owed, and when it is paid -/

/-- The mathematical LEB128 value of a byte string. -/
def leb128Sum (bytes : List UInt8) : Nat :=
  ∑ i ∈ Finset.range bytes.length, (bytes.getD i 0 &&& 0x7f).toNat * 2 ^ (7 * i)

theorem leb128Sum_eq (bytes : List UInt8) : leb128Sum bytes = Leb128.value bytes :=
  (Leb128.value_eq_sum bytes).symm

/-- The packet is the exact reading of the buffer. -/
structure ReadsExactly (buf : List UInt8) (packet : Packet) : Prop where
  hdrLen : packet.hdrLen = 3 + (lengthVarint buf).length + offsetLength buf
  inside : packet.hdrLen ≤ buf.length
  pktLen : packet.pktLen = leb128Sum (lengthVarint buf)
  chunkOffset : chunked buf → packet.chunkOffset = leb128Sum (offsetVarint buf)
  payload : packet.payload =
    (buf.take (min (packet.hdrLen + packet.pktLen) buf.length)).drop packet.hdrLen

/-- Some varint of the header ends inside the buffer and stands for a value no `u32` holds. -/
def Unfit (buf : List UInt8) : Prop :=
  4 ≤ buf.length ∧ Leb128.ends (buf.drop 3) = true ∧
    (2 ^ 32 ≤ leb128Sum (lengthVarint buf) ∨
      chunked buf ∧ Leb128.ends (buf.drop (3 + (lengthVarint buf).length)) = true ∧
        2 ^ 32 ≤ leb128Sum (offsetVarint buf))

/-- What the decoder owes on a buffer. A shift overflows exactly where a debug build panics. -/
structure SafeAndExact (buf : List UInt8) : Prop where
  decodeShifts : decode .debug buf ≠ .error .shiftOverflow
  parseInShifts : parseIn .debug buf ≠ .error .shiftOverflow
  readsExactly : ∀ profile packet, decode profile buf = .ok (some packet) → ReadsExactly buf packet
  rejects : Unfit buf → ∀ profile, decode profile buf = .ok none

/-- Short varints, and values below `2 ^ 32` where the header is complete. -/
def Fits (buf : List UInt8) : Prop :=
  ShortVarints buf ∧ (HeaderComplete buf →
    leb128Sum (lengthVarint buf) < 2 ^ 32 ∧ (chunked buf → leb128Sum (offsetVarint buf) < 2 ^ 32))

/-- On short varints with small values the header packet is the exact reading. -/
theorem readsExactly_headerPacket {buf : List UInt8} (complete : HeaderComplete buf)
    (fits : Fits buf) : ReadsExactly buf (headerPacket buf) := by
  obtain ⟨lengthFits, offsetFits⟩ := fits.2 complete
  rw [leb128Sum_eq] at lengthFits
  refine ⟨rfl, hdrLen_le complete.1, ?_, fun set_ => ?_, rfl⟩
  · show Leb128.value (lengthVarint buf) % u32Size = leb128Sum (lengthVarint buf)
    rw [leb128Sum_eq]
    exact Nat.mod_eq_of_lt lengthFits
  · have bound := offsetFits set_
    rw [leb128Sum_eq] at bound ⊢
    show (if chunked buf then Leb128.value (offsetVarint buf) % u32Size else 0) = _
    rw [if_pos set_]
    exact Nat.mod_eq_of_lt bound

/-- An unfit varint in a complete header breaks the condition. -/
theorem not_unfit {buf : List UInt8} (complete : HeaderComplete buf) (fits : Fits buf) :
    ¬ Unfit buf := by
  obtain ⟨lengthFits, offsetFits⟩ := fits.2 complete
  rintro ⟨-, -, lengthLarge | ⟨set_, -, offsetLarge⟩⟩
  · exact absurd lengthFits (not_lt.mpr lengthLarge)
  · exact absurd (offsetFits set_) (not_lt.mpr offsetLarge)

/-- **When the decoder is safe and exact**: on exactly the buffers that fit. -/
theorem safeAndExact_iff (buf : List UInt8) : SafeAndExact buf ↔ Fits buf := by
  constructor
  · intro owed
    have short : ShortVarints buf := by
      by_contra long
      exact owed.decodeShifts (decode_overflow long)
    refine ⟨short, fun complete => ?_⟩
    have accepted : decode .debug buf = .ok (some (headerPacket buf)) := by
      rw [decode_eq .debug short, if_pos complete]
    have fit : ¬ Unfit buf := by
      intro unfit
      have rejected := owed.rejects unfit .debug
      rw [accepted] at rejected
      cases rejected
    refine ⟨?_, fun set_ => ?_⟩
    · by_contra large
      exact fit ⟨complete.1, complete.2.1, Or.inl (not_lt.mp large)⟩
    · by_contra large
      exact fit ⟨complete.1, complete.2.1, Or.inr ⟨set_, complete.2.2 set_, not_lt.mp large⟩⟩
  · intro fits
    have returned := fun profile => decode_eq profile fits.1
    refine ⟨?_, ?_, fun profile packet accepted => ?_, fun unfit profile => ?_⟩
    · rw [returned]
      nofun
    · rw [parseIn_of_ok (returned .debug)]
      nofun
    · rw [returned] at accepted
      split at accepted
      · rename_i complete
        cases accepted
        exact readsExactly_headerPacket complete fits
      · cases accepted
    · rw [returned, if_neg fun complete => not_unfit complete fits unfit]

/-- A length field of six bytes that stands for 0, and one of five bytes that stands for
`2 ^ 35 - 1`: the first overflows the shift, the second is accepted with its top bits lost. -/
theorem not_safeAndExact :
    ¬ SafeAndExact [0x60, 0x21, 0x01, 0x80, 0x80, 0x80, 0x80, 0x80, 0x00] ∧
      ¬ SafeAndExact [0x60, 0x21, 0x01, 0xff, 0xff, 0xff, 0xff, 0x7f] := by
  refine ⟨fun owed => owed.decodeShifts rfl, fun owed => ?_⟩
  have accepted : decode .debug [0x60, 0x21, 0x01, 0xff, 0xff, 0xff, 0xff, 0x7f] =
      .ok (some
        { cmd := 0x60, options := 0x21, seq := 0x01, hdrLen := 8, pktLen := 2 ^ 32 - 1,
          chunkOffset := 0, payload := [] }) := rfl
  have exactly := (owed.readsExactly .debug _ accepted).pktLen
  rw [leb128Sum_eq] at exactly
  exact absurd exactly (by decide)

end Wolverine.Iso
