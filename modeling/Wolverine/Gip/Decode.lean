/-
**What `decode` returns.**

The bytes of a frame determine two varints: `lengthVarint`, from byte 3 on, and, when CHUNK is set,
`offsetVarint` right after it. `decode_eq` says everything `decode` does on a frame whose varints
are at most five bytes long (`ShortVarints`), under either build profile: it returns
`headerPacket` where the header is complete and `none` where it is not. `decode_overflow` is the
other side: a longer varint fails the overflow check of a debug build.
-/

import Wolverine.Gip.Varint

namespace Wolverine.Gip

open Wolverine.Rust

/-! ### The varints of a frame -/

/-- The bytes of the length varint. -/
def lengthVarint (buf : List UInt8) : List UInt8 := Leb128.run (buf.drop 3)

/-- The bytes of the chunk-offset varint. -/
def offsetVarint (buf : List UInt8) : List UInt8 :=
  Leb128.run (buf.drop (3 + (lengthVarint buf).length))

/-- The CHUNK bit of the options byte. -/
def chunked (buf : List UInt8) : Prop := buf.getD 1 0 &&& Opt.chunk ≠ 0

instance (buf : List UInt8) : Decidable (chunked buf) := inferInstanceAs (Decidable (_ ≠ _))

/-- Every varint the header calls for ends inside the frame. -/
def HeaderComplete (buf : List UInt8) : Prop :=
  4 ≤ buf.length ∧ Leb128.ends (buf.drop 3) = true ∧
    (chunked buf → Leb128.ends (buf.drop (3 + (lengthVarint buf).length)) = true)

instance (buf : List UInt8) : Decidable (HeaderComplete buf) :=
  inferInstanceAs (Decidable (_ ∧ _ ∧ (_ → _)))

/-- No varint that is read takes more than five bytes. -/
def ShortVarints (buf : List UInt8) : Prop :=
  4 ≤ buf.length → (lengthVarint buf).length ≤ 5 ∧
    (Leb128.ends (buf.drop 3) = true → chunked buf → (offsetVarint buf).length ≤ 5)

/-- The number of bytes of the chunk-offset field. -/
def offsetLength (buf : List UInt8) : Nat := if chunked buf then (offsetVarint buf).length else 0

/-- The packet a complete header describes. -/
def headerPacket (buf : List UInt8) : Packet :=
  let hdrLen := 3 + (lengthVarint buf).length + offsetLength buf
  let pktLen := Leb128.value (lengthVarint buf) % u32Size
  { cmd := buf.getD 0 0
    options := buf.getD 1 0
    seq := buf.getD 2 0
    hdrLen
    pktLen
    chunkOffset := if chunked buf then Leb128.value (offsetVarint buf) % u32Size else 0
    payload := (buf.take (min (hdrLen + pktLen) buf.length)).drop hdrLen }

/-- The header lies inside the frame. -/
theorem hdrLen_le {buf : List UInt8} (long : 4 ≤ buf.length) :
    3 + (lengthVarint buf).length + offsetLength buf ≤ buf.length := by
  have first := Leb128.run_length_le (buf.drop 3)
  have second := Leb128.run_length_le (buf.drop (3 + (lengthVarint buf).length))
  rw [List.length_drop] at first second
  unfold offsetLength
  split
  · unfold offsetVarint lengthVarint at *
    omega
  · unfold lengthVarint at *
    omega

theorem getRange_min {buf : List UInt8} {start : Nat} (inside : start ≤ buf.length) (count : Nat) :
    getRange buf start (min (start + count) buf.length) =
      some ((buf.take (min (start + count) buf.length)).drop start) := by
  rw [getRange, if_pos]
  omega

/-- The option byte decides whether a chunk offset is read. -/
theorem readChunkOffset_ok (profile : Profile) (buf : List UInt8)
    (short : chunked buf → (offsetVarint buf).length ≤ 5) :
    readChunkOffset profile (buf.getD 1 0) buf (3 + (lengthVarint buf).length) =
      .ok (if chunked buf → Leb128.ends (buf.drop (3 + (lengthVarint buf).length)) = true then
        some (if chunked buf then Leb128.value (offsetVarint buf) % u32Size else 0,
            offsetLength buf)
        else none) := by
  by_cases set_ : chunked buf
  · have read := readVarint_ok profile buf (3 + (lengthVarint buf).length) (short set_)
    rw [readChunkOffset, if_pos (show buf.getD 1 0 &&& Opt.chunk ≠ 0 from set_), read]
    simp only [set_, forall_const, if_true, offsetLength, offsetVarint]
  · rw [readChunkOffset, if_neg (show ¬ buf.getD 1 0 &&& Opt.chunk ≠ 0 from set_)]
    simp only [set_, false_implies, if_true, if_false, offsetLength]

/-- A frame of four bytes or more is read varint by varint. -/
theorem decode_long (profile : Profile) {buf : List UInt8} (long : 4 ≤ buf.length) :
    decode profile buf = (do
      let some (pktLen, consumed) ← readVarint profile buf 3 | return none
      let some (chunkOffset, c) ←
        readChunkOffset profile (buf.getD 1 0) buf (3 + consumed) | return none
      let pos := 3 + consumed + c
      let stop := min (pos + pktLen) buf.length
      return (getRange buf pos stop).map fun payload =>
        { cmd := buf.getD 0 0, options := buf.getD 1 0, seq := buf.getD 2 0, hdrLen := pos, pktLen,
          chunkOffset, payload }) := by
  match buf, long with
  | _ :: _ :: _ :: _ :: _, _ => rfl

/-- A frame of fewer than four bytes is rejected. -/
theorem decode_short (profile : Profile) {buf : List UInt8} (short : buf.length < 4) :
    decode profile buf = .ok none := by
  match buf, short with
  | [], _ => rfl
  | [_], _ => rfl
  | [_, _], _ => rfl
  | [_, _, _], _ => rfl

/-- An accepted frame has the command, the options and the sequence number of its first bytes, and
the part of its declared payload that is present. -/
theorem decode_fixed {profile : Profile} {buf : List UInt8} {packet : Packet}
    (accepted : decode profile buf = .ok (some packet)) :
    packet.cmd = buf.getD 0 0 ∧ packet.options = buf.getD 1 0 ∧ packet.seq = buf.getD 2 0 ∧
      packet.payload = (buf.take (min (packet.hdrLen + packet.pktLen) buf.length)).drop
        packet.hdrLen := by
  by_cases long : 4 ≤ buf.length
  · rw [decode_long profile long] at accepted
    generalize readVarint profile buf 3 = length at accepted
    rcases length with panic | - | ⟨pktLen, consumed⟩
    · cases accepted
    · cases accepted
    · simp only [bind, Except.bind] at accepted
      generalize readChunkOffset profile (buf.getD 1 0) buf (3 + consumed) = offset at accepted
      rcases offset with panic | - | ⟨chunkOffset, c⟩
      · cases accepted
      · cases accepted
      · obtain ⟨payload, range, rfl⟩ := Option.map_eq_some_iff.mp (Except.ok.inj accepted)
        rw [getRange] at range
        split at range
        · cases range
          exact ⟨rfl, rfl, rfl, rfl⟩
        · cases range
  · rw [decode_short profile (not_le.mp long)] at accepted
    cases accepted

/-- **Decoding a frame with short varints**, under either profile. -/
theorem decode_eq (profile : Profile) {buf : List UInt8} (short : ShortVarints buf) :
    decode profile buf = .ok (if HeaderComplete buf then some (headerPacket buf) else none) := by
  by_cases long : 4 ≤ buf.length
  · obtain ⟨lengthShort, offsetShort⟩ := short long
    rw [decode_long profile long, readVarint_ok profile buf 3 lengthShort]
    by_cases lengthEnds : Leb128.ends (buf.drop 3) = true
    · have offset := readChunkOffset_ok profile buf (offsetShort lengthEnds)
      simp only [bind, Except.bind, pure, Except.pure, lengthEnds, if_true]
      unfold lengthVarint at offset
      rw [offset]
      by_cases offsetEnds : chunked buf →
          Leb128.ends (buf.drop (3 + (lengthVarint buf).length)) = true
      · have complete : HeaderComplete buf := ⟨long, lengthEnds, offsetEnds⟩
        have inside := hdrLen_le long
        unfold lengthVarint at offsetEnds inside
        simp only [if_pos offsetEnds, if_pos complete, getRange_min inside, Option.map_some]
        rfl
      · have incomplete : ¬ HeaderComplete buf := fun complete => offsetEnds complete.2.2
        unfold lengthVarint at offsetEnds
        simp only [if_neg offsetEnds, if_neg incomplete]
    · have incomplete : ¬ HeaderComplete buf := fun complete => lengthEnds complete.2.1
      simp only [bind, Except.bind, pure, Except.pure, if_neg lengthEnds, if_neg incomplete]
  · rw [decode_short profile (not_le.mp long), if_neg fun complete => long complete.1]

/-- **A varint of six bytes or more fails the overflow check.** -/
theorem decode_overflow {buf : List UInt8} (long : ¬ ShortVarints buf) :
    decode .debug buf = .error .shiftOverflow := by
  unfold ShortVarints at long
  obtain ⟨enough, long⟩ := Classical.not_imp.mp long
  rw [decode_long .debug enough]
  by_cases lengthShort : (lengthVarint buf).length ≤ 5
  · have offsetLong : Leb128.ends (buf.drop 3) = true ∧ chunked buf ∧
        5 < (offsetVarint buf).length := by
      by_contra other
      exact long ⟨lengthShort, fun ends set_ => not_lt.mp fun more => other ⟨ends, set_, more⟩⟩
    obtain ⟨lengthEnds, set_, more⟩ := offsetLong
    have overflow : readChunkOffset .debug (buf.getD 1 0) buf (3 + (lengthVarint buf).length) =
        .error .shiftOverflow := by
      rw [readChunkOffset, if_pos (show buf.getD 1 0 &&& Opt.chunk ≠ 0 from set_)]
      exact readVarint_overflow buf _ more
    rw [readVarint_ok .debug buf 3 lengthShort]
    simp only [bind, Except.bind, lengthEnds, if_true]
    unfold lengthVarint at overflow
    rw [overflow]
  · rw [readVarint_overflow buf 3 (not_le.mp lengthShort)]
    rfl

/-! ### Without overflow checks -/

theorem readVarintLoop_release (bytes : List UInt8) : ∀ value shift consumed,
    ∃ result, readVarintLoop .release value shift consumed bytes = .ok result := by
  induction bytes with
  | nil => exact fun value shift consumed => ⟨none, rfl⟩
  | cons byte rest ih =>
    intro value shift consumed
    obtain ⟨bits, shifted⟩ := shlU32_release (byte &&& 0x7f).toNat shift
    rw [readVarintLoop, shifted]
    by_cases last : byte &&& 0x80 = 0
    · exact ⟨_, if_pos last⟩
    · obtain ⟨result, read⟩ := ih (value ||| bits) (shift + 7) (consumed + 1)
      exact ⟨result, (if_neg last).trans read⟩

theorem readChunkOffset_release (options : UInt8) (buf : List UInt8) (pos : Nat) :
    ∃ result, readChunkOffset .release options buf pos = .ok result := by
  unfold readChunkOffset
  split
  · exact readVarintLoop_release _ 0 0 0
  · exact ⟨_, rfl⟩

/-- **A release build decodes every frame without a panic.** -/
theorem decode_release (buf : List UInt8) : ∃ result, decode .release buf = .ok result := by
  by_cases long : 4 ≤ buf.length
  · rw [decode_long .release long]
    obtain ⟨length, read⟩ := readVarintLoop_release (buf.drop 3) 0 0 0
    rw [readVarint, read]
    rcases length with - | ⟨pktLen, consumed⟩
    · exact ⟨none, rfl⟩
    · obtain ⟨offset, offsetRead⟩ :=
        readChunkOffset_release (buf.getD 1 0) buf (3 + consumed)
      simp only [bind, Except.bind, offsetRead]
      rcases offset with - | ⟨chunkOffset, c⟩
      · exact ⟨none, rfl⟩
      · exact ⟨_, rfl⟩
  · exact ⟨none, decode_short .release (not_le.mp long)⟩

end Wolverine.Gip
