/-
**Frames are read back: `decode` after `build_packet`.**

* `decode_frame` — a frame without CHUNK whose length field is a varint of at most five bytes
  decodes to its own fields, and its payload is cut at the declared length.
* `decode_chunk` — the same for a frame with CHUNK and a complete payload.
* `decode_built` — the frame of `build_header` and a payload of that length: the padded length
  field is read back to the payload length, stops at the last header byte, and nothing after the
  payload leaks into it.
* `decode_buildPacket` — the round trip for every payload a `u32` can measure, with any bytes
  after it, and the even header length.
-/

import Wolverine.Gip.Decode

namespace Wolverine.Gip

open Wolverine.Rust

section Frame

variable {cmd options seq : UInt8} {varint : List UInt8}

/-- A varint after the three fixed bytes is the length varint, whatever follows. -/
theorem lengthVarint_frame (isVarint : Leb128.IsVarint varint) (rest : List UInt8) :
    lengthVarint ([cmd, options, seq] ++ varint ++ rest) = varint := by
  show Leb128.run (varint ++ rest) = varint
  exact (isVarint.append rest).1

/-- **A frame without CHUNK decodes to its fields.** -/
theorem decode_frame (profile : Profile) (plain : options &&& Opt.chunk = 0)
    (isVarint : Leb128.IsVarint varint) (short : varint.length ≤ 5) (rest : List UInt8) :
    decode profile ([cmd, options, seq] ++ varint ++ rest) =
      .ok (some
        { cmd, options, seq
          hdrLen := 3 + varint.length
          pktLen := Leb128.value varint % u32Size
          chunkOffset := 0
          payload := rest.take (Leb128.value varint % u32Size) }) := by
  have field : lengthVarint ([cmd, options, seq] ++ varint ++ rest) = varint :=
    lengthVarint_frame isVarint rest
  have notChunked : ¬ chunked ([cmd, options, seq] ++ varint ++ rest) := fun set_ => set_ plain
  have positive : 0 < varint.length := List.length_pos_iff.mpr isVarint.ne_nil
  have complete : HeaderComplete ([cmd, options, seq] ++ varint ++ rest) := by
    refine ⟨?_, (isVarint.append rest).2, fun set_ => absurd set_ notChunked⟩
    simp only [List.length_append, List.length_cons, List.length_nil]
    omega
  have shortVarints : ShortVarints ([cmd, options, seq] ++ varint ++ rest) := by
    intro _
    rw [field]
    exact ⟨short, fun _ set_ => absurd set_ notChunked⟩
  have front : ([cmd, options, seq] ++ varint).length = 3 + varint.length := by
    rw [List.length_append]
    rfl
  have body : (([cmd, options, seq] ++ varint ++ rest).take
      (min (3 + varint.length + Leb128.value varint % u32Size)
        ([cmd, options, seq] ++ varint ++ rest).length)).drop (3 + varint.length) =
      rest.take (Leb128.value varint % u32Size) := by
    rw [List.take_eq_take_min.symm, ← front, List.take_length_add_append, List.drop_left]
  rw [decode_eq profile shortVarints, if_pos complete, headerPacket, field, offsetLength,
    if_neg notChunked, if_neg notChunked, Nat.add_zero, body]
  rfl

/-- **A frame with CHUNK** and a complete payload decodes to its fields, its offset included. -/
theorem decode_chunk (profile : Profile) {offset : List UInt8}
    (chunk : options &&& Opt.chunk ≠ 0) (isVarint : Leb128.IsVarint varint)
    (isOffset : Leb128.IsVarint offset) (short : varint.length ≤ 5)
    (shortOffset : offset.length ≤ 5)
    {data : List UInt8} (declared : Leb128.value varint = data.length)
    (fits : data.length < u32Size) :
    decode profile ([cmd, options, seq] ++ varint ++ (offset ++ data)) =
      .ok (some
        { cmd, options, seq
          hdrLen := 3 + varint.length + offset.length
          pktLen := data.length
          chunkOffset := Leb128.value offset % u32Size
          payload := data }) := by
  have front : ([cmd, options, seq] ++ varint).length = 3 + varint.length := by
    rw [List.length_append]
    rfl
  have field : lengthVarint ([cmd, options, seq] ++ varint ++ (offset ++ data)) = varint :=
    lengthVarint_frame isVarint _
  have behind : ([cmd, options, seq] ++ varint ++ (offset ++ data)).drop (3 + varint.length) =
      offset ++ data := by rw [← front, List.drop_left]
  have set_ : chunked ([cmd, options, seq] ++ varint ++ (offset ++ data)) := chunk
  have place : offsetVarint ([cmd, options, seq] ++ varint ++ (offset ++ data)) = offset := by
    rw [offsetVarint, field, behind]
    exact (isOffset.append data).1
  have positive : 0 < varint.length := List.length_pos_iff.mpr isVarint.ne_nil
  have total : ([cmd, options, seq] ++ varint ++ (offset ++ data)).length =
      3 + varint.length + offset.length + data.length := by
    rw [List.length_append, front, List.length_append, ← Nat.add_assoc]
  have complete : HeaderComplete ([cmd, options, seq] ++ varint ++ (offset ++ data)) := by
    refine ⟨by rw [total]; omega, (isVarint.append _).2, fun _ => ?_⟩
    rw [field, behind]
    exact (isOffset.append data).2
  have shortVarints : ShortVarints ([cmd, options, seq] ++ varint ++ (offset ++ data)) := by
    intro _
    rw [field, place]
    exact ⟨short, fun _ _ => shortOffset⟩
  have header : ([cmd, options, seq] ++ varint ++ offset).length =
      3 + varint.length + offset.length := by rw [List.length_append, front]
  rw [decode_eq profile shortVarints, if_pos complete, headerPacket, field, offsetLength,
    if_pos set_, if_pos set_, place, declared, Nat.mod_eq_of_lt fits, total, Nat.min_self, ← total,
    List.take_length, ← List.append_assoc _ offset, ← header, List.drop_left, header]
  rfl

end Frame

/-- **A built header before its payload decodes to exactly that payload.** -/
theorem decode_built (profile : Profile) (cmd : UInt8) {options : UInt8} (seq : UInt8)
    (plain : options &&& Opt.chunk = 0) {payload : List UInt8}
    (short : payload.length < u32Size) (trailing : List UInt8) :
    decode profile (buildHeader cmd options seq payload.length ++ payload ++ trailing) =
      .ok (some
        { cmd, options, seq
          hdrLen := (buildHeader cmd options seq payload.length).length
          pktLen := payload.length
          chunkOffset := 0
          payload }) := by
  have varint := isVarint_headerVarint payload.length
  have bound := length_headerVarint_le short
  rw [buildHeader_eq, List.append_assoc, decode_frame profile plain varint bound,
    value_headerVarint, Nat.mod_eq_of_lt short, List.take_left, List.length_append]
  rfl

/-- The header of a built packet has even length. -/
theorem even_buildHeader (cmd options seq : UInt8) (payloadLen : Nat) :
    Even (buildHeader cmd options seq payloadLen).length := by
  rw [buildHeader_eq, List.length_append]
  exact even_headerVarint payloadLen

/-- **The round trip of the GIP wire format.** -/
theorem decode_buildPacket (profile : Profile) (cmd options seq : UInt8)
    (payload trailing : List UInt8) (plain : options &&& Opt.chunk = 0)
    (short : payload.length < 2 ^ 32) :
    decode profile (buildPacket cmd options seq payload ++ trailing) =
        .ok (some
          { cmd, options, seq
            hdrLen := (buildHeader cmd options seq payload.length).length
            pktLen := payload.length
            chunkOffset := 0
            payload }) ∧
      ∀ payloadLen, Even (buildHeader cmd options seq payloadLen).length := by
  refine ⟨?_, even_buildHeader cmd options seq⟩
  rw [buildPacket, Nat.mod_eq_of_lt (show payload.length < u32Size from short)]
  exact decode_built profile cmd seq plain short trailing

/-- The header of the headphone stream, followed by one stray byte. -/
theorem decode_buildPacket_audio :
    decode .debug
        (buildPacket Cmd.audioSamples optsInternal 7 (List.replicate 192 0xab) ++ [0xff]) =
        .ok (some
          { cmd := 0x60, options := 0x21, seq := 7
            hdrLen := (buildHeader Cmd.audioSamples optsInternal 7
              (List.replicate 192 (0xab : UInt8)).length).length
            pktLen := (List.replicate 192 (0xab : UInt8)).length
            chunkOffset := 0
            payload := List.replicate 192 0xab }) ∧
      ∀ payloadLen, Even (buildHeader Cmd.audioSamples optsInternal 7 payloadLen).length :=
  decode_buildPacket .debug Cmd.audioSamples optsInternal 7 (List.replicate 192 0xab) [0xff]
    (by decide) (by rw [List.length_replicate]; decide)

end Wolverine.Gip
