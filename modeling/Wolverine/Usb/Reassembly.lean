/-
**IDENTIFY reassembly: what the receiver returns.**

The invariant `Reassembled` says what the buffer shows: at every index the byte of the newest
accepted chunk that covers it, zero elsewhere; while every accepted chunk is whole (its frame
carries all the bytes it declares) the high-water mark is the highest end offset stored.

* `reassembled` — every way the loop completes keeps it.
* `reassembles` — chunks of a payload that cover it, in any order, with duplicates, overlaps and
  other packets in between, then an empty chunk: the payload is returned.
* `reassembly_sound` — after any reads: what the returned bytes and the ACKs say.
-/

import Wolverine.Usb.Identify

namespace Wolverine.Usb

open Wolverine.Rust Wolverine.Gip Wolverine.Overlay

/-- The frame of the chunk carries all the bytes it declares. -/
def Chunk.Whole (chunk : Chunk) : Prop := chunk.data.length = chunk.declared

instance (chunk : Chunk) : Decidable chunk.Whole := inferInstanceAs (Decidable (_ = _))

/-- The writes that the accepted chunks make. -/
def writes (chunks : List Chunk) : List (Nat × List UInt8) :=
  chunks.map fun chunk => (chunk.offset, chunk.data)

theorem writes_concat (chunks : List Chunk) (chunk : Chunk) :
    writes (chunks ++ [chunk]) = writes chunks ++ [(chunk.offset, chunk.data)] := List.map_append

/-- The `received` field of an ACK packet. -/
def ReceivedField (packet : List UInt8) (received : Nat) : Prop :=
  ∀ profile, ∃ pkt, decode profile packet = .ok (some pkt) ∧
    (pkt.payload.getD 3 0).toNat + 256 * (pkt.payload.getD 4 0).toNat = received

theorem receivedField_sendChunkAck (seq cmd : UInt8) (received total : Nat) :
    ReceivedField (sendChunkAck seq cmd received total) (received % 2 ^ 16) := by
  intro profile
  have fields : ([0x00, cmd, optsInternal] ++ leU16 received ++ [0x00, 0x00] ++
      leU16 (total - received)).length = 9 := rfl
  have built := @decode_built profile Cmd.acknowledge optsInternal seq (by decide)
    ([0x00, cmd, optsInternal] ++ leU16 received ++ [0x00, 0x00] ++ leU16 (total - received))
    (by rw [fields]; decide) []
  rw [List.append_nil] at built
  refine ⟨_, built, ?_⟩
  show (UInt8.ofNat (received % u16Size % 256)).toNat +
    256 * (UInt8.ofNat (received % u16Size / 256)).toNat = received % 2 ^ 16
  rw [UInt8.toNat_ofNat', UInt8.toNat_ofNat', u16Size]
  omega

/-! ### The invariant -/

/-- What the buffer, the mark and the ACKs say about the accepted chunks. -/
structure Reassembled (reassembly : Reassembly) : Prop where
  buffer : Shows 0 reassembly.buf (writes reassembly.chunks)
  mark : (∀ chunk ∈ reassembly.chunks, chunk.Whole) →
    reassembly.recvd = extent (writes reassembly.chunks)
  acks : ∀ ack ∈ reassembly.acks, ack.stored <+: reassembly.chunks ∧
    ((∀ chunk ∈ ack.stored, chunk.Whole) →
      ReceivedField ack.packet (extent (writes ack.stored) % 2 ^ 16))

namespace Reassembled

variable {reassembly : Reassembly}

theorem start : Reassembled Reassembly.start := ⟨Shows.initial 0 512, fun _ => rfl, nofun⟩

/-- Growing the buffer makes room for the chunk and changes nothing. -/
theorem grow {chunks : List Chunk} {buf : List UInt8} (shows_ : Shows 0 buf (writes chunks))
    (stop : Nat) : Shows 0 (Reassembly.grow buf stop) (writes chunks) ∧
      stop ≤ (Reassembly.grow buf stop).length := by
  rw [Reassembly.grow]
  split
  · refine ⟨shows_.grow _, ?_⟩
    rw [List.length_append, List.length_replicate]
    omega
  · exact ⟨shows_, by omega⟩

/-- Storing a chunk. -/
theorem accept (inv : Reassembled reassembly) (pkt : Packet) (data : List UInt8) :
    Reassembled (reassembly.accept pkt data) := by
  obtain ⟨grown, room⟩ := grow inv.buffer (pkt.chunkOffset + data.length)
  refine ⟨?_, fun whole => ?_, fun ack member => ?_⟩
  · show Shows 0 (overlay _ _ _) (writes (reassembly.chunks ++ [_]))
    rw [writes_concat]
    exact grown.write pkt.chunkOffset data room
  · have old := inv.mark fun chunk member => whole chunk (List.mem_append_left _ member)
    have last : data.length = pkt.pktLen := whole _ (List.mem_append_right _ List.mem_cons_self)
    show max reassembly.recvd (pkt.chunkOffset + pkt.pktLen) =
      extent (writes (reassembly.chunks ++ [_]))
    rw [writes_concat, extent_concat, ← old, ← last]
  · obtain ⟨earlier, field⟩ := inv.acks ack member
    exact ⟨earlier.trans (List.prefix_append _ _), field⟩

/-- Acknowledging a chunk. -/
theorem acknowledge (inv : Reassembled reassembly) (seq : UInt8) :
    Reassembled (reassembly.acknowledge seq) := by
  refine ⟨inv.buffer, inv.mark, fun ack member => ?_⟩
  rcases List.mem_append.mp member with earlier | here
  · exact inv.acks ack earlier
  · rw [List.mem_singleton.mp here]
    refine ⟨List.prefix_refl _, fun whole => ?_⟩
    have field := receivedField_sendChunkAck seq Cmd.identify reassembly.recvd 0
    rw [inv.mark whole] at field
    show ReceivedField (sendChunkAck seq Cmd.identify reassembly.recvd 0) _
    rw [inv.mark whole]
    exact field

/-- The step lemma. -/
theorem receive {profile : Profile} {next : Reassembly} {tick : IdentifyTick}
    (inv : Reassembled reassembly)
    (stepped : Usb.receive profile reassembly tick = .ok next) : Reassembled next := by
  rcases receive_ok stepped with rfl | ⟨pkt, -, rfl | rfl⟩
  · exact inv
  · exact inv.accept pkt pkt.payload
  · exact (inv.accept pkt pkt.payload).acknowledge pkt.seq

end Reassembled

/-- Every accepted chunk comes from one of the reads. -/
def FromReads (profile : Profile) (ticks : List IdentifyTick) (reassembly : Reassembly) : Prop :=
  ∀ chunk ∈ reassembly.chunks, ∃ tick ∈ ticks, ∃ pkt,
    IsChunk profile tick pkt ∧ chunk = chunkOf pkt

theorem FromReads.receive {profile : Profile} {ticks : List IdentifyTick}
    {reassembly next : Reassembly} {tick : IdentifyTick}
    (reads : FromReads profile ticks reassembly) (here : tick ∈ ticks)
    (stepped : Usb.receive profile reassembly tick = .ok next) : FromReads profile ticks next := by
  rcases receive_ok stepped with rfl | ⟨pkt, chunk, stored⟩
  · exact reads
  · have chunks : next.chunks = reassembly.chunks ++ [chunkOf pkt] := by
      rcases stored with rfl | rfl <;> rfl
    intro other member
    rw [chunks] at member
    rcases List.mem_append.mp member with earlier | last
    · exact reads other earlier
    · exact ⟨tick, here, pkt, chunk, List.mem_singleton.mp last⟩

/-- **Every way the loop completes keeps the invariants.** -/
theorem reassembled {profile : Profile} {ticks : List IdentifyTick} {last : Reassembly}
    (ended : receiveIdentify profile ticks = .complete last) :
    Reassembled last ∧ FromReads profile ticks last := by
  have kept : ∀ reassembly tick next,
      (Reassembled reassembly ∧ FromReads profile ticks reassembly) → tick ∈ ticks →
      receive profile reassembly tick = .ok next →
      Reassembled next ∧ FromReads profile ticks next :=
    fun _ _ _ inv here stepped => ⟨inv.1.receive stepped, inv.2.receive here stepped⟩
  have initial : Reassembled Reassembly.start ∧ FromReads profile ticks Reassembly.start :=
    ⟨Reassembled.start, nofun⟩
  have meets :
      Machine.Meets (fun _ tick => tick ∈ ticks) (receive profile) Reassembly.start ticks :=
    Machine.meets_of_forall (fun _ here => here) _
  rw [receiveIdentify] at ended
  split at ended
  · rename_i reassembly ran
    cases ended
    exact Machine.run_invariant kept ticks _ _ initial meets ran
  · rename_i exit ran
    obtain ⟨reassembly, tick, inv, -, stepped⟩ :=
      Machine.run_fault kept ticks _ _ initial meets ran
    rw [ended] at stepped
    rw [receive_complete stepped]
    exact inv

/-! ### Chunks of one payload, in any order -/

/-- The read is a frame that carries a non-empty chunk of `payload`, all of it, and the ACK that may
follow goes through. -/
def Carries (profile : Profile) (payload : List UInt8) (tick : IdentifyTick) : Prop :=
  tick.sendOk = true ∧ ∃ pkt, IsChunk profile tick pkt ∧
    pkt.chunkOffset + pkt.pktLen ≤ payload.length ∧
    pkt.payload = (payload.drop pkt.chunkOffset).take pkt.pktLen

/-- The read is a packet that `decode` rejects, or of another command. -/
def Noise (profile : Profile) (tick : IdentifyTick) : Prop :=
  ∃ raw decoded, tick.read = .data raw ∧ decode profile raw = .ok decoded ∧
    ∀ pkt, decoded = some pkt → pkt.cmd ≠ Cmd.identify

/-- The read is an empty IDENTIFY chunk. -/
def EndsTransfer (profile : Profile) (tick : IdentifyTick) : Prop :=
  ∃ raw pkt, tick.read = .data raw ∧ decode profile raw = .ok (some pkt) ∧
    pkt.cmd = Cmd.identify ∧ pkt.isChunked = true ∧ pkt.pktLen = 0

/-- The read is a chunk frame that covers an index. -/
def Covers (profile : Profile) (tick : IdentifyTick) (index : Nat) : Prop :=
  ∃ pkt, IsChunk profile tick pkt ∧ pkt.chunkOffset ≤ index ∧ index < pkt.chunkOffset + pkt.pktLen

/-- A chunk of the payload. -/
def SliceOf (payload : List UInt8) (chunk : Chunk) : Prop :=
  chunk.Whole ∧ chunk.offset + chunk.declared ≤ payload.length ∧
    chunk.data = (payload.drop chunk.offset).take chunk.declared

section Delivery

variable {profile : Profile} {payload : List UInt8} {reassembly : Reassembly}

/-- A frame is decoded in one way. -/
theorem IsChunk.unique {tick : IdentifyTick} {first second : Packet}
    (left : IsChunk profile tick first) (right : IsChunk profile tick second) : first = second := by
  obtain ⟨raw, read, decoded, -⟩ := left
  obtain ⟨other, sameRead, sameDecoded, -⟩ := right
  cases read.symm.trans sameRead
  cases decoded.symm.trans sameDecoded
  rfl

theorem Noise.not_chunk {tick : IdentifyTick} (noise : Noise profile tick) {pkt : Packet} :
    ¬ IsChunk profile tick pkt := by
  rintro ⟨raw, read, decoded, identify, -⟩
  obtain ⟨other, result, sameRead, sameDecoded, different⟩ := noise
  cases read.symm.trans sameRead
  exact different pkt (Except.ok.inj (sameDecoded.symm.trans decoded)) identify

theorem receive_noise {tick : IdentifyTick} (noise : Noise profile tick) :
    receive profile reassembly tick = .ok reassembly := by
  obtain ⟨raw, decoded, read, result, different⟩ := noise
  unfold receive
  rw [read]
  simp only
  rw [result]
  cases decoded with
  | none => rfl
  | some pkt => exact if_pos (different pkt rfl)

theorem receive_end {tick : IdentifyTick} (ends : EndsTransfer profile tick) :
    receive profile reassembly tick = .error (.complete reassembly) := by
  obtain ⟨raw, pkt, read, decoded, identify, chunked, empty⟩ := ends
  unfold receive
  rw [read]
  simp only
  rw [decoded]
  simp only
  rw [if_neg (not_not.mpr identify), if_neg (by rw [chunked]; decide), if_pos empty]

/-- A chunk of the payload, as it is stored. -/
theorem Carries.sliceOf {tick : IdentifyTick} (carries : Carries profile payload tick)
    {pkt : Packet} (chunk : IsChunk profile tick pkt) : SliceOf payload (chunkOf pkt) := by
  obtain ⟨-, other, same, inside, bytes⟩ := carries
  cases chunk.unique same
  refine ⟨?_, inside, bytes⟩
  show pkt.payload.length = pkt.pktLen
  rw [bytes, List.length_take, List.length_drop]
  omega

/-- Chunks and noise are taken in, and every chunk is stored. -/
theorem run_delivery {body : List IdentifyTick}
    (delivered : ∀ tick ∈ body, Carries profile payload tick ∨ Noise profile tick) :
    ∀ reassembly, ∃ last, Machine.run (receive profile) reassembly body = .ok last ∧
      reassembly.chunks ⊆ last.chunks ∧
      ∀ tick ∈ body, ∀ pkt, IsChunk profile tick pkt → chunkOf pkt ∈ last.chunks := by
  induction body with
  | nil => exact fun reassembly => ⟨reassembly, rfl, fun _ member => member, nofun⟩
  | cons tick rest ih =>
    intro reassembly
    have later := ih fun other member => delivered other (List.mem_cons_of_mem _ member)
    rcases delivered tick List.mem_cons_self with ⟨sent, pkt, chunk, -⟩ | noise
    · obtain ⟨next, stepped, stored⟩ : ∃ next, receive profile reassembly tick = .ok next ∧
          next.chunks = reassembly.chunks ++ [chunkOf pkt] := by
        rw [receive_chunk chunk, if_pos sent]
        split
        · exact ⟨_, rfl, rfl⟩
        · exact ⟨_, rfl, rfl⟩
      obtain ⟨last, ran, kept, all⟩ := later next
      refine ⟨last, by rw [Machine.run_cons stepped, ran], fun other member => kept ?_,
        fun other member other_pkt other_chunk => ?_⟩
      · rw [stored]
        exact List.mem_append_left _ member
      · rcases List.mem_cons.mp member with rfl | inRest
        · cases chunk.unique other_chunk
          refine kept ?_
          rw [stored]
          exact List.mem_append_right _ List.mem_cons_self
        · exact all other inRest other_pkt other_chunk
    · obtain ⟨last, ran, kept, all⟩ := later reassembly
      refine ⟨last, by rw [Machine.run_cons (receive_noise noise), ran], kept,
        fun other member pkt chunk => ?_⟩
      rcases List.mem_cons.mp member with rfl | inRest
      · exact absurd chunk noise.not_chunk
      · exact all other inRest pkt chunk

/-- The newest chunk of a payload that covers an index holds the payload's byte. -/
theorem latest_slice {chunks : List Chunk} (slices : ∀ chunk ∈ chunks, SliceOf payload chunk)
    {index : Nat} {byte : UInt8} (newest : latest (writes chunks) index = some byte) :
    payload[index]? = some byte := by
  obtain ⟨write, member, here⟩ := latest_mem newest
  obtain ⟨chunk, stored, rfl⟩ := List.mem_map.mp member
  obtain ⟨after, found⟩ := covered_eq_some_iff.mp here
  have bytes : chunk.data = (payload.drop chunk.offset).take chunk.declared :=
    (slices chunk stored).2.2
  have inside : index - chunk.offset < chunk.declared := by
    have bound := (List.getElem?_eq_some_iff.mp found).1
    rw [bytes, List.length_take] at bound
    omega
  rw [bytes, List.getElem?_take_of_lt inside, List.getElem?_drop,
    Nat.add_sub_cancel' after] at found
  exact found

/-- **Chunks that cover a payload show it.** -/
theorem buffer_slices (inv : Reassembled reassembly)
    (slices : ∀ chunk ∈ reassembly.chunks, SliceOf payload chunk)
    (covers : ∀ index < payload.length, ∃ chunk ∈ reassembly.chunks,
      chunk.offset ≤ index ∧ index < chunk.offset + chunk.declared)
    (nonempty : 0 < payload.length) :
    reassembly.recvd = payload.length ∧
      reassembly.buf.take (min reassembly.recvd reassembly.buf.length) = payload := by
  have mark := inv.mark fun chunk member => (slices chunk member).1
  have highest : reassembly.recvd = payload.length := by
    rw [mark]
    refine le_antisymm (extent_le fun write member => ?_) ?_
    · obtain ⟨chunk, stored, rfl⟩ := List.mem_map.mp member
      obtain ⟨whole, inside, -⟩ := slices chunk stored
      show chunk.offset + chunk.data.length ≤ payload.length
      rwa [whole]
    · obtain ⟨chunk, stored, -, beyond⟩ := covers (payload.length - 1) (by omega)
      have bound := le_extent (List.mem_map_of_mem (f := fun chunk : Chunk =>
        (chunk.offset, chunk.data)) stored)
      have whole : chunk.data.length = chunk.declared := (slices chunk stored).1
      show payload.length ≤ extent (writes reassembly.chunks)
      unfold writes
      simp only at bound
      omega
  have room : payload.length ≤ reassembly.buf.length := by
    rw [← highest, mark]
    exact inv.buffer.fits
  refine ⟨highest, ?_⟩
  rw [highest, Nat.min_eq_left room]
  refine List.ext_getElem? fun index => ?_
  by_cases inside : index < payload.length
  · obtain ⟨chunk, stored, after, before⟩ := covers index inside
    have whole : chunk.data.length = chunk.declared := (slices chunk stored).1
    have here : covered (chunk.offset, chunk.data) index =
        some (chunk.data.get ⟨index - chunk.offset, by omega⟩) :=
      covered_eq_some_iff.mpr ⟨after, List.getElem?_eq_getElem _⟩
    obtain ⟨byte, newest⟩ := latest_isSome (List.mem_map_of_mem (f := fun chunk : Chunk =>
        (chunk.offset, chunk.data)) stored) here
    rw [List.getElem?_take_of_lt inside, inv.buffer.cell index (by omega)]
    show some ((latest (writes reassembly.chunks) index).getD 0) = _
    rw [show latest (writes reassembly.chunks) index = some byte from newest,
      latest_slice slices newest]
    rfl
  · rw [List.getElem?_eq_none (not_lt.mp inside), List.getElem?_take_eq_none (not_lt.mp inside)]

/-- **IDENTIFY reassembly does not depend on order or duplication.** -/
theorem reassembles (profile : Profile) (payload : List UInt8) (body : List IdentifyTick)
    (final : IdentifyTick) (rest : List IdentifyTick) (nonempty : 1 ≤ payload.length)
    (delivered : ∀ tick ∈ body, Carries profile payload tick ∨ Noise profile tick)
    (covers : ∀ index < payload.length, ∃ tick ∈ body, Covers profile tick index)
    (ends : EndsTransfer profile final) :
    receiveIdentifyResponse profile (body ++ final :: rest) = .ok (some payload) := by
  obtain ⟨last, ran, -, stored⟩ := run_delivery delivered Reassembly.start
  have gathered : receiveIdentify profile body = .complete last := by rw [receiveIdentify, ran]
  obtain ⟨inv, reads⟩ := reassembled gathered
  have slices : ∀ chunk ∈ last.chunks, SliceOf payload chunk := by
    intro chunk member
    obtain ⟨tick, here, pkt, framed, rfl⟩ := reads chunk member
    rcases delivered tick here with carries | noise
    · exact carries.sliceOf framed
    · exact absurd framed noise.not_chunk
  have covered_ : ∀ index < payload.length, ∃ chunk ∈ last.chunks,
      chunk.offset ≤ index ∧ index < chunk.offset + chunk.declared := by
    intro index inside
    obtain ⟨tick, here, pkt, framed, after, before⟩ := covers index inside
    exact ⟨chunkOf pkt, stored tick here pkt framed, after, before⟩
  obtain ⟨highest, shown⟩ := buffer_slices inv slices covered_ nonempty
  have ended : receiveIdentify profile (body ++ final :: rest) = .complete last := by
    rw [receiveIdentify, Machine.run_append ran, Machine.run, receive_end ends]
  rw [receiveIdentifyResponse, ended, Exit.response, shown, if_pos (by omega)]

/-- A chunk frame of the wire: the length and the offset of the chunk, then its bytes. -/
theorem carries_frame (profile : Profile) {payload : List UInt8} {options : UInt8} (seq : UInt8)
    {varint offset : List UInt8} {start count : Nat} (chunk : options &&& Opt.chunk ≠ 0)
    (isVarint : Leb128.IsVarint varint) (isOffset : Leb128.IsVarint offset)
    (short : varint.length ≤ 5) (shortOffset : offset.length ≤ 5)
    (declared : Leb128.value varint = count) (placed : Leb128.value offset = start)
    (positive : 0 < count) (inside : start + count ≤ payload.length)
    (small : payload.length < 2 ^ 28) :
    Carries profile payload ⟨.data ([Cmd.identify, options, seq] ++ varint ++
      (offset ++ (payload.drop start).take count)), true⟩ := by
  have length : ((payload.drop start).take count).length = count := by
    rw [List.length_take, List.length_drop]
    omega
  have fits : payload.length < u32Size := small.trans (by decide)
  have decoded := @decode_chunk Cmd.identify options seq varint profile offset chunk isVarint
    isOffset short shortOffset ((payload.drop start).take count) (by rw [length, declared])
    (by omega)
  rw [length, placed, Nat.mod_eq_of_lt (show start < u32Size by omega)] at decoded
  exact ⟨rfl, _, ⟨_, rfl, decoded, rfl, decide_eq_true chunk, positive.ne'⟩, inside, rfl⟩

/-- Three bytes in two overlapping chunks, the second part first, with an INPUT packet between. -/
theorem reassembles_two :
    let tail : IdentifyTick := ⟨.data [0x04, 0xb1, 0x01, 0x02, 0x01, 0x06, 0x07], true⟩
    let noise : IdentifyTick := ⟨.data [0x20, 0x00, 0x09, 0x00], true⟩
    let head : IdentifyTick := ⟨.data [0x04, 0xb1, 0x02, 0x02, 0x00, 0x05, 0x06], true⟩
    let final : IdentifyTick := ⟨.data [0x04, 0xa1, 0x03, 0x00, 0x03], true⟩
    receiveIdentifyResponse .debug ([tail, noise, head] ++ final :: []) = .ok (some [5, 6, 7]) := by
  intro tail noise head final
  have second : Carries .debug [5, 6, 7] tail :=
    @carries_frame .debug [5, 6, 7] 0xb1 0x01 [0x02] [0x01] 1 2 (by decide) (by decide) (by decide)
      (by decide) (by decide) (by decide) (by decide) (by decide) (by decide) (by decide)
  have first : Carries .debug [5, 6, 7] head :=
    @carries_frame .debug [5, 6, 7] 0xb1 0x02 [0x02] [0x00] 0 2 (by decide) (by decide) (by decide)
      (by decide) (by decide) (by decide) (by decide) (by decide) (by decide) (by decide)
  have other : Noise .debug noise := ⟨_, _, rfl, rfl, fun pkt decoded => by cases decoded; decide⟩
  have chunkTail : IsChunk .debug tail ⟨0x04, 0xb1, 0x01, 5, 2, 1, [0x06, 0x07]⟩ :=
    ⟨_, rfl, rfl, rfl, rfl, by decide⟩
  have chunkHead : IsChunk .debug head ⟨0x04, 0xb1, 0x02, 5, 2, 0, [0x05, 0x06]⟩ :=
    ⟨_, rfl, rfl, rfl, rfl, by decide⟩
  refine reassembles .debug [5, 6, 7] [tail, noise, head] final [] (by decide) ?_ ?_
    ⟨_, ⟨0x04, 0xa1, 0x03, 5, 0, 3, []⟩, rfl, rfl, rfl, rfl, rfl⟩
  · intro tick member
    rcases List.mem_cons.mp member with rfl | member
    · exact Or.inl second
    rcases List.mem_cons.mp member with rfl | member
    · exact Or.inr other
    · rw [List.mem_singleton.mp member]
      exact Or.inl first
  · intro index inside
    by_cases front : index < 1
    · exact ⟨head, by simp, _, chunkHead, Nat.zero_le _, by simp only; omega⟩
    · exact ⟨tail, by simp, _, chunkTail, by simp only; omega, inside⟩

end Delivery

/-! ### Any reads -/

/-- **IDENTIFY reassembly under loss and truncation.** Whatever is read, a response returned on the
chunked path holds at every index the byte of the newest accepted chunk that covers it, and zero
where no chunk does; the accepted chunks are frames that were read. While they are whole, the
response ends at the highest end offset stored, and every ACK says the highest end offset stored by
then, modulo `2 ^ 16`. -/
theorem reassembly_sound (profile : Profile) (ticks : List IdentifyTick) (last : Reassembly)
    (response : List UInt8) (ended : receiveIdentify profile ticks = .complete last)
    (returned : receiveIdentifyResponse profile ticks = .ok (some response)) :
    (∀ index < response.length,
      response[index]? = some ((latest (writes last.chunks) index).getD 0)) ∧
    FromReads profile ticks last ∧
    ((∀ chunk ∈ last.chunks, chunk.Whole) → response.length = extent (writes last.chunks)) ∧
    ∀ ack ∈ last.acks, ack.stored <+: last.chunks ∧ ((∀ chunk ∈ ack.stored, chunk.Whole) →
      ReceivedField ack.packet (extent (writes ack.stored) % 2 ^ 16)) := by
  obtain ⟨inv, reads⟩ := reassembled ended
  rw [receiveIdentifyResponse, ended, Exit.response] at returned
  split at returned
  · obtain rfl := Option.some.inj (Except.ok.inj returned)
    refine ⟨fun index inside => ?_, reads, fun whole => ?_, inv.acks⟩
    · rw [List.length_take] at inside
      rw [List.getElem?_take_of_lt (by omega)]
      exact inv.buffer.cell index (by omega)
    · have fits := inv.buffer.fits
      rw [List.length_take, inv.mark whole]
      omega
  · cases returned

/-- A chunk of one byte at offset 2, then an empty chunk. -/
def gapTicks : List IdentifyTick :=
  [⟨.data [0x04, 0xb1, 0x01, 0x01, 0x02, 0x07], true⟩, ⟨.data [0x04, 0xa1, 0x02, 0x00, 0x03], true⟩]

/-- What the receiver ends with. -/
def gapLast : Reassembly :=
  (Reassembly.start.accept ⟨0x04, 0xb1, 0x01, 5, 1, 2, [0x07]⟩ [0x07]).acknowledge 0x01

theorem gap_ended : receiveIdentify .debug gapTicks = .complete gapLast := by
  have chunk : IsChunk .debug ⟨.data [0x04, 0xb1, 0x01, 0x01, 0x02, 0x07], true⟩
      ⟨0x04, 0xb1, 0x01, 5, 1, 2, [0x07]⟩ := ⟨_, rfl, rfl, rfl, rfl, by decide⟩
  have ends : EndsTransfer .debug ⟨.data [0x04, 0xa1, 0x02, 0x00, 0x03], true⟩ :=
    ⟨_, ⟨0x04, 0xa1, 0x02, 5, 0, 3, []⟩, rfl, rfl, rfl, rfl, rfl⟩
  have stepped := @receive_chunk .debug Reassembly.start _ _ chunk
  rw [if_pos (by decide), if_pos rfl] at stepped
  rw [receiveIdentify, gapTicks, Machine.run_cons stepped, Machine.run, receive_end ends]
  rfl

theorem gap_returned : receiveIdentifyResponse .debug gapTicks =
    .ok (some (gapLast.buf.take (min gapLast.recvd gapLast.buf.length))) := by
  rw [receiveIdentifyResponse, gap_ended, Exit.response, if_pos (by decide)]

theorem reassembly_sound_gap :
    (∀ index < (gapLast.buf.take (min gapLast.recvd gapLast.buf.length)).length,
      (gapLast.buf.take (min gapLast.recvd gapLast.buf.length))[index]? =
        some ((latest (writes gapLast.chunks) index).getD 0)) ∧
    FromReads .debug gapTicks gapLast ∧
    ((∀ chunk ∈ gapLast.chunks, chunk.Whole) →
      (gapLast.buf.take (min gapLast.recvd gapLast.buf.length)).length =
        extent (writes gapLast.chunks)) ∧
    ∀ ack ∈ gapLast.acks, ack.stored <+: gapLast.chunks ∧
      ((∀ chunk ∈ ack.stored, chunk.Whole) →
        ReceivedField ack.packet (extent (writes ack.stored) % 2 ^ 16)) :=
  reassembly_sound .debug gapTicks gapLast _ gap_ended gap_returned

/-- The first two bytes returned after the gap were never received. -/
theorem not_covered : ¬ ∀ profile ticks last response,
    receiveIdentify profile ticks = .complete last →
    receiveIdentifyResponse profile ticks = .ok (some response) →
    ∀ index < response.length, ∃ byte, latest (writes last.chunks) index = some byte := by
  intro all
  obtain ⟨byte, found⟩ := all .debug gapTicks gapLast _ gap_ended gap_returned 0 (by decide +kernel)
  cases found

end Wolverine.Usb
