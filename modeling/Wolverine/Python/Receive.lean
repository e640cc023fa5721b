/-
**The chunk receiver of `gip_init.py`, one frame at a time.**

`_recv_auth_pkt` reassembles a chunked payload in a `bytearray` and answers a chunk with its ACK bit
by a GIP ACK, whose two counts are packed as unsigned 16-bit fields. One iteration of its loop is a
`Reaction`: the state after it, the ACK that it writes, and what it returns.

* `Memory` — the memory of the machine bounds what a `bytearray` can hold.
* `sendGipAckForChunk_eq` — the ACK of counts that fit is built, and `_wait_for_gip_ack` takes it.
* `recvAuthFrame_start`, `recvAuthFrame_chunk`, `recvAuthFrame_empty` — what the receiver does with
  the frames of a chunked transfer.
-/

import Wolverine.Base.Machine
import Wolverine.Python.Auth
import Wolverine.Python.Decode

namespace Wolverine.Python

open Wolverine.Machine (bind_of_ok error_not_ok)

/-! ### Acknowledgements -/

/-- `struct.pack('<H', value)`. -/
def packLE16 (value : Int) : Except PyError (List UInt8) :=
  if 0 ≤ value ∧ value < 65536 then
    .ok [UInt8.ofNat value.toNat, UInt8.ofNat (value.toNat >>> 8)]
  else .error .structError

/-- `_send_gip_ack_for_chunk`: the packet that it writes. -/
def sendGipAckForChunk (recvSeq recvCmd receivedSoFar totalLen : Nat) :
    Except PyError (List UInt8) := do
  let remaining : Int := totalLen - receivedSoFar
  let head ← pyBytes [0x00, recvCmd, gipClientId ||| gipOptInternal]
  let received ← packLE16 receivedSoFar
  let left ← packLE16 remaining
  let payload := head ++ received ++ [0x00, 0x00] ++ left
  buildPacket gipCmdAcknowledge (gipClientId ||| gipOptInternal) recvSeq payload

/-- A frame for which `_wait_for_gip_ack` returns: a GIP ACK of the command. -/
def isGipAck (cmd : Nat) (raw : List UInt8) : Bool :=
  match decodeGipHeader raw with
  | none => false
  | some h =>
    let payload := (raw.drop h.hdrLen).take h.pktLen
    h.cmd = gipCmdAcknowledge ∧ payload.length ≥ 2 ∧ (payload.getD 1 0).toNat = cmd

/-! ### Memory -/

/-- The memory of the machine, by the longest `bytearray` that it allocates: 64 KiB are always there,
and `sys.maxsize` bytes, which leave no room for the closing zero, never. -/
class Memory where
  limit : Nat
  least : 2 ^ 16 ≤ limit
  most : limit < 2 ^ 63 - 1

/-- A machine that allocates up to a gibibyte. -/
abbrev Memory.gibibyte : Memory where
  limit := 2 ^ 30
  least := by decide
  most := by decide

section Bytearray

variable [Memory]

/-- `bytearray(size)`: a size beyond `sys.maxsize` is no size, and one beyond the memory is not
allocated. -/
def pyBytearray (size : Nat) : Except PyError (List UInt8) :=
  if size ≥ 2 ^ 63 then .error .overflowError
  else if size ≤ Memory.limit then .ok (List.replicate size 0)
  else .error .memoryError

/-- A `bytearray` takes on a new content: to grow, it is allocated again. -/
def pyResize (buf content : List UInt8) : Except PyError (List UInt8) :=
  if content.length ≤ max buf.length Memory.limit then .ok content else .error .memoryError

/-- `buf.extend(more)`. -/
def pyExtend (buf more : List UInt8) : Except PyError (List UInt8) := pyResize buf (buf ++ more)

/-- `buf[i:j] = data` on a `bytearray`, with `i ≤ j`: the slice is replaced whatever the length of
`data`, and both indices are clipped to the end. -/
def sliceAssign (buf : List UInt8) (i j : Nat) (data : List UInt8) : List UInt8 :=
  buf.take i ++ data ++ buf.drop j

/-- `buf[i:j] = data`, in the memory. -/
def pySliceAssign (buf : List UInt8) (i j : Nat) (data : List UInt8) :
    Except PyError (List UInt8) := pyResize buf (sliceAssign buf i j data)

theorem pyBytearray_ok {size : Nat} (fits : size ≤ Memory.limit) :
    pyBytearray size = .ok (List.replicate size 0) := by
  have most := Memory.most
  rw [pyBytearray, if_neg (by omega), if_pos fits]

/-- **A size is allocated exactly when the memory has it.** -/
theorem pyBytearray_ok_iff {size : Nat} {buf : List UInt8} :
    pyBytearray size = .ok buf ↔ size ≤ Memory.limit ∧ buf = List.replicate size 0 := by
  refine ⟨fun allocated => ?_, fun ⟨fits, zeros⟩ => by rw [pyBytearray_ok fits, zeros]⟩
  unfold pyBytearray at allocated
  split at allocated
  · cases allocated
  · split at allocated
    · cases allocated
      exact ⟨by assumption, rfl⟩
    · cases allocated

theorem pyResize_ok {buf content : List UInt8}
    (fits : content.length ≤ max buf.length Memory.limit) :
    pyResize buf content = .ok content := if_pos fits

theorem pyResize_ok_iff {buf content resized : List UInt8} :
    pyResize buf content = .ok resized ↔
      content.length ≤ max buf.length Memory.limit ∧ resized = content := by
  refine ⟨fun kept => ?_, fun ⟨fits, same⟩ => by rw [pyResize_ok fits, same]⟩
  unfold pyResize at kept
  split at kept
  · cases kept
    exact ⟨by assumption, rfl⟩
  · cases kept

omit [Memory] in
theorem length_sliceAssign (buf : List UInt8) (i j : Nat) (data : List UInt8) :
    (sliceAssign buf i j data).length = min i buf.length + data.length + (buf.length - j) := by
  rw [sliceAssign, List.length_append, List.length_append, List.length_take, List.length_drop]

/-- The bytes, put at an offset or at the end before it, stay inside the buffer or the memory. -/
def FitsAt (buf : List UInt8) (offset : Nat) (data : List UInt8) : Prop :=
  min offset buf.length + data.length ≤ max buf.length Memory.limit

/-- **A slice takes up to as many bytes as it has exactly when they fit.** -/
theorem pySliceAssign_ok_iff {buf data after : List UInt8} {offset stop : Nat}
    (short : offset + data.length ≤ stop) :
    pySliceAssign buf offset stop data = .ok after ↔
      FitsAt buf offset data ∧ after = sliceAssign buf offset stop data := by
  rw [pySliceAssign, pyResize_ok_iff, length_sliceAssign, FitsAt]
  refine and_congr_left fun _ => ?_
  omega

/-- **A slice inside the buffer needs no memory.** -/
theorem pySliceAssign_inside {buf data : List UInt8} {offset stop : Nat}
    (inside : stop ≤ buf.length) (short : offset + data.length ≤ stop) :
    pySliceAssign buf offset stop data = .ok (sliceAssign buf offset stop data) := by
  refine (pySliceAssign_ok_iff short).mpr ⟨?_, rfl⟩
  unfold FitsAt
  omega

end Bytearray

/-! ### The receiver -/

/-- What `dev.read` on EP1 IN comes to: a `USBTimeoutError`, another `USBError`, or data. -/
inductive DevRead
  | timeout
  | usbError
  | data (raw : List UInt8)
  deriving DecidableEq, Repr

/-- The variables of `_recv_auth_pkt`. -/
structure ChunkState where
  chunkBuf : Option (List UInt8)
  chunkTotal : Nat
  chunkRecvd : Nat
  chunkSeq : Nat
  deriving DecidableEq, Repr

def ChunkState.initial : ChunkState :=
  { chunkBuf := none, chunkTotal := 0, chunkRecvd := 0, chunkSeq := 0 }

/-- One iteration of the loop. -/
structure Reaction where
  state : ChunkState
  /-- The packet written to the device. -/
  ack : Option (List UInt8)
  /-- The payload and its sequence number, where the receiver returns. -/
  returned : Option (List UInt8 × Nat)
  deriving DecidableEq, Repr

/-- Wait on, with nothing written. -/
def Reaction.quiet (state : ChunkState) : Reaction := { state, ack := none, returned := none }

/-- The ACK of a chunk that asks for one. -/
def ackIfAsked (h : Header) (received total : Nat) : Except PyError (Option (List UInt8)) :=
  if h.opts &&& gipOptAck ≠ 0 then
    (sendGipAckForChunk h.seq gipCmdAuthenticate received total).map some
  else .ok none

section Receiver

variable [Memory]

/-- The first chunk: its offset is the total length. -/
def onChunkStart (h : Header) (chunkData : List UInt8) : Except PyError Reaction := do
  let buf ← pyBytearray h.chunkOffset
  let buf ← pySliceAssign buf 0 h.pktLen chunkData
  let state : ChunkState :=
    { chunkBuf := some buf, chunkTotal := h.chunkOffset, chunkRecvd := h.pktLen
      chunkSeq := h.seq }
  let ack ← ackIfAsked h state.chunkRecvd state.chunkTotal
  return { state, ack, returned := none }

/-- A later chunk: an empty one ends the transfer, and so does one that reaches the total. -/
def onChunk (state : ChunkState) (h : Header) (chunkData : List UInt8) : Except PyError Reaction :=
  match state.chunkBuf with
  | none => .ok (Reaction.quiet state)   -- missed start
  | some buf =>
    if h.pktLen = 0 then
      .ok { state, ack := none, returned := some (buf.take state.chunkRecvd, state.chunkSeq) }
    else do
      let stop := h.chunkOffset + h.pktLen
      let buf ← pySliceAssign buf h.chunkOffset stop chunkData
      let ack ← ackIfAsked h stop state.chunkTotal
      let returned := if stop ≥ state.chunkTotal then some (buf, state.chunkSeq) else none
      return { state := { state with chunkBuf := some buf, chunkRecvd := stop }, ack, returned }

/-- One iteration of `_recv_auth_pkt` on what `dev.read` returned. -/
def recvAuthFrame (state : ChunkState) (raw : List UInt8) : Except PyError Reaction :=
  match decodeGipHeader raw with
  | none => .ok (Reaction.quiet state)
  | some h =>
    if h.cmd ≠ gipCmdAuthenticate then .ok (Reaction.quiet state)
    else
      let chunkData := (raw.drop h.hdrLen).take h.pktLen
      if h.opts &&& gipOptChunkStart ≠ 0 then onChunkStart h chunkData
      else if h.opts &&& gipOptChunk ≠ 0 then onChunk state h chunkData
      else .ok { state, ack := none, returned := some (chunkData, h.seq) }

end Receiver

/-! ### The ACK of a chunk -/

theorem packLE16_ok {value : Nat} (small : value < 65536) :
    packLE16 value = .ok [UInt8.ofNat value, UInt8.ofNat (value >>> 8)] := by
  have fits : (0 : Int) ≤ value ∧ (value : Int) < 65536 := by omega
  rw [packLE16, if_pos fits, Int.toNat_natCast]

theorem packLE16_ok_iff {value : Int} :
    (∃ packed, packLE16 value = .ok packed) ↔ 0 ≤ value ∧ value < 65536 := by
  unfold packLE16
  by_cases fits : 0 ≤ value ∧ value < 65536
  · rw [if_pos fits]
    exact iff_of_true ⟨_, rfl⟩ fits
  · rw [if_neg fits]
    exact iff_of_false error_not_ok fits

/-- The payload of an ACK: the command, the bytes received and the bytes that are left. -/
def ackPayload (recvCmd received left : Nat) : List UInt8 :=
  [0x00, UInt8.ofNat recvCmd, 0x21, UInt8.ofNat received, UInt8.ofNat (received >>> 8), 0x00, 0x00,
    UInt8.ofNat left, UInt8.ofNat (left >>> 8)]

theorem buildPacket_ack {recvSeq : Nat} (seqByte : recvSeq ≤ 255) (recvCmd received left : Nat) :
    buildPacket gipCmdAcknowledge (gipClientId ||| gipOptInternal) recvSeq
        (ackPayload recvCmd received left) =
      .ok (headerOf gipCmdAcknowledge 0x21 recvSeq 9 none ++ ackPayload recvCmd received left) := by
  have header := buildGipHeader_of_le (show gipCmdAcknowledge ≤ 255 by decide)
    (show gipClientId ||| gipOptInternal ≤ 255 by decide) seqByte 9 none
  unfold buildPacket
  rw [show (ackPayload recvCmd received left).length = 9 from rfl, header]
  rfl

/-- **Counts that fit in 16 bits are acknowledged.** -/
theorem sendGipAckForChunk_eq {recvSeq recvCmd received total : Nat} (seqByte : recvSeq ≤ 255)
    (cmdByte : recvCmd ≤ 255) (small : received < 65536) (within : received ≤ total)
    (rest : total - received < 65536) :
    sendGipAckForChunk recvSeq recvCmd received total =
      .ok (headerOf gipCmdAcknowledge 0x21 recvSeq 9 none ++
        ackPayload recvCmd received (total - received)) := by
  have head : pyBytes [0x00, recvCmd, gipClientId ||| gipOptInternal] =
      .ok [0x00, UInt8.ofNat recvCmd, 0x21] := by
    refine pyBytes_ok fun value member => ?_
    simp only [List.mem_cons, List.not_mem_nil, or_false] at member
    rcases member with rfl | rfl | rfl
    · decide
    · omega
    · decide
  have left : packLE16 ((total : Int) - received) =
      .ok [UInt8.ofNat (total - received), UInt8.ofNat ((total - received) >>> 8)] := by
    rw [← Int.ofNat_sub within]
    exact packLE16_ok rest
  refine (bind_of_ok head _).trans ?_
  refine (bind_of_ok (packLE16_ok small) _).trans ?_
  exact (bind_of_ok left _).trans (buildPacket_ack seqByte recvCmd received (total - received))

/-- **The sender takes the ACK of its command.** -/
theorem isGipAck_ack {recvSeq recvCmd : Nat} (seqByte : recvSeq ≤ 255) (cmdByte : recvCmd ≤ 255)
    (received left : Nat) :
    isGipAck recvCmd (headerOf gipCmdAcknowledge 0x21 recvSeq 9 none ++
      ackPayload recvCmd received left) = true := by
  have decoded := decode_headerOf (show gipCmdAcknowledge ≤ 255 by decide)
    (show 0x21 ≤ 255 by decide) seqByte 9 (show (none : Option Nat).isSome = true ↔ _ by decide)
    (ackPayload recvCmd received left)
  have payload : (ackPayload recvCmd received left).take 9 = ackPayload recvCmd received left := rfl
  have command : (UInt8.ofNat recvCmd).toNat = recvCmd := toNat_ofNat_byte cmdByte
  unfold isGipAck
  rw [decoded]
  simp only [List.drop_left, payload, decide_eq_true_eq]
  exact ⟨trivial, by show 2 ≤ 9; decide, command⟩

/-! ### The frames of a transfer -/

/-- The receiver holds the first `count` bytes of a payload. -/
def holding (authPayload : List UInt8) (count seq : Nat) : ChunkState where
  chunkBuf := some (authPayload.take count ++ List.replicate (authPayload.length - count) 0)
  chunkTotal := authPayload.length
  chunkRecvd := count
  chunkSeq := seq

/-- The ACK of the first `count` bytes of a payload. -/
def ackOf (authPayload : List UInt8) (count seq : Nat) : List UInt8 :=
  headerOf gipCmdAcknowledge 0x21 seq 9 none ++
    ackPayload gipCmdAuthenticate count (authPayload.length - count)

/-- The next bytes of the payload take the place of as many zeros. -/
theorem sliceAssign_next {authPayload : List UInt8} {offset size : Nat}
    (inside : offset + size ≤ authPayload.length) :
    sliceAssign (authPayload.take offset ++ List.replicate (authPayload.length - offset) 0) offset
        (offset + size) ((authPayload.drop offset).take size) =
      authPayload.take (offset + size) ++
        List.replicate (authPayload.length - (offset + size)) 0 := by
  have front : (authPayload.take offset).length = offset := List.length_take_of_le (by omega)
  have kept : (authPayload.take offset ++ List.replicate (authPayload.length - offset) 0).take
      offset = authPayload.take offset := List.take_left' front
  have behind : (authPayload.take offset ++
      List.replicate (authPayload.length - offset) (0 : UInt8)).drop (offset + size) =
        List.replicate (authPayload.length - (offset + size)) 0 := by
    rw [← List.drop_drop, List.drop_left' front, List.drop_replicate, Nat.sub_sub]
  rw [sliceAssign, kept, behind, List.take_add]

section Transfer

variable [Memory] {authPayload : List UInt8} {opts seq offset size : Nat}

theorem recvAuthFrame_header (optsByte : opts ≤ 255) (seqByte : seq ≤ 255)
    (chunk : opts &&& gipOptChunk ≠ 0) (state : ChunkState) (data : List UInt8) (offset : Nat) :
    recvAuthFrame state
        (headerOf gipCmdAuthenticate opts seq data.length (some offset) ++ data) =
      let h : Header :=
        { cmd := gipCmdAuthenticate, opts, seq
          hdrLen := (headerOf gipCmdAuthenticate opts seq data.length (some offset)).length
          pktLen := data.length, chunkOffset := offset }
      if opts &&& gipOptChunkStart ≠ 0 then onChunkStart h data else onChunk state h data := by
  have decoded := decode_headerOf (show gipCmdAuthenticate ≤ 255 by decide) optsByte seqByte
    data.length (show (some offset).isSome = true ↔ _ from iff_of_true rfl chunk) data
  unfold recvAuthFrame
  rw [decoded]
  simp only [List.drop_left, List.take_length, if_pos chunk, ne_eq, not_true, if_false,
    Option.getD_some]

omit [Memory] in
theorem ackIfAsked_eq {h : Header} (seqByte : h.seq ≤ 255) {count : Nat}
    (inside : count ≤ authPayload.length) (small : authPayload.length < 65536) :
    ackIfAsked h count authPayload.length =
      .ok (if h.opts &&& gipOptAck ≠ 0 then some (ackOf authPayload count h.seq) else none) := by
  unfold ackIfAsked
  split
  · rw [sendGipAckForChunk_eq seqByte (by decide) (by omega) inside (by omega)]
    rfl
  · rfl

/-- **The first chunk**: the receiver takes its offset for the total length. -/
theorem recvAuthFrame_start (optsByte : opts ≤ 255) (seqByte : seq ≤ 255)
    (chunk : opts &&& gipOptChunk ≠ 0) (start : opts &&& gipOptChunkStart ≠ 0)
    (inside : size ≤ authPayload.length) (small : authPayload.length < 65536)
    (state : ChunkState) :
    recvAuthFrame state
        (headerOf gipCmdAuthenticate opts seq size (some authPayload.length) ++
          authPayload.take size) =
      .ok
        { state := holding authPayload size seq
          ack := if opts &&& gipOptAck ≠ 0 then some (ackOf authPayload size seq) else none
          returned := none } := by
  have length : (authPayload.take size).length = size := List.length_take_of_le inside
  have frame := recvAuthFrame_header optsByte seqByte chunk state (authPayload.take size)
    authPayload.length
  have fits : authPayload.length ≤ Memory.limit := small.le.trans Memory.least
  have zeros : pyBytearray authPayload.length = .ok (List.replicate authPayload.length 0) :=
    pyBytearray_ok fits
  have first : sliceAssign (List.replicate authPayload.length 0) 0 size (authPayload.take size) =
      authPayload.take size ++ List.replicate (authPayload.length - size) 0 := by
    rw [sliceAssign, List.take_zero, List.nil_append, List.drop_replicate]
  have stored : pySliceAssign (List.replicate authPayload.length 0) 0 size
      (authPayload.take size) = .ok (authPayload.take size ++
        List.replicate (authPayload.length - size) 0) := by
    rw [← first]
    refine pySliceAssign_inside ?_ ?_
    · rw [List.length_replicate]
      exact inside
    · rw [length, Nat.zero_add]
  rw [length] at frame
  rw [frame, if_pos start]
  refine (bind_of_ok zeros _).trans ?_
  refine (bind_of_ok stored _).trans ?_
  exact bind_of_ok (ackIfAsked_eq seqByte inside small) _

/-- **A later chunk in its place**: it ends the transfer where it reaches the total. -/
theorem recvAuthFrame_chunk (optsByte : opts ≤ 255) (seqByte : seq ≤ 255)
    (chunk : opts &&& gipOptChunk ≠ 0) (later : opts &&& gipOptChunkStart = 0) (positive : 0 < size)
    (inside : offset + size ≤ authPayload.length) (small : authPayload.length < 65536)
    (firstSeq : Nat) :
    recvAuthFrame (holding authPayload offset firstSeq)
        (headerOf gipCmdAuthenticate opts seq size (some offset) ++
          (authPayload.drop offset).take size) =
      .ok
        { state := holding authPayload (offset + size) firstSeq
          ack :=
            if opts &&& gipOptAck ≠ 0 then some (ackOf authPayload (offset + size) seq) else none
          returned :=
            if offset + size ≥ authPayload.length then some (authPayload, firstSeq)
            else none } := by
  have length : ((authPayload.drop offset).take size).length = size :=
    List.length_take_of_le (by rw [List.length_drop]; omega)
  have frame := recvAuthFrame_header optsByte seqByte chunk (holding authPayload offset firstSeq)
    ((authPayload.drop offset).take size) offset
  rw [length] at frame
  have stored : pySliceAssign (authPayload.take offset ++
      List.replicate (authPayload.length - offset) 0) offset (offset + size)
        ((authPayload.drop offset).take size) = .ok (authPayload.take (offset + size) ++
          List.replicate (authPayload.length - (offset + size)) 0) := by
    rw [← sliceAssign_next inside]
    refine pySliceAssign_inside ?_ ?_
    · simp only [List.length_append, List.length_take, List.length_replicate]
      omega
    · rw [length]
  rw [frame, if_neg (not_not.mpr later)]
  unfold onChunk
  simp only [holding, if_neg positive.ne']
  refine (bind_of_ok stored _).trans ?_
  refine (bind_of_ok (ackIfAsked_eq seqByte inside small) _).trans ?_
  by_cases last : offset + size ≥ authPayload.length
  · have whole : authPayload.take (offset + size) ++
        List.replicate (authPayload.length - (offset + size)) 0 = authPayload := by
      rw [List.take_of_length_le last, Nat.sub_eq_zero_of_le last, List.replicate_zero,
        List.append_nil]
    simp only [if_pos last, whole]
    rfl
  · simp only [last, if_false]
    rfl

/-- **The empty chunk** ends the transfer with what is held. -/
theorem recvAuthFrame_empty (optsByte : opts ≤ 255) (seqByte : seq ≤ 255)
    (chunk : opts &&& gipOptChunk ≠ 0) (later : opts &&& gipOptChunkStart = 0)
    (inside : offset ≤ authPayload.length) (firstSeq total : Nat) :
    recvAuthFrame (holding authPayload offset firstSeq)
        (headerOf gipCmdAuthenticate opts seq 0 (some total)) =
      .ok
        { state := holding authPayload offset firstSeq, ack := none
          returned := some (authPayload.take offset, firstSeq) } := by
  have frame := recvAuthFrame_header optsByte seqByte chunk (holding authPayload offset firstSeq)
    [] total
  have held : (authPayload.take offset ++
      List.replicate (authPayload.length - offset) 0).take offset = authPayload.take offset :=
    List.take_left' (List.length_take_of_le inside)
  rw [List.append_nil, List.length_nil] at frame
  rw [frame, if_neg (not_not.mpr later)]
  unfold onChunk
  simp only [holding, held]
  rfl

end Transfer

end Wolverine.Python
