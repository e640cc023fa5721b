/-
**Receiving the IDENTIFY response: `receive_identify_response` of `usb.rs`.**

The response comes in chunks; each is copied to its offset in a buffer that grows on demand, and a
high-water mark of the declared end offsets decides how much of the buffer is returned. An empty
chunk ends the transfer, and so does a timeout once something has come. A tick is one read and the
fate of the ACK that may follow it; a tick list that ends is the deadline.

As history the state keeps the accepted chunks, with the bytes present in their frames, and the
ACKs sent. `receive_ok` says what an iteration that goes on does to that state, and
`receive_complete` that the iteration which ends the transfer keeps it.
-/

import Wolverine.Base.Machine
import Wolverine.Base.Overlay
import Wolverine.Usb.EventLoop

namespace Wolverine.Usb

open Wolverine.Rust Wolverine.Gip Wolverine.Overlay

/-! ### The receiver -/

/-- An accepted chunk: its offset, its declared length, and its bytes present in the frame. -/
structure Chunk where
  offset : Nat
  declared : Nat
  data : List UInt8
  deriving DecidableEq, Repr

/-- An ACK sent, and the chunks accepted by then. -/
structure ChunkAck where
  packet : List UInt8
  stored : List Chunk
  deriving DecidableEq, Repr

structure Reassembly where
  buf : List UInt8
  /-- The high-water mark. -/
  recvd : Nat
  chunks : List Chunk
  acks : List ChunkAck
  deriving DecidableEq, Repr

/-- One read, and whether an ACK sent after it goes through. -/
structure IdentifyTick where
  read : Ep1Read
  sendOk : Bool
  deriving DecidableEq, Repr

/-- How the loop ends early. -/
inductive Exit
  | complete (reassembly : Reassembly)
  | single (data : List UInt8)
  | sendFailed
  | panicked (panic : Panic)
  deriving DecidableEq, Repr

inductive Failure
  | send
  | panic (panic : Panic)
  deriving DecidableEq, Repr

/-- `value as u16`, little endian. -/
def leU16 (value : Nat) : List UInt8 :=
  [UInt8.ofNat (value % u16Size % 256), UInt8.ofNat (value % u16Size / 256)]

/-- ACK a received chunk: unknown, command, options, received, padding, remaining. -/
def sendChunkAck (recvSeq recvCmd : UInt8) (received total : Nat) : List UInt8 :=
  let remaining := total - received
  let payload := [0x00, recvCmd, optsInternal] ++ leU16 received ++ [0x00, 0x00] ++ leU16 remaining
  buildPacket Cmd.acknowledge optsInternal recvSeq payload

namespace Reassembly

def start : Reassembly := { buf := List.replicate 512 0, recvd := 0, chunks := [], acks := [] }

/-- Make room up to `stop`, and some more. -/
def grow (buf : List UInt8) (stop : Nat) : List UInt8 :=
  if buf.length < stop then buf ++ List.replicate (stop + 64 - buf.length) 0 else buf

/-- Store a chunk. -/
def accept (reassembly : Reassembly) (pkt : Packet) (data : List UInt8) : Reassembly :=
  let stop := pkt.chunkOffset + data.length
  { buf := overlay (grow reassembly.buf stop) pkt.chunkOffset data
    recvd := max reassembly.recvd (pkt.chunkOffset + pkt.pktLen)
    chunks := reassembly.chunks ++ [⟨pkt.chunkOffset, pkt.pktLen, data⟩]
    acks := reassembly.acks }

/-- Acknowledge the chunk just stored; the total stays unknown. -/
def acknowledge (reassembly : Reassembly) (seq : UInt8) : Reassembly :=
  let packet := sendChunkAck seq Cmd.identify reassembly.recvd 0
  { reassembly with acks := reassembly.acks ++ [⟨packet, reassembly.chunks⟩] }

end Reassembly

/-- One iteration of the loop. -/
def receive (profile : Profile) (reassembly : Reassembly) (tick : IdentifyTick) :
    Except Exit Reassembly :=
  match tick.read with
  | .data raw =>
    match decode profile raw with
    | .error panic => .error (.panicked panic)
    | .ok none => .ok reassembly
    | .ok (some pkt) =>
      if pkt.cmd ≠ Cmd.identify then .ok reassembly
      else
        let data := (raw.take (min (pkt.hdrLen + pkt.pktLen) raw.length)).drop pkt.hdrLen
        if pkt.isChunked = false then .error (.single data)
        else if pkt.pktLen = 0 then .error (.complete reassembly)   -- transfer complete
        else
          let reassembly := reassembly.accept pkt data
          if pkt.wantsAck = true then
            if tick.sendOk = true then .ok (reassembly.acknowledge pkt.seq) else .error .sendFailed
          else .ok reassembly
  | _ =>
    -- got data: a timeout means the transfer is done
    if 0 < reassembly.recvd then .error (.complete reassembly) else .ok reassembly

/-- The loop; it also ends at the deadline. -/
def receiveIdentify (profile : Profile) (ticks : List IdentifyTick) : Exit :=
  match Machine.run (receive profile) Reassembly.start ticks with
  | .ok reassembly => .complete reassembly
  | .error exit => exit

/-- What the function returns. -/
def Exit.response : Exit → Except Failure (Option (List UInt8))
  | .complete reassembly =>
    .ok (if 0 < reassembly.recvd then
      some (reassembly.buf.take (min reassembly.recvd reassembly.buf.length)) else none)
  | .single data => .ok (some data)
  | .sendFailed => .error .send
  | .panicked panic => .error (.panic panic)

/-- `receive_identify_response`. -/
def receiveIdentifyResponse (profile : Profile) (ticks : List IdentifyTick) :
    Except Failure (Option (List UInt8)) := (receiveIdentify profile ticks).response

/-! ### What one read does -/

/-- The read is a frame of the IDENTIFY response that carries a chunk. -/
def IsChunk (profile : Profile) (tick : IdentifyTick) (pkt : Packet) : Prop :=
  ∃ raw, tick.read = .data raw ∧ decode profile raw = .ok (some pkt) ∧ pkt.cmd = Cmd.identify ∧
    pkt.isChunked = true ∧ pkt.pktLen ≠ 0

/-- The chunk of a frame, as it is stored. -/
def chunkOf (pkt : Packet) : Chunk := ⟨pkt.chunkOffset, pkt.pktLen, pkt.payload⟩

section Step

variable {profile : Profile} {reassembly next : Reassembly} {tick : IdentifyTick}

/-- A chunk frame is stored and, if it asks for it, acknowledged. -/
theorem receive_chunk {pkt : Packet} (chunk : IsChunk profile tick pkt) :
    receive profile reassembly tick =
      if pkt.wantsAck = true then
        if tick.sendOk = true then
          .ok ((reassembly.accept pkt pkt.payload).acknowledge pkt.seq)
        else .error .sendFailed
      else .ok (reassembly.accept pkt pkt.payload) := by
  obtain ⟨raw, read, decoded, identify, chunked, nonempty⟩ := chunk
  unfold receive
  rw [read]
  simp only
  rw [decoded]
  simp only
  rw [if_neg (not_not.mpr identify), if_neg (by rw [chunked]; decide), if_neg nonempty,
    ← (decode_fixed decoded).2.2.2]

/-- **What an iteration that goes on has done**: nothing, or stored a chunk. -/
theorem receive_ok (stepped : receive profile reassembly tick = .ok next) :
    next = reassembly ∨ ∃ pkt, IsChunk profile tick pkt ∧
      (next = reassembly.accept pkt pkt.payload ∨
        next = (reassembly.accept pkt pkt.payload).acknowledge pkt.seq) := by
  have whole := stepped
  unfold receive at stepped
  split at stepped
  · rename_i raw read
    split at stepped
    · cases stepped
    · cases stepped
      exact Or.inl rfl
    · rename_i pkt decoded
      split at stepped
      · cases stepped
        exact Or.inl rfl
      · rename_i identify
        simp only at stepped
        split at stepped
        · cases stepped
        · rename_i chunked
          split at stepped
          · cases stepped
          · rename_i nonempty
            have chunk : IsChunk profile tick pkt :=
              ⟨raw, read, decoded, not_not.mp identify, Bool.eq_true_of_not_eq_false chunked,
                nonempty⟩
            rw [receive_chunk chunk] at whole
            refine Or.inr ⟨pkt, chunk, ?_⟩
            split at whole
            · split at whole
              · cases whole
                exact Or.inr rfl
              · cases whole
            · cases whole
              exact Or.inl rfl
  · split at stepped
    · cases stepped
    · cases stepped
      exact Or.inl rfl

/-- An iteration that completes the transfer leaves the state as it was. -/
theorem receive_complete {last : Reassembly}
    (stepped : receive profile reassembly tick = .error (.complete last)) : last = reassembly := by
  unfold receive at stepped
  split at stepped
  · split at stepped
    · cases stepped
    · cases stepped
    · split at stepped
      · cases stepped
      · simp only at stepped
        split at stepped
        · cases stepped
        · split at stepped
          · cases stepped
            rfl
          · split at stepped
            · split at stepped <;> cases stepped
            · cases stepped
  · split at stepped
    · cases stepped
      rfl
    · cases stepped

end Step

end Wolverine.Usb
