/-
**Chunked transfers into `_recv_auth_pkt`.**

The receiver takes a transfer for complete when the end of its latest chunk reaches the total that
the first chunk announced. It does not look at what came before: a lost chunk leaves zeros, and a
chunk with other than its declared number of bytes, or beyond the total, changes the length of the
buffer.

* `recvAuthFrame_cases` — what one frame does.
* `Held` — while all chunks are whole and lie within the total, the buffer has the announced length
  and shows the chunks.
* `completed_transfer` — a transfer of such chunks that is taken for complete has the announced
  length, and holds only received bytes exactly when the chunks cover it.
-/

import Wolverine.Base.Overlay
import Wolverine.Python.Receive

namespace Wolverine.Python

open Wolverine.Machine Wolverine.Overlay

/-! ### The receiver over a list of reads -/

/-- A received chunk: where it goes, its declared length, and its bytes present in the frame. -/
structure AuthChunk where
  offset : Nat
  declared : Nat
  data : List UInt8
  deriving DecidableEq, Repr

/-- The chunk of a frame, if it carries one, and the total that a first chunk announces. -/
def chunkOfFrame (raw : List UInt8) : Option (Option Nat × AuthChunk) :=
  match decodeGipHeader raw with
  | none => none
  | some h =>
    if h.cmd ≠ gipCmdAuthenticate then none
    else
      let data := (raw.drop h.hdrLen).take h.pktLen
      if h.opts &&& gipOptChunkStart ≠ 0 then
        some (some h.chunkOffset, { offset := 0, declared := h.pktLen, data })
      else if h.opts &&& gipOptChunk ≠ 0 ∧ h.pktLen ≠ 0 then
        some (none, { offset := h.chunkOffset, declared := h.pktLen, data })
      else none

/-- The state of the receiver, and the chunks received since the last first one. -/
structure Transfer where
  state : ChunkState
  chunks : List AuthChunk
  deriving DecidableEq, Repr

def Transfer.start : Transfer := { state := ChunkState.initial, chunks := [] }

/-- How the loop ends before its deadline: the count reached the total; or an empty chunk or a
single packet came; or an exception. -/
inductive AuthExit
  | completed (transfer : Transfer) (payload : List UInt8) (seq : Nat)
  | ended (payload : List UInt8) (seq : Nat)
  | raised (error : PyError)
  deriving DecidableEq, Repr

/-- What a frame does to the transfer. -/
def onAuthFrame (transfer : Transfer) (raw : List UInt8) (reaction : Reaction) :
    Except AuthExit Transfer :=
  match chunkOfFrame raw, reaction.returned with
  | some (some _, chunk), _ => .ok { state := reaction.state, chunks := [chunk] }
  | some (none, chunk), none =>
    .ok { state := reaction.state, chunks := transfer.chunks ++ [chunk] }
  | some (none, chunk), some (payload, seq) =>
    .error
      (.completed { state := reaction.state, chunks := transfer.chunks ++ [chunk] } payload seq)
  | none, none => .ok { transfer with state := reaction.state }
  | none, some (payload, seq) => .error (.ended payload seq)

section Loop

variable [Memory]

/-- One iteration of the loop: errors of the device are skipped. -/
def receiveAuth (transfer : Transfer) (read : DevRead) : Except AuthExit Transfer :=
  match read with
  | .timeout => .ok transfer
  | .usbError => .ok transfer
  | .data raw =>
    match recvAuthFrame transfer.state raw with
    | .error error => .error (.raised error)
    | .ok reaction => onAuthFrame transfer raw reaction

/-- `_recv_auth_pkt`: the payload and its sequence number. A list of reads that ends is the
deadline. -/
def recvAuthPktFrom (reads : List DevRead) : Except PyError (Option (List UInt8 × Nat)) :=
  match run receiveAuth Transfer.start reads with
  | .ok _ => .ok none
  | .error (.completed _ payload seq) => .ok (some (payload, seq))
  | .error (.ended payload seq) => .ok (some (payload, seq))
  | .error (.raised error) => .error error

end Loop

/-! ### One frame -/

/-- The writes that the chunks make. -/
def writesOf (chunks : List AuthChunk) : List (Nat × List UInt8) :=
  chunks.map fun chunk => (chunk.offset, chunk.data)

/-- The frame carries all the bytes that it declares, and they lie within the total. -/
structure AuthChunk.Fits (chunk : AuthChunk) (total : Nat) : Prop where
  whole : chunk.data.length = chunk.declared
  within : chunk.offset + chunk.declared ≤ total

/-- A slice assignment of as many bytes as it replaces. -/
theorem sliceAssign_eq_overlay (buf : List UInt8) {chunk : AuthChunk}
    (whole : chunk.data.length = chunk.declared) :
    sliceAssign buf chunk.offset (chunk.offset + chunk.declared) chunk.data =
      overlay buf chunk.offset chunk.data := by
  rw [overlay, whole]
  rfl

section Frame

variable [Memory]

/-- A chunk that is not empty is stored where there is a buffer; what is returned is the buffer. -/
theorem onChunk_stored {state : ChunkState} {h : Header} {data : List UInt8} {reaction : Reaction}
    (positive : h.pktLen ≠ 0) (reacted : onChunk state h data = .ok reaction) :
    reaction.state.chunkTotal = state.chunkTotal ∧
    reaction.state.chunkBuf = (state.chunkBuf.map fun buf =>
      sliceAssign buf h.chunkOffset (h.chunkOffset + h.pktLen) data) ∧
    ∀ payload seq, reaction.returned = some (payload, seq) →
      reaction.state.chunkBuf = some payload := by
  unfold onChunk at reacted
  cases held : state.chunkBuf with
  | none =>
    rw [held] at reacted
    cases reacted
    exact ⟨rfl, held, fun _ _ absent => by cases absent⟩
  | some buf =>
    rw [held] at reacted
    simp only [if_neg positive] at reacted
    obtain ⟨after, assigned, reacted⟩ := ok_of_bind reacted
    obtain ⟨ack, -, reacted⟩ := ok_of_bind reacted
    cases reacted
    obtain ⟨-, rfl⟩ := pyResize_ok_iff.mp assigned
    refine ⟨rfl, rfl, fun payload seq returned => ?_⟩
    simp only at returned
    split at returned
    · cases returned
      rfl
    · cases returned

/-- An empty chunk leaves the state as it is. -/
theorem onChunk_empty {state : ChunkState} {h : Header} {data : List UInt8} {reaction : Reaction}
    (empty : h.pktLen = 0) (reacted : onChunk state h data = .ok reaction) :
    reaction.state = state := by
  unfold onChunk at reacted
  cases held : state.chunkBuf with
  | none =>
    rw [held] at reacted
    cases reacted
    rfl
  | some buf =>
    rw [held] at reacted
    simp only [if_pos empty] at reacted
    cases reacted
    rfl

/-- **What one frame does**: it starts a transfer, it adds a chunk to one, or it is no chunk. -/
theorem recvAuthFrame_cases {state : ChunkState} {raw : List UInt8} {reaction : Reaction}
    (reacted : recvAuthFrame state raw = .ok reaction) :
    (∃ total chunk, chunkOfFrame raw = some (some total, chunk) ∧ chunk.offset = 0 ∧
      reaction.state.chunkTotal = total ∧ reaction.state.chunkBuf =
        some (sliceAssign (List.replicate total 0) 0 chunk.declared chunk.data)) ∨
    (∃ chunk, chunkOfFrame raw = some (none, chunk) ∧
      reaction.state.chunkTotal = state.chunkTotal ∧
      reaction.state.chunkBuf = (state.chunkBuf.map fun buf =>
        sliceAssign buf chunk.offset (chunk.offset + chunk.declared) chunk.data) ∧
      ∀ payload seq, reaction.returned = some (payload, seq) →
        reaction.state.chunkBuf = some payload) ∨
    chunkOfFrame raw = none ∧ reaction.state = state := by
  unfold recvAuthFrame at reacted
  unfold chunkOfFrame
  generalize decodeGipHeader raw = header at reacted ⊢
  rcases header with _ | h
  · cases reacted
    exact .inr (.inr ⟨rfl, rfl⟩)
  simp only at reacted ⊢
  by_cases foreign : h.cmd ≠ gipCmdAuthenticate
  · rw [if_pos foreign] at reacted ⊢
    cases reacted
    exact .inr (.inr ⟨rfl, rfl⟩)
  rw [if_neg foreign] at reacted ⊢
  by_cases start : h.opts &&& gipOptChunkStart ≠ 0
  · rw [if_pos start] at reacted ⊢
    obtain ⟨buf, zeros, reacted⟩ := ok_of_bind reacted
    obtain ⟨after, assigned, reacted⟩ := ok_of_bind reacted
    obtain ⟨ack, -, reacted⟩ := ok_of_bind reacted
    cases reacted
    obtain ⟨-, rfl⟩ := pyBytearray_ok_iff.mp zeros
    obtain ⟨-, rfl⟩ := pyResize_ok_iff.mp assigned
    exact .inl ⟨h.chunkOffset, _, rfl, rfl, rfl, rfl⟩
  rw [if_neg start] at reacted ⊢
  by_cases chunk : h.opts &&& gipOptChunk ≠ 0
  · rw [if_pos chunk] at reacted
    by_cases empty : h.pktLen = 0
    · rw [if_neg fun both => both.2 empty]
      exact .inr (.inr ⟨rfl, onChunk_empty empty reacted⟩)
    · rw [if_pos ⟨chunk, empty⟩]
      exact .inr (.inl ⟨_, rfl, onChunk_stored empty reacted⟩)
  · rw [if_neg chunk] at reacted
    rw [if_neg fun both => chunk both.1]
    cases reacted
    exact .inr (.inr ⟨rfl, rfl⟩)

end Frame

/-! ### Whole transfers -/

/-- All chunks of the transfer are whole and lie within the total. -/
def Transfer.Fits (transfer : Transfer) : Prop :=
  ∀ chunk ∈ transfer.chunks, chunk.Fits transfer.state.chunkTotal

/-- **The invariant**: while its chunks fit, the buffer has the announced length and shows them. -/
def Held (transfer : Transfer) : Prop :=
  transfer.Fits → ∀ buf, transfer.state.chunkBuf = some buf →
    buf.length = transfer.state.chunkTotal ∧ Shows 0 buf (writesOf transfer.chunks)

theorem writesOf_concat (chunks : List AuthChunk) (chunk : AuthChunk) :
    writesOf (chunks ++ [chunk]) = writesOf chunks ++ [(chunk.offset, chunk.data)] :=
  List.map_append

/-- Storing a chunk that fits. -/
theorem held_store {buf : List UInt8} {total : Nat} {chunks : List AuthChunk} {chunk : AuthChunk}
    (length : buf.length = total) (shows_ : Shows 0 buf (writesOf chunks))
    (fits : chunk.Fits total) :
    (sliceAssign buf chunk.offset (chunk.offset + chunk.declared) chunk.data).length = total ∧
      Shows 0 (sliceAssign buf chunk.offset (chunk.offset + chunk.declared) chunk.data)
        (writesOf (chunks ++ [chunk])) := by
  have room : chunk.offset + chunk.data.length ≤ buf.length := by
    rw [length, fits.whole]
    exact fits.within
  rw [sliceAssign_eq_overlay buf fits.whole, length_overlay room, writesOf_concat]
  exact ⟨length, shows_.write chunk.offset chunk.data room⟩

/-- The first chunk, into as many zeros as it announces. -/
theorem held_first {state : ChunkState} {chunk : AuthChunk} (front : chunk.offset = 0)
    (filled : state.chunkBuf =
      some (sliceAssign (List.replicate state.chunkTotal 0) 0 chunk.declared chunk.data)) :
    Held { state, chunks := [chunk] } := by
  intro fits buf held
  have zeros : Shows 0 (List.replicate state.chunkTotal 0) (writesOf []) := Shows.initial 0 _
  have first := held_store List.length_replicate zeros (fits chunk List.mem_cons_self)
  rw [front, Nat.zero_add] at first
  cases filled.symm.trans held
  exact first

/-- One more chunk. -/
theorem held_next {transfer : Transfer} {state : ChunkState} {chunk : AuthChunk}
    (held : Held transfer) (total : state.chunkTotal = transfer.state.chunkTotal)
    (stored : state.chunkBuf = transfer.state.chunkBuf.map fun buf =>
      sliceAssign buf chunk.offset (chunk.offset + chunk.declared) chunk.data) :
    Held { state, chunks := transfer.chunks ++ [chunk] } := by
  intro fits after filled
  rw [stored] at filled
  obtain ⟨buf, before, rfl⟩ := Option.map_eq_some_iff.mp filled
  have all : ∀ other ∈ transfer.chunks ++ [chunk], other.Fits transfer.state.chunkTotal :=
    fun other member => total ▸ fits other member
  obtain ⟨length, shows_⟩ := held (fun other member => all other (List.mem_append_left _ member))
    buf before
  show _ = state.chunkTotal ∧ _
  rw [total]
  exact held_store length shows_ (all chunk (List.mem_append_right _ List.mem_cons_self))

/-- The invariant is kept, also by the iteration that completes the transfer; what that one returns
is the buffer. -/
def Kept : Except AuthExit Transfer → Prop
  | .ok next => Held next
  | .error (.completed after payload _) => Held after ∧ after.state.chunkBuf = some payload
  | .error (.ended _ _) => True
  | .error (.raised _) => True

section Run

variable [Memory]

/-- **The step lemma**, for a frame. -/
theorem held_frame {transfer : Transfer} {raw : List UInt8} {reaction : Reaction}
    (held : Held transfer) (reacted : recvAuthFrame transfer.state raw = .ok reaction) :
    Kept (onAuthFrame transfer raw reaction) := by
  unfold onAuthFrame
  rcases recvAuthFrame_cases reacted with ⟨total, chunk, frame, front, total_, filled⟩ |
    ⟨chunk, frame, total, stored, whole⟩ | ⟨frame, same⟩
  · rw [frame]
    rw [← total_] at filled
    exact held_first front filled
  · rw [frame]
    have kept := held_next held total stored
    cases returned : reaction.returned with
    | none => exact kept
    | some result => exact ⟨kept, whole _ _ returned⟩
  · rw [frame]
    cases reaction.returned with
    | none =>
      show Held { transfer with state := reaction.state }
      rw [same]
      exact held
    | some result => trivial

/-- The same for a read: errors of the device change nothing. -/
theorem held_read {transfer : Transfer} (held : Held transfer) (read : DevRead) :
    Kept (receiveAuth transfer read) := by
  rcases read with _ | _ | raw
  · exact held
  · exact held
  · rw [receiveAuth]
    cases reacted : recvAuthFrame transfer.state raw with
    | error error => trivial
    | ok reaction => exact held_frame held reacted

/-- Each position of the payload holds a byte that a chunk brought to it. -/
def Received (payload : List UInt8) (chunks : List AuthChunk) : Prop :=
  ∀ i < payload.length, ∃ chunk ∈ chunks, ∃ byte, payload[i]? = some byte ∧
    chunk.offset ≤ i ∧ chunk.data[i - chunk.offset]? = some byte

/-- The chunks leave out no position below the total. -/
def Covered (chunks : List AuthChunk) (total : Nat) : Prop :=
  ∀ i < total, ∃ chunk ∈ chunks, chunk.offset ≤ i ∧ i < chunk.offset + chunk.declared

omit [Memory] in
theorem received_iff_covered {payload : List UInt8} {transfer : Transfer}
    (fits : transfer.Fits) (length : payload.length = transfer.state.chunkTotal)
    (shows_ : Shows 0 payload (writesOf transfer.chunks)) :
    Received payload transfer.chunks ↔ Covered transfer.chunks transfer.state.chunkTotal := by
  have drawn := shows_.drawn_iff
  simp only [writesOf, List.mem_map, exists_exists_and_eq_and, covered_eq_some_iff] at drawn
  unfold Received Covered
  rw [drawn, length]
  refine forall₂_congr fun i _ => exists_congr fun chunk => and_congr_right fun member => ?_
  rw [(fits chunk member).whole]

/-- **Transfers that are taken for complete.** In every run of reads in which the receiver returns
as the count reached the total, and all chunks of the transfer carried their declared bytes and lay
within the announced total: the payload has the announced length, and each position of it holds a
byte of a received chunk at the offset of the chunk exactly when the chunks left out no position. -/
theorem completed_transfer (reads : List DevRead) (transfer : Transfer) (payload : List UInt8)
    (seq : Nat)
    (completed : run receiveAuth Transfer.start reads = .error (.completed transfer payload seq))
    (fits : transfer.Fits) :
    recvAuthPktFrom reads = .ok (some (payload, seq)) ∧
    payload.length = transfer.state.chunkTotal ∧
    (Received payload transfer.chunks ↔ Covered transfer.chunks transfer.state.chunkTotal) := by
  have kept : ∀ before read next, Held before → True →
      receiveAuth before read = .ok next → Held next := by
    intro before read next held _ stepped
    have after := held_read held read
    rw [stepped] at after
    exact after
  have initial : Held Transfer.start := fun _ buf absent => by cases absent
  have meets : Meets (fun _ _ => True) receiveAuth Transfer.start reads :=
    meets_of_forall (fun _ _ => trivial) Transfer.start
  obtain ⟨before, read, held, -, ended⟩ := run_fault kept reads Transfer.start _ initial meets
    completed
  have last := held_read held read
  rw [ended] at last
  obtain ⟨length, shows_⟩ := last.1 fits payload last.2
  refine ⟨?_, length, ?_⟩
  · rw [recvAuthPktFrom, completed]
  · exact received_iff_covered fits length shows_

end Run

/-- A transfer of four bytes in two chunks. -/
def twoChunks : List DevRead :=
  [.data [0x06, 0xf0, 0x01, 0x82, 0x00, 0x04, 0xaa, 0xbb], .timeout,
    .data [0x06, 0xa0, 0x02, 0x82, 0x00, 0x02, 0xcc, 0xdd]]

theorem completed_transfer_twoChunks : ∃ transfer,
    run (@receiveAuth Memory.gibibyte) Transfer.start twoChunks =
      .error (.completed transfer [0xaa, 0xbb, 0xcc, 0xdd] 1) ∧ transfer.Fits ∧
    @recvAuthPktFrom Memory.gibibyte twoChunks = .ok (some ([0xaa, 0xbb, 0xcc, 0xdd], 1)) ∧
    [0xaa, 0xbb, 0xcc, 0xdd].length = transfer.state.chunkTotal ∧
    (Received [0xaa, 0xbb, 0xcc, 0xdd] transfer.chunks ↔
      Covered transfer.chunks transfer.state.chunkTotal) := by
  have ran : run (@receiveAuth Memory.gibibyte) Transfer.start twoChunks = .error (.completed
      { state :=
          { chunkBuf := some [0xaa, 0xbb, 0xcc, 0xdd], chunkTotal := 4, chunkRecvd := 4
            chunkSeq := 1 }
        chunks := [⟨0, 2, [0xaa, 0xbb]⟩, ⟨2, 2, [0xcc, 0xdd]⟩] }
      [0xaa, 0xbb, 0xcc, 0xdd] 1) := by decide +kernel
  refine ⟨_, ran, ?_, @completed_transfer Memory.gibibyte twoChunks _ _ _ ran ?_⟩ <;>
  · intro chunk member
    fin_cases member <;> exact ⟨rfl, by decide⟩

/-- A transfer of four bytes of which the middle was lost to an error. -/
def lostChunk : List DevRead :=
  [.data [0x06, 0xf0, 0x01, 0x82, 0x00, 0x04, 0xaa, 0xbb], .usbError,
    .data [0x06, 0xa0, 0x03, 0x81, 0x00, 0x03, 0xdd]]

/-- The lost byte is returned as a zero. -/
theorem not_completed_transfer : ¬ ∀ (reads : List DevRead) (transfer : Transfer)
    (payload : List UInt8) (seq : Nat),
    run (@receiveAuth Memory.gibibyte) Transfer.start reads =
        .error (.completed transfer payload seq) →
      payload.length = transfer.state.chunkTotal ∧ Received payload transfer.chunks := by
  intro all
  have ran : run (@receiveAuth Memory.gibibyte) Transfer.start lostChunk = .error (.completed
      { state :=
          { chunkBuf := some [0xaa, 0xbb, 0x00, 0xdd], chunkTotal := 4, chunkRecvd := 4
            chunkSeq := 1 }
        chunks := [⟨0, 2, [0xaa, 0xbb]⟩, ⟨3, 1, [0xdd]⟩] }
      [0xaa, 0xbb, 0x00, 0xdd] 1) := by decide +kernel
  obtain ⟨chunk, member, byte, -, after, here⟩ := (all lostChunk _ _ _ ran).2 2 (by decide)
  rcases List.mem_cons.mp member with rfl | member
  · cases here
  · rw [List.mem_singleton.mp member] at after
    exact absurd after (by decide)

end Wolverine.Python
