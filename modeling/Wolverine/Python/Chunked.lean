/-
**The chunked sender and the chunk receiver of `gip_init.py`, one against the other.**

`_gip_auth_send_chunked` waits for an ACK before each chunk after the first, but sets the ACK bit on
the first and on the last chunk only. The peer executes `_recv_auth_pkt` at the other end of two
lossless channels in order; a schedule says how many frames it reads while the sender goes on. A
wait of the sender ends without an ACK only where none will come (`waitForGipAck_timeout`).

* `gipAuthSendChunked_mirrors` — the schedule does not matter: the sender runs as against a peer
  that is never behind.
* `received_eq` — the peer receives the first two chunks of every payload, and no more.
* `received_iff` — so it receives the payload exactly where two chunks hold it.
-/

import Wolverine.Base.Channel
import Wolverine.Base.Machine
import Wolverine.Python.Receive

namespace Wolverine.Python

open Wolverine.Fifo (Channel digest seek)
open Wolverine.Machine

/-! ### The two parties -/

/-- The party that executes `_recv_auth_pkt`: in its loop, or past it. -/
inductive Peer
  | receiving (state : ChunkState)
  | returned (authPayload : List UInt8) (seq : Nat)
  | raised (error : PyError)

section Parties

variable [Memory]

/-- One iteration of the loop: the peer after it, and the ACK that it wrote. -/
def Peer.onFrame (state : ChunkState) (raw : List UInt8) : Peer × List (List UInt8) :=
  match recvAuthFrame state raw with
  | .error error => (.raised error, [])
  | .ok { state, ack, returned := none } => (.receiving state, ack.toList)
  | .ok { ack, returned := some (authPayload, seq), .. } => (.returned authPayload seq, ack.toList)

/-- A peer that is past the loop reads no frame. -/
def Peer.react : Fifo.React Peer (List UInt8) (List UInt8)
  | .receiving state => some (Peer.onFrame state)
  | .returned _ _ => none
  | .raised _ => none

/-- The payload that `_recv_auth_pkt` returned. -/
def Peer.payload : Peer → Option (List UInt8)
  | .returned authPayload _ => some authPayload
  | .receiving _ => none
  | .raised _ => none

/-- A write reaches the endpoint in packets of 64 bytes, and `dev.read(.., 64)` returns one. -/
def usbPackets (raw : List UInt8) : List (List UInt8) :=
  if raw.length ≤ 64 then [raw] else raw.take 64 :: usbPackets (raw.drop 64)
termination_by raw.length
decreasing_by
  rw [List.length_drop]
  omega

/-- The two channels with the peer, and the steps that the peer takes at each call of the sender. -/
structure Wire where
  channel : Channel Peer (List UInt8) (List UInt8)
  schedule : List Nat

/-- The peer takes the steps that the schedule gives it. -/
def Wire.turn (wire : Wire) : Wire where
  channel := (Channel.step Peer.react)^[wire.schedule.headD 0] wire.channel
  schedule := wire.schedule.tail

/-- No frame is in flight, and the peer waits for its first one. -/
def Wire.start (schedule : List Nat) : Wire where
  channel := { inbox := [], outbox := [], party := .receiving ChunkState.initial }
  schedule

/-- The sender's end. The chunked sender calls `write` and `waitForGipAck` alone. -/
def wireLink : Link Wire where
  write raw wire :=
    (true, Wire.turn { wire with channel := wire.channel.send (usbPackets raw) })
  gipRecv wire := (none, wire)
  drainBuffer _ wire := wire
  waitForGipAck cmd wire :=
    let (acked, channel) :=
      wire.channel.await Peer.react (isGipAck cmd) wire.channel.inbox.length
    (acked, Wire.turn { wire with channel })
  recvAuthPkt _ wire := .ok (none, wire)
  receiveIdentifyResponse _ wire := .ok (none, wire)

/-- What the peer's `_recv_auth_pkt` returns when `_gip_auth_send_chunked` has sent a payload and
every frame has been read. -/
def received (authPayload : List UInt8) (seq : Nat) (schedule : List Nat) :
    Except PyError (Option (List UInt8)) :=
  (gipAuthSendChunked wireLink authPayload seq ⟨Wire.start schedule, seq⟩).map
    fun (_, session) =>
      let channel := session.dev.channel
      ((Channel.step Peer.react)^[channel.inbox.length] channel).party.payload

/-! ### A peer that is never behind -/

/-- The peer, and the ACKs that the sender has not read. -/
abbrev Settled : Type := Peer × List (List UInt8)

/-- The peer reads each frame as it is written. -/
def settledLink : Link Settled where
  write raw settled :=
    let (peer, acks) := digest Peer.react settled.1 (usbPackets raw)
    (true, (peer, settled.2 ++ acks))
  gipRecv settled := (none, settled)
  drainBuffer _ settled := settled
  waitForGipAck cmd settled :=
    let (acked, acks) := seek (isGipAck cmd) settled.2
    (acked, (settled.1, acks))
  recvAuthPkt _ settled := .ok (none, settled)
  receiveIdentifyResponse _ settled := .ok (none, settled)

/-- What the session comes to once the peer has read every frame. -/
def settledSession (session : Session Wire) : Session Settled where
  dev := session.dev.channel.settled Peer.react
  seqRef := session.seqRef

theorem settled_turn (wire : Wire) :
    wire.turn.channel.settled Peer.react = wire.channel.settled Peer.react :=
  Channel.settled_iterate _

/-- **The sender times out only where no ACK will come**, however long the peer goes on. -/
theorem waitForGipAck_timeout {cmd : Nat} {wire : Wire}
    (timedOut : (wireLink.waitForGipAck cmd wire).1 = false) (more : Nat) :
    ((Channel.step Peer.react)^[more] (wireLink.waitForGipAck cmd wire).2.channel).outbox = [] := by
  have none := Channel.await_false (Or.inl le_rfl) timedOut (more + wire.schedule.headD 0)
  rw [Function.iterate_add_apply] at none
  exact none

theorem devWrite_mirrors (packet : List UInt8) :
    Mirrors settledSession (devWrite wireLink packet) (devWrite settledLink packet) := by
  intro session
  have settles := (settled_turn { session.dev with
    channel := session.dev.channel.send (usbPackets packet) }).trans
      (Channel.settled_send (usbPackets packet))
  exact congrArg (fun dev => Except.ok ((), (⟨dev, session.seqRef⟩ : Session Settled))) settles

theorem waitForGipAck_mirrors (cmd : Nat) :
    Mirrors settledSession (waitForGipAck wireLink cmd) (waitForGipAck settledLink cmd) := by
  intro session
  obtain ⟨found, settles⟩ := @Channel.settled_await _ _ _ Peer.react (isGipAck cmd)
    session.dev.channel.inbox.length session.dev.channel (Or.inl le_rfl)
  have turned := (settled_turn { session.dev with
    channel := (session.dev.channel.await Peer.react (isGipAck cmd)
      session.dev.channel.inbox.length).2 }).trans settles
  exact congrArg₂ (fun acked dev => Except.ok (acked, (⟨dev, session.seqRef⟩ : Session Settled)))
    found turned

theorem gipAuthSendChunks_mirrors (authPayload : List UInt8) (seq offset remaining : Nat) :
    Mirrors settledSession (gipAuthSendChunks wireLink authPayload seq offset remaining)
      (gipAuthSendChunks settledLink authPayload seq offset remaining) := by
  induction offset, remaining using gipAuthSendChunks.induct with
  | case1 offset =>
    rw [gipAuthSendChunks, gipAuthSendChunks, if_pos rfl, if_pos rfl]
    exact mirrors_pure ()
  | case2 offset remaining more ih =>
    rw [gipAuthSendChunks, gipAuthSendChunks, if_neg more, if_neg more]
    refine (waitForGipAck_mirrors _).bind fun acked => ?_
    refine mirrors_ite ?_ (mirrors_pure ())
    refine (mirrors_lift _).bind fun hdr => ?_
    exact (devWrite_mirrors _).bind fun _ => ih

/-- **The schedule does not matter.** -/
theorem gipAuthSendChunked_mirrors (authPayload : List UInt8) (seq : Nat) :
    Mirrors settledSession (gipAuthSendChunked wireLink authPayload seq)
      (gipAuthSendChunked settledLink authPayload seq) := by
  refine (mirrors_lift _).bind fun firstHdr => ?_
  refine (devWrite_mirrors _).bind fun _ => ?_
  refine (gipAuthSendChunks_mirrors _ _ _ _).bind fun _ => ?_
  refine (waitForGipAck_mirrors _).bind fun _ => ?_
  refine (mirrors_lift _).bind fun emptyHdr => ?_
  exact devWrite_mirrors _

/-! ### One step of the sender -/

omit [Memory] in
/-- The header of a chunk has at most six bytes. -/
theorem length_headerOf_le {size offset : Nat} (chunkSize : size ≤ gipPktMaxLen)
    (within : offset < 16384) (cmd opts seq : Nat) :
    (headerOf cmd opts seq size (some offset)).length ≤ 6 := by
  have one : (Leb128.encode size).length = 1 := by
    rw [Leb128.encode_small (show size < 128 by unfold gipPktMaxLen at chunkSize; omega)]
    rfl
  have two : (Leb128.encode offset).length ≤ 2 :=
    Leb128.encode_length_le (by decide) (show offset < 128 ^ 2 from within)
  have stretched := Leb128.length_stretch (Leb128.isVarint_encode size).ne_nil
  rw [length_headerOf, chunkField, lengthField, chunkField]
  split
  · rw [stretched]
    omega
  · omega

omit [Memory] in
/-- A chunk is one USB packet. -/
theorem usbPackets_chunk {size offset : Nat} (chunkSize : size ≤ gipPktMaxLen)
    (within : offset < 16384) (cmd opts seq : Nat) {data : List UInt8}
    (length : data.length ≤ size) :
    usbPackets (headerOf cmd opts seq size (some offset) ++ data) =
      [headerOf cmd opts seq size (some offset) ++ data] := by
  have header := length_headerOf_le chunkSize within cmd opts seq
  rw [usbPackets, if_pos]
  rw [List.length_append]
  unfold gipPktMaxLen at chunkSize
  omega

section Sender

variable {acks : List (List UInt8)} {seqRef : Nat}

/-- A frame of one USB packet, written to a peer that is in its loop. -/
theorem devWrite_receiving {raw : List UInt8} (one : usbPackets raw = [raw]) (state : ChunkState) :
    devWrite settledLink raw ⟨(.receiving state, acks), seqRef⟩ =
      .ok ((), ⟨((Peer.onFrame state raw).1, acks ++ (Peer.onFrame state raw).2), seqRef⟩) := by
  have read : digest Peer.react (.receiving state) [raw] = Peer.onFrame state raw := by
    rw [Fifo.digest_cons (show Peer.react (.receiving state) = some (Peer.onFrame state) from rfl),
      digest, List.append_nil]
  refine devWrite_ok settledLink ?_
  show (true, ((digest _ _ (usbPackets raw)).1, acks ++ (digest _ _ (usbPackets raw)).2)) = _
  rw [one, read]

/-- A frame written to a peer that has returned stays unread. -/
theorem devWrite_returned (raw authPayload : List UInt8) (seq : Nat) :
    devWrite settledLink raw ⟨(.returned authPayload seq, acks), seqRef⟩ =
      .ok ((), ⟨(.returned authPayload seq, acks), seqRef⟩) := by
  refine devWrite_ok settledLink ?_
  show (true, ((digest _ _ (usbPackets raw)).1, acks ++ (digest _ _ (usbPackets raw)).2)) = _
  rw [Fifo.digest_stopped rfl, List.append_nil]

/-- A wait takes the ACK that is there. -/
theorem waitForGipAck_acked {authPayload : List UInt8} {seq : Nat} (seqByte : seq ≤ 255)
    (count : Nat) (peer : Peer) :
    waitForGipAck settledLink gipCmdAuthenticate
        ⟨(peer, ackOf authPayload count seq :: acks), seqRef⟩ =
      .ok (true, ⟨(peer, acks), seqRef⟩) := by
  have taken : seek (isGipAck gipCmdAuthenticate) (ackOf authPayload count seq :: acks) =
      (true, acks) := if_pos (isGipAck_ack seqByte (by decide) _ _)
  refine waitForGipAck_ok settledLink ?_
  simp only [settledLink, taken]

/-- With no ACK in flight the wait times out. -/
theorem waitForGipAck_none (peer : Peer) :
    waitForGipAck settledLink gipCmdAuthenticate ⟨(peer, []), seqRef⟩ =
      .ok (false, ⟨(peer, []), seqRef⟩) := rfl

variable {authPayload : List UInt8} {seq : Nat} (seqByte : seq ≤ 255)
  (long : gipPktMaxLen ≤ authPayload.length) (short : authPayload.length < 16384)

include seqByte long short

/-- **The first chunk** asks for an ACK, and the peer has it in flight. -/
theorem write_start :
    devWrite settledLink
        (headerOf gipCmdAuthenticate
          (gipClientId ||| gipOptInternal ||| gipOptAck ||| gipOptChunkStart ||| gipOptChunk) seq
          gipPktMaxLen (some authPayload.length) ++ authPayload.take gipPktMaxLen)
        ⟨(.receiving ChunkState.initial, acks), seqRef⟩ =
      .ok ((), ⟨(.receiving (holding authPayload gipPktMaxLen seq),
        acks ++ [ackOf authPayload gipPktMaxLen seq]), seqRef⟩) := by
  have frame := recvAuthFrame_start
    (show gipClientId ||| gipOptInternal ||| gipOptAck ||| gipOptChunkStart ||| gipOptChunk ≤ 255
      by decide) seqByte (by decide) (by decide) long (by omega) ChunkState.initial
  rw [devWrite_receiving (usbPackets_chunk le_rfl short _ _ _ (List.length_take_le _ _)),
    Peer.onFrame, frame]
  rfl

omit long

/-- **A chunk in the middle** asks for no ACK, and the peer sends none. -/
theorem write_middle {offset : Nat} (more : offset + gipPktMaxLen < authPayload.length) :
    devWrite settledLink
        (headerOf gipCmdAuthenticate (gipClientId ||| gipOptInternal ||| gipOptChunk ||| 0) seq
          gipPktMaxLen (some offset) ++ (authPayload.drop offset).take gipPktMaxLen)
        ⟨(.receiving (holding authPayload offset seq), acks), seqRef⟩ =
      .ok ((), ⟨(.receiving (holding authPayload (offset + gipPktMaxLen) seq), acks), seqRef⟩) := by
  have frame := recvAuthFrame_chunk
    (show gipClientId ||| gipOptInternal ||| gipOptChunk ||| 0 ≤ 255 by decide) seqByte
    (by decide) (by decide) (show 0 < gipPktMaxLen by decide) more.le (by omega) seq
  rw [devWrite_receiving (usbPackets_chunk le_rfl (by omega) _ _ _ (List.length_take_le _ _)),
    Peer.onFrame, frame, if_neg (not_le.mpr more)]
  simp only [show ¬ (gipClientId ||| gipOptInternal ||| gipOptChunk ||| 0) &&& gipOptAck ≠ 0 by
    decide, if_false, Option.toList_none, List.append_nil]

/-- **The last chunk** completes the payload: the peer acknowledges it and returns. -/
theorem write_last {offset size : Nat} (positive : 0 < size) (chunkSize : size ≤ gipPktMaxLen)
    (last : offset + size = authPayload.length) :
    devWrite settledLink
        (headerOf gipCmdAuthenticate (gipClientId ||| gipOptInternal ||| gipOptChunk ||| gipOptAck)
          seq size (some offset) ++ (authPayload.drop offset).take size)
        ⟨(.receiving (holding authPayload offset seq), acks), seqRef⟩ =
      .ok ((), ⟨(.returned authPayload seq, acks ++ [ackOf authPayload (offset + size) seq]),
        seqRef⟩) := by
  have frame := recvAuthFrame_chunk
    (show gipClientId ||| gipOptInternal ||| gipOptChunk ||| gipOptAck ≤ 255 by decide) seqByte
    (by decide) (by decide) positive last.le (by omega) seq
  rw [devWrite_receiving (usbPackets_chunk chunkSize (by omega) _ _ _ (List.length_take_le _ _)),
    Peer.onFrame, frame, if_pos last.ge]
  rfl

/-- **The empty chunk** makes the peer return what it holds. -/
theorem write_empty {count : Nat} (inside : count ≤ authPayload.length) :
    devWrite settledLink
        (headerOf gipCmdAuthenticate (gipClientId ||| gipOptInternal ||| gipOptChunk) seq 0
          (some authPayload.length))
        ⟨(.receiving (holding authPayload count seq), acks), seqRef⟩ =
      .ok ((), ⟨(.returned (authPayload.take count) seq, acks), seqRef⟩) := by
  have one := usbPackets_chunk (Nat.zero_le _) short gipCmdAuthenticate
    (gipClientId ||| gipOptInternal ||| gipOptChunk) seq (show ([] : List UInt8).length ≤ 0 from
      le_rfl)
  have frame := recvAuthFrame_empty
    (show gipClientId ||| gipOptInternal ||| gipOptChunk ≤ 255 by decide) seqByte (by decide)
    (by decide) inside seq authPayload.length
  rw [List.append_nil] at one
  rw [devWrite_receiving one, Peer.onFrame, frame]
  simp only [Option.toList_none, List.append_nil]

end Sender

/-! ### A whole transfer -/

section Transfer

variable {acks : List (List UInt8)} {authPayload : List UInt8} {seq seqRef : Nat}
  (seqByte : seq ≤ 255)

include seqByte

omit seqByte in
/-- A payload of one chunk leaves nothing for the loop. -/
theorem gipAuthSendChunks_one (one : gipPktMaxLen = authPayload.length)
    (session : Session Settled) :
    gipAuthSendChunks settledLink authPayload seq gipPktMaxLen
        (authPayload.length - gipPktMaxLen) session = .ok ((), session) := by
  rw [← one, Nat.sub_self, gipAuthSendChunks, if_pos rfl]
  rfl

/-- The last wait takes the ACK that is left, if there is one. -/
theorem wait_rest (count seqRef : Nat) (left : acks = [] ∨ acks = [ackOf authPayload count seq])
    (peer : Peer) :
    ∃ acked, waitForGipAck settledLink gipCmdAuthenticate ⟨(peer, acks), seqRef⟩ =
      .ok (acked, ⟨(peer, []), seqRef⟩) := by
  rcases left with rfl | rfl
  · exact ⟨false, waitForGipAck_none peer⟩
  · exact ⟨true, waitForGipAck_acked seqByte count peer⟩

/-- Up to two chunks, the last chunk follows the ACK of the first one. -/
theorem gipAuthSendChunks_two (more : gipPktMaxLen < authPayload.length)
    (two : authPayload.length ≤ 2 * gipPktMaxLen) :
    gipAuthSendChunks settledLink authPayload seq gipPktMaxLen
        (authPayload.length - gipPktMaxLen)
        ⟨(.receiving (holding authPayload gipPktMaxLen seq),
          [ackOf authPayload gipPktMaxLen seq]), seqRef⟩ =
      .ok ((), ⟨(.returned authPayload seq, [ackOf authPayload authPayload.length seq]),
        seqRef⟩) := by
  have rest : authPayload.length - gipPktMaxLen ≠ 0 := by omega
  have fits : authPayload.length - gipPktMaxLen ≤ gipPktMaxLen := by omega
  have size : min (authPayload.length - gipPktMaxLen) gipPktMaxLen =
      authPayload.length - gipPktMaxLen := Nat.min_eq_left fits
  have total : gipPktMaxLen + (authPayload.length - gipPktMaxLen) = authPayload.length := by omega
  have short : authPayload.length < 16384 := by
    unfold gipPktMaxLen at two
    omega
  rw [gipAuthSendChunks, if_neg rest]
  refine (run_bind (waitForGipAck_acked seqByte gipPktMaxLen _)).trans ?_
  rw [if_pos rfl]
  simp only [size, if_true]
  refine (run_lift (buildGipHeader_of_le (by decide) (by decide) seqByte _ _) _).trans ?_
  refine (run_bind (write_last seqByte short (Nat.pos_of_ne_zero rest) fits total)).trans ?_
  rw [total, Nat.sub_self, gipAuthSendChunks, if_pos rfl]
  rfl

/-- **Beyond two chunks, the sender waits for an ACK of the second**, which did not ask for one:
the wait times out and the loop ends. -/
theorem gipAuthSendChunks_cut (short : authPayload.length < 16384)
    (beyond : 2 * gipPktMaxLen < authPayload.length) :
    gipAuthSendChunks settledLink authPayload seq gipPktMaxLen
        (authPayload.length - gipPktMaxLen)
        ⟨(.receiving (holding authPayload gipPktMaxLen seq),
          [ackOf authPayload gipPktMaxLen seq]), seqRef⟩ =
      .ok ((), ⟨(.receiving (holding authPayload (2 * gipPktMaxLen) seq), []), seqRef⟩) := by
  have rest : authPayload.length - gipPktMaxLen ≠ 0 := by omega
  have large : gipPktMaxLen < authPayload.length - gipPktMaxLen := by omega
  have size : min (authPayload.length - gipPktMaxLen) gipPktMaxLen = gipPktMaxLen :=
    Nat.min_eq_right large.le
  have again : authPayload.length - gipPktMaxLen - gipPktMaxLen ≠ 0 := by omega
  rw [gipAuthSendChunks, if_neg rest]
  refine (run_bind (waitForGipAck_acked seqByte gipPktMaxLen _)).trans ?_
  rw [if_pos rfl]
  simp only [size, if_neg large.ne]
  refine (run_lift (buildGipHeader_of_le (by decide) (by decide) seqByte _ _) _).trans ?_
  refine (run_bind (write_middle seqByte short (by omega))).trans ?_
  rw [gipAuthSendChunks, if_neg again]
  refine (run_bind (waitForGipAck_none _)).trans ?_
  rw [if_neg Bool.false_ne_true, two_mul]
  rfl

/-- The end of the sender: the last wait and the empty chunk. -/
theorem close_run (count : Nat) {peer last : Peer}
    (left : acks = [] ∨ acks = [ackOf authPayload count seq])
    (closed : devWrite settledLink
        (headerOf gipCmdAuthenticate (gipClientId ||| gipOptInternal ||| gipOptChunk) seq 0
          (some authPayload.length)) ⟨(peer, []), seqRef⟩ = .ok ((), ⟨(last, []), seqRef⟩)) :
    (do
      let _ ← waitForGipAck settledLink gipCmdAuthenticate
      let emptyHdr ← buildGipHeader gipCmdAuthenticate
        (gipClientId ||| gipOptInternal ||| gipOptChunk) seq 0 (some authPayload.length)
      devWrite settledLink emptyHdr : Py Settled Unit) ⟨(peer, acks), seqRef⟩ =
      .ok ((), ⟨(last, []), seqRef⟩) := by
  obtain ⟨acked, waited⟩ := wait_rest seqByte count seqRef left peer
  refine (run_bind waited).trans ?_
  exact (run_lift (buildGipHeader_of_le (by decide) (by decide) seqByte _ _) _).trans closed

/-- **A transfer to a peer that is never behind** delivers the first two chunks. -/
theorem gipAuthSendChunked_run (long : gipPktMaxLen ≤ authPayload.length)
    (short : authPayload.length < 16384) :
    gipAuthSendChunked settledLink authPayload seq
        ⟨(.receiving ChunkState.initial, []), seqRef⟩ =
      .ok ((), ⟨(.returned (authPayload.take (2 * gipPktMaxLen)) seq, []), seqRef⟩) := by
  refine (run_lift (buildGipHeader_of_le (by decide) (by decide) seqByte _ _) _).trans ?_
  refine (run_bind (write_start seqByte long short)).trans ?_
  rcases Nat.lt_or_ge (2 * gipPktMaxLen) authPayload.length with beyond | two
  · refine (run_bind (gipAuthSendChunks_cut seqByte short beyond)).trans ?_
    exact close_run seqByte 0 (Or.inl rfl) (write_empty seqByte short beyond.le)
  · rw [List.take_of_length_le two]
    rcases Nat.eq_or_lt_of_le long with one | more
    · have whole : authPayload.take gipPktMaxLen = authPayload := List.take_of_length_le one.ge
      have closed := @write_empty _ [] seqRef _ _ seqByte short _ long
      rw [whole] at closed
      refine (run_bind (gipAuthSendChunks_one one _)).trans ?_
      exact close_run seqByte _ (Or.inr rfl) closed
    · refine (run_bind (gipAuthSendChunks_two seqByte more two)).trans ?_
      exact close_run seqByte _ (Or.inr rfl) (devWrite_returned _ authPayload seq)

end Transfer

/-- What the peer returns is read off the settled session. -/
theorem received_settled (authPayload : List UInt8) (seq : Nat) (schedule : List Nat) :
    received authPayload seq schedule =
      (gipAuthSendChunked settledLink authPayload seq
        ⟨(.receiving ChunkState.initial, []), seq⟩).map
          fun (_, session) => session.dev.1.payload := by
  have mirrors := gipAuthSendChunked_mirrors authPayload seq ⟨Wire.start schedule, seq⟩
  have started : settledSession ⟨Wire.start schedule, seq⟩ =
      ⟨(.receiving ChunkState.initial, []), seq⟩ := rfl
  rw [started] at mirrors
  rw [← mirrors, received]
  cases gipAuthSendChunked wireLink authPayload seq ⟨Wire.start schedule, seq⟩ with
  | error error => rfl
  | ok pair => exact congrArg (fun peer => Except.ok (Peer.payload peer)) Channel.party_iterate

/-- **The peer receives the first two chunks of a payload, and no more.** -/
theorem received_eq {authPayload : List UInt8} {seq : Nat} (seqByte : seq ≤ 255)
    (long : gipPktMaxLen ≤ authPayload.length) (short : authPayload.length < 16384)
    (schedule : List Nat) :
    received authPayload seq schedule = .ok (some (authPayload.take (2 * gipPktMaxLen))) := by
  rw [received_settled, gipAuthSendChunked_run seqByte long short]
  rfl

/-- A sequence number that is no byte ends the sender before it writes. -/
theorem received_error {seq : Nat} (large : 255 < seq) (authPayload : List UInt8)
    (schedule : List Nat) : received authPayload seq schedule = .error .valueError := by
  have header : ∀ opts pktLen chunkOffset,
      buildGipHeader gipCmdAuthenticate opts seq pktLen chunkOffset = .error .valueError := by
    intro opts pktLen chunkOffset
    have member : seq ∈ [gipCmdAuthenticate, opts, seq] := by simp
    rw [buildGipHeader_eq, pyBytes_error member large]
    rfl
  rw [received_settled, gipAuthSendChunked]
  simp only [header]
  rfl

/-- **The chunked sender and the chunk receiver interoperate exactly up to two chunks.** -/
theorem received_iff {authPayload : List UInt8} (long : 58 ≤ authPayload.length)
    (short : authPayload.length < 16384) (seq : Nat) (schedule : List Nat) :
    received authPayload seq schedule = .ok (some authPayload) ↔
      authPayload.length ≤ 116 ∧ seq ≤ 255 := by
  rcases Nat.lt_or_ge 255 seq with large | seqByte
  · rw [received_error large]
    exact iff_of_false nofun fun both => absurd both.2 (not_le.mpr large)
  · rw [received_eq seqByte long short]
    constructor
    · intro whole
      have length := congrArg List.length (Option.some.inj (Except.ok.inj whole))
      rw [List.length_take] at length
      exact ⟨min_eq_right_iff.mp length, seqByte⟩
    · intro both
      have two : authPayload.length ≤ 2 * gipPktMaxLen := both.1
      rw [List.take_of_length_le two]

end Parties

/-- Two full chunks, and a peer that falls one frame behind. -/
theorem received_iff_two :
    @received Memory.gibibyte (List.replicate 116 7) 4 [0, 1] = .ok (some (List.replicate 116 7)) ↔
      (List.replicate 116 (7 : UInt8)).length ≤ 116 ∧ 4 ≤ 255 :=
  @received_iff Memory.gibibyte _ (by decide) (by decide) 4 [0, 1]

/-- One byte more than two chunks: the last byte is lost. -/
theorem third_chunk_lost :
    ¬ ∀ (authPayload : List UInt8) (seq : Nat) (schedule : List Nat),
      58 ≤ authPayload.length → authPayload.length < 16384 → seq ≤ 255 →
        @received Memory.gibibyte authPayload seq schedule = .ok (some authPayload) := by
  intro delivers
  have whole := delivers (List.replicate 117 7) 4 [] (by decide) (by decide) (by decide)
  rw [@received_eq Memory.gibibyte _ _ (by decide) (by decide) (by decide)] at whole
  exact absurd (Except.ok.inj whole) (by decide)

end Wolverine.Python
