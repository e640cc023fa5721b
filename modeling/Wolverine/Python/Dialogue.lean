/-
**Where the handshake raises.**

The device is a script of reads, one window for each wait of the driver; after the last there is
silence. Writes succeed. `_recv_auth_pkt` raises where a chunk asks for an ACK whose counts do not
fit, or takes more bytes than the memory has. The handshake raises there, on a v2
response without its second byte, on a public key off the curve, and on a certificate whose key
cannot encrypt the premaster secret.

* `recvAuthPktFrom_ok_iff` — the receiver returns exactly when every read that it processes is
  harmless.
* `ends_recv`, `ends_simple`, `ends_chunked` — one call of the handshake against the script: only a
  wait can raise.
* `DialogueFine` — the windows that the handshake gets to are harmless, and the responses usable.
* `handshake_returns_iff` — the handshake returns exactly then, and so does `gip_init`.
-/

import Wolverine.Python.Handshake
import Wolverine.Python.Identify
import Wolverine.Python.Monitor
import Wolverine.Python.Sender

namespace Wolverine.Python

open Wolverine.Machine

/-! ### The ACK of a chunk -/

/-- The two counts of an ACK fit their fields. -/
def CountsFit (received total : Nat) : Prop :=
  received < 65536 ∧ received ≤ total ∧ total - received < 65536

/-- **The ACK is built exactly when its counts fit.** -/
theorem sendGipAckForChunk_ok_iff {recvSeq recvCmd received total : Nat} (seqByte : recvSeq ≤ 255)
    (cmdByte : recvCmd ≤ 255) :
    (∃ packet, sendGipAckForChunk recvSeq recvCmd received total = .ok packet) ↔
      CountsFit received total := by
  refine ⟨fun ⟨packet, sent⟩ => ?_, fun ⟨small, within, rest⟩ =>
    ⟨_, sendGipAckForChunk_eq seqByte cmdByte small within rest⟩⟩
  obtain ⟨_, -, sent⟩ := ok_of_bind sent
  obtain ⟨_, first, sent⟩ := ok_of_bind sent
  obtain ⟨_, second, -⟩ := ok_of_bind sent
  have count := packLE16_ok_iff.mp ⟨_, first⟩
  have left := packLE16_ok_iff.mp ⟨_, second⟩
  unfold CountsFit
  omega

theorem ackIfAsked_ok_iff {h : Header} (seqByte : h.seq ≤ 255) (received total : Nat) :
    (∃ ack, ackIfAsked h received total = .ok ack) ↔
      (h.opts &&& gipOptAck ≠ 0 → CountsFit received total) := by
  unfold ackIfAsked
  by_cases asks : h.opts &&& gipOptAck ≠ 0
  · rw [if_pos asks, forall_prop_of_true asks,
      ← sendGipAckForChunk_ok_iff seqByte (show gipCmdAuthenticate ≤ 255 by decide)]
    cases sendGipAckForChunk h.seq gipCmdAuthenticate received total with
    | ok packet => exact iff_of_true ⟨_, rfl⟩ ⟨_, rfl⟩
    | error error =>
      exact iff_of_false error_not_ok error_not_ok
  · rw [if_neg asks]
    exact iff_of_true ⟨_, rfl⟩ fun asked => absurd asked asks

/-! ### The receiver -/

section Memory

variable [Memory]

/-- The memory has the bytes that the frame announces, the buffer those that it brings, and an ACK
that it asks for fits. -/
def AuthHarmless (transfer : Transfer) (read : DevRead) : Prop :=
  ∀ raw h, read = .data raw → decodeGipHeader raw = some h → h.cmd = gipCmdAuthenticate →
    let chunkData := (raw.drop h.hdrLen).take h.pktLen
    if h.opts &&& gipOptChunkStart ≠ 0 then
      h.chunkOffset ≤ Memory.limit ∧ FitsAt (List.replicate h.chunkOffset 0) 0 chunkData ∧
        (h.opts &&& gipOptAck ≠ 0 → CountsFit h.pktLen h.chunkOffset)
    else
      h.opts &&& gipOptChunk ≠ 0 → h.pktLen ≠ 0 → ∀ buf, transfer.state.chunkBuf = some buf →
        FitsAt buf h.chunkOffset chunkData ∧
          (h.opts &&& gipOptAck ≠ 0 →
            CountsFit (h.chunkOffset + h.pktLen) transfer.state.chunkTotal)

def AuthExit.Raised : AuthExit → Prop
  | .raised _ => True
  | .completed _ _ _ => False
  | .ended _ _ => False

theorem onChunkStart_ok_iff {h : Header} (seqByte : h.seq ≤ 255) {chunkData : List UInt8}
    (short : chunkData.length ≤ h.pktLen) :
    (∃ reaction, onChunkStart h chunkData = .ok reaction) ↔
      h.chunkOffset ≤ Memory.limit ∧ FitsAt (List.replicate h.chunkOffset 0) 0 chunkData ∧
        (h.opts &&& gipOptAck ≠ 0 → CountsFit h.pktLen h.chunkOffset) := by
  have inside : 0 + chunkData.length ≤ h.pktLen := by omega
  rw [← ackIfAsked_ok_iff seqByte]
  refine ⟨fun ⟨reaction, started⟩ => ?_, fun ⟨room, fits, ack, acked⟩ => ?_⟩
  · obtain ⟨zeros, allocated, started⟩ := ok_of_bind started
    obtain ⟨buf, stored, started⟩ := ok_of_bind started
    obtain ⟨ack, acked, -⟩ := ok_of_bind started
    obtain ⟨room, rfl⟩ := pyBytearray_ok_iff.mp allocated
    exact ⟨room, ((pySliceAssign_ok_iff inside).mp stored).1, ack, acked⟩
  · have stored := (pySliceAssign_ok_iff inside).mpr ⟨fits, rfl⟩
    exact ⟨_, (bind_of_ok (pyBytearray_ok room) _).trans
      ((bind_of_ok stored _).trans (bind_of_ok acked _))⟩

theorem onChunk_ok_iff {h : Header} (seqByte : h.seq ≤ 255) (state : ChunkState)
    {chunkData : List UInt8} (short : chunkData.length ≤ h.pktLen) :
    (∃ reaction, onChunk state h chunkData = .ok reaction) ↔
      (h.pktLen ≠ 0 → ∀ buf, state.chunkBuf = some buf →
        FitsAt buf h.chunkOffset chunkData ∧
          (h.opts &&& gipOptAck ≠ 0 →
            CountsFit (h.chunkOffset + h.pktLen) state.chunkTotal)) := by
  unfold onChunk
  cases state.chunkBuf with
  | none => exact iff_of_true ⟨_, rfl⟩ fun _ _ held => by cases held
  | some buf =>
    dsimp only
    by_cases empty : h.pktLen = 0
    · rw [if_pos empty]
      exact iff_of_true ⟨_, rfl⟩ fun positive => absurd empty positive
    · simp only [Option.some.injEq, forall_eq', ne_eq, empty, not_false_eq_true,
        forall_true_left]
      rw [← ackIfAsked_ok_iff seqByte]
      refine ⟨fun ⟨reaction, stored⟩ => ?_, fun ⟨fits, ack, acked⟩ => ?_⟩
      · obtain ⟨after, assigned, stored⟩ := ok_of_bind stored
        obtain ⟨ack, acked, -⟩ := ok_of_bind stored
        exact ⟨((pySliceAssign_ok_iff (Nat.add_le_add_left short _)).mp assigned).1, ack, acked⟩
      · have assigned := (pySliceAssign_ok_iff (Nat.add_le_add_left short _)).mpr ⟨fits, rfl⟩
        exact ⟨_, (bind_of_ok assigned _).trans (bind_of_ok acked _)⟩

omit [Memory] in
/-- The sequence number of a frame is a byte. -/
theorem seq_of_decoded {raw : List UInt8} {h : Header} (decoded : decodeGipHeader raw = some h) :
    h.seq ≤ 255 := by
  rcases lt_or_ge raw.length 4 with short | long
  · rw [decodeGipHeader_short short] at decoded
    cases decoded
  · rw [decodeGipHeader_eq long] at decoded
    cases decoded
    exact Nat.le_of_lt_succ (raw.getD 2 0).toNat_lt

theorem recvAuthFrame_ok_iff (transfer : Transfer) (raw : List UInt8) :
    (∃ reaction, recvAuthFrame transfer.state raw = .ok reaction) ↔
      AuthHarmless transfer (.data raw) := by
  have only : AuthHarmless transfer (.data raw) ↔
      ∀ h, decodeGipHeader raw = some h → h.cmd = gipCmdAuthenticate → _ :=
    ⟨fun all h => all raw h rfl, fun all _ h same => by cases same; exact all h⟩
  rw [only]
  unfold recvAuthFrame
  cases decoded : decodeGipHeader raw with
  | none => exact iff_of_true ⟨_, rfl⟩ nofun
  | some h =>
    have seqByte := seq_of_decoded decoded
    simp only [Option.some.injEq, forall_eq']
    by_cases foreign : h.cmd ≠ gipCmdAuthenticate
    · rw [if_pos foreign]
      exact iff_of_true ⟨_, rfl⟩ fun same => absurd same foreign
    rw [if_neg foreign, forall_prop_of_true (not_not.mp foreign)]
    by_cases start : h.opts &&& gipOptChunkStart ≠ 0
    · rw [if_pos start, if_pos start]
      exact onChunkStart_ok_iff seqByte (List.length_take_le _ _)
    rw [if_neg start, if_neg start]
    by_cases chunk : h.opts &&& gipOptChunk ≠ 0
    · rw [if_pos chunk, forall_prop_of_true chunk]
      exact onChunk_ok_iff seqByte _ (List.length_take_le _ _)
    · rw [if_neg chunk]
      exact iff_of_true ⟨_, rfl⟩ fun asked => absurd asked chunk

/-- **A read makes the receiver raise exactly when it is not harmless.** -/
theorem receiveAuth_harmless_iff (transfer : Transfer) (read : DevRead) :
    AuthHarmless transfer read ↔
      ∀ exit_, receiveAuth transfer read = .error exit_ → ¬ exit_.Raised := by
  cases read with
  | timeout => exact iff_of_true (fun _ _ same => by cases same) fun _ raised => by cases raised
  | usbError => exact iff_of_true (fun _ _ same => by cases same) fun _ raised => by cases raised
  | data raw =>
    rw [← recvAuthFrame_ok_iff, receiveAuth]
    cases reacted : recvAuthFrame transfer.state raw with
    | error error =>
      exact iff_of_false error_not_ok fun avoids => avoids _ rfl trivial
    | ok reaction =>
      refine iff_of_true ⟨_, rfl⟩ fun exit_ left raised => ?_
      dsimp only at left
      unfold onAuthFrame at left
      split at left <;> cases left
      · exact raised
      · exact raised

/-- No read that the receiver processes makes it raise. -/
def AllHarmless (reads : List DevRead) : Prop :=
  Meets AuthHarmless receiveAuth Transfer.start reads

/-- **The receiver returns exactly when every read that it processes is harmless.** -/
theorem recvAuthPktFrom_ok_iff (reads : List DevRead) :
    (∃ answer, recvAuthPktFrom reads = .ok answer) ↔ AllHarmless reads := by
  have kept : ∀ transfer read next, True → receiveAuth transfer read = .ok next → True :=
    fun _ _ _ _ _ => trivial
  have rule := run_avoids_iff kept (fun transfer read _ => receiveAuth_harmless_iff transfer read)
    reads Transfer.start trivial
  rw [AllHarmless, ← rule]
  unfold recvAuthPktFrom
  cases ran : run receiveAuth Transfer.start reads with
  | ok last => exact iff_of_true ⟨_, rfl⟩ fun _ raised => by cases raised
  | error exit_ =>
    cases exit_ with
    | completed transfer payload seq =>
      refine iff_of_true ⟨_, rfl⟩ fun _ left => ?_
      cases left
      exact id
    | ended payload seq =>
      refine iff_of_true ⟨_, rfl⟩ fun _ left => ?_
      cases left
      exact id
    | raised error =>
      exact iff_of_false error_not_ok fun avoids => avoids _ rfl trivial

/-! ### A scripted device for the whole bring-up -/

/-- The ACKs that the receiver writes. -/
def authAcks : Transfer → List DevRead → List (List UInt8)
  | _, [] => []
  | transfer, read :: rest =>
    let acks :=
      match read with
      | .data raw => ((recvAuthFrame transfer.state raw).toOption.bind (·.ack)).toList
      | .timeout => []
      | .usbError => []
    match receiveAuth transfer read with
    | .ok next => acks ++ authAcks next rest
    | .error _ => acks

/-- Each wait of the driver takes the next window of reads. -/
def dialogueLink : Link Script := { scriptLink with
  gipRecv := fun script =>
    match script.waits.headD [] with
    | .data raw :: _ => (some raw, { script with waits := script.waits.tail })
    | _ => (none, { script with waits := script.waits.tail })
  drainBuffer := fun _ script => { script with waits := script.waits.tail }
  recvAuthPkt := fun _ script => do
    let reads := script.waits.headD []
    let answer ← recvAuthPktFrom reads
    return (answer.map Prod.fst,
      { written := script.written ++ authAcks Transfer.start reads, waits := script.waits.tail })
  receiveIdentifyResponse := fun _ script => do
    let (data, acks) ← receiveIdentifyFrom (script.waits.headD [])
    return (data,
      { written := script.written ++ acks.map (·.packet), waits := script.waits.tail }) }

/-- The windows that are left after so many waits for an ACK; a wait without one is the last. -/
def loopWaits : Nat → List (List DevRead) → List (List DevRead)
  | 0, waits => waits
  | count + 1, waits =>
    if acksIn gipCmdAuthenticate (waits.headD []) then loopWaits count waits.tail else waits.tail

/-- The windows that the chunked sender leaves. -/
def chunkedWaits (total : Nat) (waits : List (List DevRead)) : List (List DevRead) :=
  (loopWaits ((total - gipPktMaxLen + 57) / 58) waits).tail

/-- The windows to come, with room for so many numbered packets. -/
structure Ready (waits : List (List DevRead)) (sends : Nat) (session : Session Script) : Prop where
  waits : session.dev.waits = waits
  room : session.seqRef + sends ≤ 256

/-- The payload that a window delivers. -/
def payloadOf (reads : List DevRead) : Option (List UInt8) :=
  (recvAuthPktFrom reads).toOption.join.map Prod.fst

/-- The session after a wait. -/
def heard (session : Session Script) : Session Script where
  dev :=
    { written := session.dev.written ++ authAcks Transfer.start (session.dev.waits.headD [])
      waits := session.dev.waits.tail }
  seqRef := session.seqRef

section Calls

variable {waits : List (List DevRead)} {sends seq : Nat} {session : Session Script}

theorem Ready.heard (ready : Ready waits sends session) :
    Ready waits.tail sends (Python.heard session) :=
  ⟨congrArg List.tail ready.waits, ready.room⟩

/-- A packet on its own. -/
theorem gipAuthSend_returns (seqByte : seq ≤ 255) {opts : Nat} (optsByte : opts ≤ 255)
    (authPayload : List UInt8) (session : Session Script) :
    ∃ packet, gipAuthSend dialogueLink opts authPayload seq session =
      .ok ((), { session with dev :=
        { session.dev with written := session.dev.written ++ [packet] } }) := by
  have header := buildGipHeader_of_le (show gipCmdAuthenticate ≤ 255 by decide) optsByte seqByte
    authPayload.length none
  have built : buildPacket gipCmdAuthenticate opts seq authPayload = .ok
      (headerOf gipCmdAuthenticate opts seq authPayload.length none ++ authPayload) :=
    bind_of_ok header _
  exact ⟨_, (run_lift built session).trans (devWrite_ok dialogueLink rfl)⟩

/-- The chunked sender makes no other calls than those of its own script. -/
theorem gipAuthSendChunks_dialogue (authPayload : List UInt8) (offset remaining : Nat) :
    gipAuthSendChunks dialogueLink authPayload seq offset remaining =
      gipAuthSendChunks scriptLink authPayload seq offset remaining := by
  induction offset, remaining using gipAuthSendChunks.induct with
  | case1 offset =>
    rw [gipAuthSendChunks, gipAuthSendChunks]
    rfl
  | case2 offset remaining more ih =>
    rw [gipAuthSendChunks, gipAuthSendChunks, if_neg more, if_neg more]
    refine bind_congr (m := Py Script) fun acked => ?_
    dsimp only at ih ⊢
    rw [ih]
    rfl

omit [Memory] in
/-- **The loop of the chunked sender** returns, after one wait for each chunk. -/
theorem gipAuthSendChunks_returns (seqByte : seq ≤ 255) (authPayload : List UInt8)
    (offset remaining : Nat) (session : Session Script) :
    ∃ after, gipAuthSendChunks scriptLink authPayload seq offset remaining session =
        .ok ((), after) ∧
      after.dev.waits = loopWaits ((remaining + 57) / 58) session.dev.waits ∧
      after.seqRef = session.seqRef := by
  induction offset, remaining using gipAuthSendChunks.induct generalizing session with
  | case1 offset =>
    refine ⟨session, ?_, rfl, rfl⟩
    rw [gipAuthSendChunks, if_pos rfl]
    rfl
  | case2 offset remaining more ih =>
    have count : (remaining + 57) / 58 =
        (remaining - min remaining gipPktMaxLen + 57) / 58 + 1 := by
      unfold gipPktMaxLen
      omega
    obtain ⟨⟨written, waits⟩, seqRef⟩ := session
    rw [count, loopWaits]
    cases acked : acksIn gipCmdAuthenticate (waits.headD []) with
    | true =>
      obtain ⟨after, ran, left, same⟩ :=
        ih ⟨⟨written ++ [laterFrame authPayload seq offset (min remaining gipPktMaxLen)
          (min remaining gipPktMaxLen = remaining)], waits.tail⟩, seqRef⟩
      exact ⟨after, (gipAuthSendChunks_acked seqByte more acked _ _).trans ran,
        left.trans (if_pos rfl).symm, same⟩
    | false =>
      exact ⟨⟨⟨written, waits.tail⟩, seqRef⟩, gipAuthSendChunks_silent more acked _ _,
        (if_neg Bool.false_ne_true).symm, rfl⟩

theorem gipAuthSendChunked_returns (seqByte : seq ≤ 255) (authPayload : List UInt8)
    (session : Session Script) :
    ∃ after, gipAuthSendChunked dialogueLink authPayload seq session = .ok ((), after) ∧
      after.dev.waits = chunkedWaits authPayload.length session.dev.waits ∧
      after.seqRef = session.seqRef := by
  obtain ⟨after, ran, left, same⟩ := gipAuthSendChunks_returns seqByte authPayload gipPktMaxLen
    (authPayload.length - gipPktMaxLen)
    ⟨{ session.dev with written := session.dev.written ++ [firstFrame authPayload seq] },
      session.seqRef⟩
  have waited : waitForGipAck dialogueLink gipCmdAuthenticate after =
      .ok (acksIn gipCmdAuthenticate (after.dev.waits.headD []),
        { after with dev := { after.dev with waits := after.dev.waits.tail } }) := rfl
  refine ⟨⟨⟨after.dev.written ++ [headerOf gipCmdAuthenticate
    (gipClientId ||| gipOptInternal ||| gipOptChunk) seq 0 (some authPayload.length)],
    after.dev.waits.tail⟩, after.seqRef⟩, ?_, congrArg List.tail left, same⟩
  refine (run_lift (buildGipHeader_of_le (by decide) (by decide) seqByte _ _) _).trans ?_
  refine (run_bind (devWrite_ok dialogueLink rfl)).trans ?_
  refine (run_bind ((congrFun (gipAuthSendChunks_dialogue _ _ _) _).trans ran)).trans ?_
  refine (run_bind waited).trans ?_
  refine (run_lift (buildGipHeader_of_le (by decide) (by decide) seqByte _ _) _).trans ?_
  exact devWrite_ok dialogueLink rfl

end Calls

/-! ### One call of the handshake -/

/-- The next window is harmless, and what it delivers goes on with the others. -/
def Heard (waits : List (List DevRead)) (goesOn : List UInt8 → List (List DevRead) → Prop) :
    Prop :=
  AllHarmless (waits.headD []) ∧
    ∀ payload, payloadOf (waits.headD []) = some payload → goesOn payload waits.tail

section Rules

open Handshake (Talk Sending send recv)
open Program (request)

variable {Key Private Public : Type} (lib : Library Key Private Public)
  {waits : List (List DevRead)} {sends : Nat} {session : Session Script}

/-- The program returns against the script. -/
abbrev Ends (program : Talk Bool) (session : Session Script) : Prop :=
  Program.Returns (Handshake.answer dialogueLink lib.host) program session

omit [Memory] in
theorem sendCounted_ok {Device Result : Type} {send : Nat → Py Device Result} {result : Result}
    {session after : Session Device} (sent : send session.seqRef session = .ok (result, after)) :
    sendCounted send session = .ok ((), { after with seqRef := after.seqRef + 1 }) := by
  rw [sendCounted, sent]

/-- A send that returns takes a number. -/
theorem ends_sent (ready : Ready waits (sends + 1) session) (how : Sending)
    (authPayload : List UInt8) (after : Session Script) (same : after.seqRef = session.seqRef)
    (answered : Handshake.answer dialogueLink lib.host (.send how authPayload) session =
      .ok ((), { after with seqRef := after.seqRef + 1 })) :
    ∃ next, Ready after.dev.waits sends next ∧
      ∀ rest, Ends lib (send how authPayload >>= rest) session ↔ Ends lib (rest ()) next := by
  refine ⟨{ after with seqRef := after.seqRef + 1 }, ⟨rfl, ?_⟩,
    fun rest => Program.returns_request answered⟩
  have room := ready.room
  show after.seqRef + 1 + sends ≤ 256
  omega

omit [Memory] in
theorem Ready.seqByte (ready : Ready waits (sends + 1) session) : session.seqRef ≤ 255 := by
  have room := ready.room
  omega

/-- A payload in one packet. -/
theorem ends_single (ready : Ready waits (sends + 1) session) {how : Sending} {opts : Nat}
    (optsByte : opts ≤ 255) (authPayload : List UInt8)
    (sendsOne : Handshake.answer dialogueLink lib.host (.send how authPayload) =
      sendCounted (gipAuthSend dialogueLink opts authPayload)) :
    ∃ next, Ready waits sends next ∧
      ∀ rest, Ends lib (send how authPayload >>= rest) session ↔ Ends lib (rest ()) next := by
  obtain ⟨packet, sent⟩ := gipAuthSend_returns ready.seqByte optsByte authPayload session
  rw [← ready.waits]
  exact ends_sent lib ready how authPayload
    ⟨⟨session.dev.written ++ [packet], session.dev.waits⟩, session.seqRef⟩ rfl
    ((congrFun sendsOne session).trans (sendCounted_ok sent))

theorem ends_simple (ready : Ready waits (sends + 1) session) (authPayload : List UInt8) :
    ∃ next, Ready waits sends next ∧
      ∀ rest, Ends lib (send .simple authPayload >>= rest) session ↔ Ends lib (rest ()) next :=
  ends_single lib ready (show gipClientId ||| gipOptInternal ||| gipOptAck ≤ 255 by decide)
    authPayload rfl

theorem ends_noAck (ready : Ready waits (sends + 1) session) (authPayload : List UInt8) :
    ∃ next, Ready waits sends next ∧
      ∀ rest, Ends lib (send .noAck authPayload >>= rest) session ↔ Ends lib (rest ()) next :=
  ends_single lib ready (show gipClientId ||| gipOptInternal ≤ 255 by decide) authPayload rfl

theorem ends_chunked (ready : Ready waits (sends + 1) session) (authPayload : List UInt8) :
    ∃ next, Ready (chunkedWaits authPayload.length waits) sends next ∧
      ∀ rest, Ends lib (send .chunked authPayload >>= rest) session ↔
        Ends lib (rest ()) next := by
  obtain ⟨after, sent, left, same⟩ := gipAuthSendChunked_returns ready.seqByte authPayload session
  rw [← ready.waits, ← left]
  exact ends_sent lib ready .chunked authPayload after same (sendCounted_ok sent)

/-- **A wait returns exactly when its window is harmless.** -/
theorem ends_recv (timeoutSec : Nat) (rest : Option (List UInt8) → Talk Bool) :
    Ends lib (recv timeoutSec >>= rest) session ↔
      AllHarmless (session.dev.waits.headD []) ∧
        Ends lib (rest (payloadOf (session.dev.waits.headD []))) (heard session) := by
  rw [← recvAuthPktFrom_ok_iff, payloadOf]
  cases received : recvAuthPktFrom (session.dev.waits.headD []) with
  | error error =>
    have failed : Handshake.answer dialogueLink lib.host (.recv timeoutSec) session =
        .error error := by
      show onDev (dialogueLink.recvAuthPkt timeoutSec) session = _
      simp only [onDev, dialogueLink, received, bind, Except.bind]
    exact iff_of_false (Program.not_returns_request failed) fun fine => error_not_ok fine.1
  | ok answer =>
    have answered : Handshake.answer dialogueLink lib.host (.recv timeoutSec) session =
        .ok (answer.map Prod.fst, heard session) := by
      show onDev (dialogueLink.recvAuthPkt timeoutSec) session = _
      simp only [onDev, dialogueLink, received, bind, Except.bind]
      rfl
    refine (Program.returns_request answered).trans ?_
    exact (and_iff_right ⟨answer, rfl⟩).symm

/-- A wait whose answer is not used. -/
theorem ends_ignored (ready : Ready waits sends session) {rest : Talk Bool} {fine : Prop}
    (after : ∀ next, Ready waits.tail sends next → (Ends lib rest next ↔ fine)) (timeoutSec : Nat) :
    Ends lib (recv timeoutSec >>= fun _ => rest) session ↔
      AllHarmless (waits.headD []) ∧ fine := by
  rw [ends_recv, ready.waits, after _ ready.heard]

/-- A wait for a message; a timeout ends the handshake. -/
theorem ends_heard (ready : Ready waits sends session) {rest : List UInt8 → Talk Bool}
    {goesOn : List UInt8 → List (List DevRead) → Prop}
    (after : ∀ payload next, Ready waits.tail sends next →
      (Ends lib (rest payload) next ↔ goesOn payload waits.tail)) (timeoutSec : Nat) :
    Ends lib (recv timeoutSec >>= fun answer =>
        match answer with
        | none => pure false
        | some payload => rest payload) session ↔
      Heard waits goesOn := by
  rw [ends_recv, ready.waits, Heard]
  refine and_congr_right fun _ => ?_
  cases payloadOf (waits.headD []) with
  | none => exact iff_of_true (Program.returns_done _ _) nofun
  | some payload =>
    rw [after payload _ ready.heard]
    simp only [Option.some.injEq, forall_eq']

theorem ends_digest (fed : List UInt8) (rest : List UInt8 → Talk Bool) :
    Ends lib (Handshake.digest fed >>= rest) session ↔
      Ends lib (rest (lib.sha256 fed).val) session :=
  Program.returns_request rfl

theorem ends_authPrf (key : List UInt8) (label : String) (seed : List UInt8) (length : Nat)
    (rest : List UInt8 → Talk Bool) :
    Ends lib (Handshake.authPrf key label seed length >>= rest) session ↔
      Ends lib (rest (lib.host.authPrf key label seed length)) session :=
  Program.returns_request rfl

end Rules

/-! ### The condition -/

/-- The prime of P-256. -/
def p256 : Nat := 2 ^ 256 - 2 ^ 224 + 2 ^ 192 + 2 ^ 96 - 1

/-- The constant of the curve equation. -/
def p256B : Nat := 0x5ac635d8aa3a93e7b3ebbd55769886bc651d06b0cc53b0f63bce3c3e27d2604b

/-- The coordinates are those of a point of P-256. -/
def OnP256 (x y : Nat) : Prop :=
  x < p256 ∧ y < p256 ∧ y ^ 2 % p256 = (x ^ 3 + (p256 - 3) * x + p256B) % p256

instance (x y : Nat) : Decidable (OnP256 x y) := inferInstanceAs (Decidable (_ ∧ _ ∧ _))

-- The base point.
example : OnP256 0x6b17d1f2e12c4247f8bce6e563a440f277037d812deb33a0f4a13945d898c296
    0x4fe342e2fe1a7f9b8ee7eb4a7c0f9e162bce33576b315ececbb6406837bf51f5 := by decide +kernel

/-- The windows of the ACK of HOST_FINISH and of CLIENT_FINISH. -/
def FinishFine (waits : List (List DevRead)) : Prop :=
  AllHarmless (waits.headD []) ∧ AllHarmless (waits.tail.headD [])

/-- The windows behind the certificate of v2: a public key on the curve, the ACK of HOST_PUBKEY,
the finish. -/
def ExchangeV2Fine (waits : List (List DevRead)) : Prop :=
  Heard waits fun pkData waits =>
    let clientPubkeyBytes := (pkData.drop 10).take Auth2.pubkeyLen
    OnP256 (fromBytes (clientPubkeyBytes.take 32)) (fromBytes (clientPubkeyBytes.drop 32)) ∧
      AllHarmless (waits.headD []) ∧ FinishFine waits.tail

section Condition

variable {Key Private Public : Type} (lib : Library Key Private Public)

/-- The certificate of v1, and the windows behind it: its key, if there is one, encrypts the
premaster secret, to no more than a payload can hold. -/
def ExchangeV1Fine (certPayload : List UInt8) (waits : List (List DevRead)) : Prop :=
  ∀ pubkey, lib.authExtractRsaPubkey certPayload = some pubkey →
    ∃ encryptedPms, lib.encrypt pubkey lib.pms.val = .ok encryptedPms ∧
      encryptedPms.length + 4 < 65536 ∧
      AllHarmless ((chunkedWaits (encryptedPms.length + 18) waits).headD []) ∧
      FinishFine (chunkedWaits (encryptedPms.length + 18) waits).tail

/-- The windows of CLIENT_HELLO, of the certificate, and behind it. -/
def RequestFine (v2 : Bool) (waits : List (List DevRead)) : Prop :=
  Heard waits fun chData waits =>
    10 + Auth.randomLen ≤ chData.length → Heard waits fun certData waits =>
      if v2 then ExchangeV2Fine waits else ExchangeV1Fine lib (certData.drop 10) waits

/-- All windows that the handshake gets to: where the device asks for v2, its next response has a
second byte. -/
def DialogueFine (waits : List (List DevRead)) : Prop :=
  Heard waits fun authAck waits =>
    6 ≤ authAck.length →
      (Handshake.AsksV2 authAck → Heard waits fun again waits =>
        2 ≤ again.length ∧ RequestFine lib true waits) ∧
      (¬ Handshake.AsksV2 authAck → RequestFine lib false waits)

/-! ### The handshake -/

variable {lib} {waits : List (List DevRead)} {session : Session Script}

open Handshake (Call authBuild_ok_iff authRequest_ok)
open Program (returns_request returns_built returns_done)

theorem ends_finish (ready : Ready waits 3 session) {finishCmd clientFinishCmd : Nat}
    (finishByte : finishCmd < 256) (clientByte : clientFinishCmd < 256)
    (transcript masterSecret : List UInt8) :
    Ends lib (Handshake.finish transcript masterSecret finishCmd clientFinishCmd) session ↔
      FinishFine waits := by
  have prf := lib.host_authPrf (show "Host Finished" ∈ _ by decide) masterSecret
    (lib.sha256 transcript).val Auth.transcriptLen
  have version : (if finishCmd ≥ 0x20 then 0x02 else 0x01) < 256 := by split <;> decide
  obtain ⟨finishPkt, built⟩ := (authBuild_ok_iff finishByte version
    (lib.host.authPrf masterSecret "Host Finished" (lib.sha256 transcript).val
      Auth.transcriptLen)).mpr (by rw [prf.2]; decide)
  obtain ⟨req, asks⟩ := authRequest_ok clientByte
    (show Auth.transcriptLen + 32 + 4 < 65536 by decide)
  refine (ends_digest lib transcript _).trans ?_
  refine (ends_authPrf lib masterSecret _ _ _ _).trans ?_
  refine (returns_built built).trans ?_
  obtain ⟨next, ready, sent⟩ := ends_simple lib ready finishPkt
  refine (sent _).trans ?_
  refine ends_ignored lib ready (fun next ready => ?_) 4
  refine (returns_built asks).trans ?_
  obtain ⟨next, ready, sent⟩ := ends_simple lib ready req
  refine (sent _).trans ?_
  rw [ends_recv, ready.waits]
  refine and_iff_left ?_
  cases payloadOf (waits.tail.headD []) with
  | none => exact returns_done _ _
  | some cfData =>
    refine (ends_digest lib _ _).mpr ?_
    refine (ends_authPrf lib masterSecret _ _ _ _).mpr ?_
    refine (returns_request rfl).mpr ?_
    refine (returns_built (show authComplete = .ok [0x01, 0x00] from rfl)).mpr ?_
    obtain ⟨next, _, sent⟩ := ends_noAck lib ready.heard [0x01, 0x00]
    exact (sent _).mpr (returns_done _ _)

theorem ends_exchangeV2 (curve : ∀ x y, (∃ key, lib.publicKey x y = .ok key) ↔ OnP256 x y)
    (ready : Ready waits 5 session) (transcript randSeed : List UInt8) :
    Ends lib (Handshake.exchangeV2 lib.host transcript randSeed) session ↔
      ExchangeV2Fine waits := by
  obtain ⟨req, asks⟩ := authRequest_ok (show Auth2.clientPubkey < 256 by decide)
    (show Auth2.pubkeyLen + 64 + 4 < 65536 by decide)
  refine (returns_built asks).trans ?_
  obtain ⟨next, ready, sent⟩ := ends_simple lib ready req
  refine (sent _).trans ?_
  refine ends_heard lib ready (fun pkData next ready => ?_) 5
  dsimp only
  rw [← curve]
  rcases lib.authEcdhExchange_cases ((pkData.drop 10).take Auth2.pubkeyLen) with
    ⟨error, rejected, raised⟩ | ⟨key, hostPub, secret, accepted, exchanged, size⟩
  · refine iff_of_false (fun returned => ?_) ?_
    · obtain ⟨_, exchanged, _⟩ := Program.returns_ofExcept.mp returned
      cases raised.symm.trans exchanged
    · rintro ⟨⟨_, accepted⟩, _⟩
      cases rejected.symm.trans accepted
  · obtain ⟨hpkPkt, built⟩ := (authBuild_ok_iff (show Auth2.hostPubkey < 256 by decide)
      (show 0x02 < 256 by decide) hostPub).mpr (by omega)
    rw [and_iff_right (⟨key, accepted⟩ : ∃ key, lib.publicKey _ _ = .ok key)]
    refine (returns_built exchanged).trans ?_
    refine (ends_authPrf lib secret _ _ _ _).trans ?_
    refine (returns_built built).trans ?_
    obtain ⟨next, ready, sent⟩ := ends_simple lib ready hpkPkt
    refine (sent _).trans ?_
    refine ends_ignored lib ready (fun next ready => ?_) 4
    exact ends_finish ready (by decide) (by decide) _ _

theorem ends_exchangeV1 (ready : Ready waits 4 session)
    (transcript randSeed certPayload : List UInt8) :
    Ends lib (Handshake.exchangeV1 lib.host transcript randSeed certPayload) session ↔
      ExchangeV1Fine lib certPayload waits := by
  unfold Handshake.exchangeV1 ExchangeV1Fine
  have host : lib.host.authExtractRsaPubkey certPayload =
    lib.authExtractRsaPubkey certPayload := rfl
  rw [host]
  cases lib.authExtractRsaPubkey certPayload with
  | none => exact iff_of_true (returns_done _ _) fun _ found => by cases found
  | some pubkey =>
    simp only [Option.some.injEq, forall_eq']
    refine Program.returns_ofExcept.trans (exists_congr fun encryptedPms => ?_)
    refine and_congr Iff.rfl ?_
    refine (ends_authPrf lib lib.pms.val _ _ _ _).trans ?_
    refine Program.returns_ofExcept.trans ?_
    rw [← authBuild_ok_iff (show Auth.hostSecret < 256 by decide) (show 0x01 < 256 by decide),
      ← exists_and_right]
    refine exists_congr fun secretPkt => and_congr_right fun built => ?_
    obtain ⟨payload, whole, isOf⟩ := Handshake.authBuild_ok built
    have length : secretPkt.length = encryptedPms.length + 18 := by
      rw [← whole, Handshake.length_bytes, isOf.body]
    obtain ⟨next, ready, sent⟩ := ends_chunked lib ready secretPkt
    rw [length] at ready
    refine (sent _).trans ?_
    refine ends_ignored lib ready (fun next ready => ?_) 4
    exact ends_finish ready (by decide) (by decide) _ _

theorem ends_requestClient (curve : ∀ x y, (∃ key, lib.publicKey x y = .ok key) ↔ OnP256 x y)
    (ready : Ready waits 7 session) (v2 : Bool) (transcript randomHost : List UInt8) :
    Ends lib (Handshake.requestClient lib.host v2 transcript randomHost) session ↔
      RequestFine lib v2 waits := by
  obtain ⟨askHello, asksHello⟩ : ∃ req,
      authRequest (Handshake.clientHelloCmd v2) (Handshake.clientHelloSize v2) = .ok req := by
    cases v2 <;> exact authRequest_ok (by decide) (by decide)
  obtain ⟨askCert, asksCert⟩ : ∃ req,
      authRequest (Handshake.clientCertCmd v2) (Handshake.clientCertSize v2) = .ok req := by
    cases v2 <;> exact authRequest_ok (by decide) (by decide)
  refine (returns_built asksHello).trans ?_
  obtain ⟨next, ready, sent⟩ := ends_simple lib ready askHello
  refine (sent _).trans ?_
  refine ends_heard lib ready (fun chData next ready => ?_) 5
  by_cases short : chData.length < 10 + Auth.randomLen
  · rw [if_pos short]
    exact iff_of_true (returns_done _ _) fun long => absurd short (not_lt.mpr long)
  rw [if_neg short, forall_prop_of_true (not_lt.mp short)]
  refine (returns_built asksCert).trans ?_
  obtain ⟨next, ready, sent⟩ := ends_simple lib ready askCert
  refine (sent _).trans ?_
  refine ends_heard lib ready (fun certData next ready => ?_) 8
  cases v2
  · exact ends_exchangeV1 ⟨ready.waits, by have room := ready.room; omega⟩ _ _ _
  · exact ends_exchangeV2 curve ready _ _

/-- **The handshake against the script.** -/
theorem ends_gipAuthHandshake (curve : ∀ x y, (∃ key, lib.publicKey x y = .ok key) ↔ OnP256 x y)
    (ready : Ready waits 9 session) :
    Ends lib (Handshake.gipAuthHandshake lib.host) session ↔ DialogueFine lib waits := by
  obtain ⟨helloV1, builtV1⟩ := (authBuild_ok_iff (show Auth.hostHello < 256 by decide)
    (show 0x01 < 256 by decide) (lib.randomHost.val ++ List.replicate 8 0)).mpr (by
      rw [List.length_append, lib.randomHost.property, List.length_replicate]
      decide)
  obtain ⟨helloV2, builtV2⟩ := (authBuild_ok_iff (show Auth2.hostHello < 256 by decide)
    (show 0x02 < 256 by decide) (lib.randomHostV2.val ++ List.replicate 4 0)).mpr (by
      rw [List.length_append, lib.randomHostV2.property, List.length_replicate]
      decide)
  unfold Handshake.gipAuthHandshake
  rw [if_neg (show ¬ lib.host.cryptoOk = false from (by decide : ¬ true = false))]
  refine (returns_built builtV1).trans ?_
  obtain ⟨next, ready, sent⟩ := ends_simple lib ready helloV1
  refine (sent _).trans ?_
  refine ends_heard lib ready (fun authAck next ready => ?_) 8
  by_cases short : authAck.length < 6
  · rw [if_pos short]
    exact iff_of_true (returns_done _ _) fun long => absurd short (not_lt.mpr long)
  rw [if_neg short, forall_prop_of_true (not_lt.mp short)]
  obtain ⟨hsCmd, third⟩ := pyIndex_ok_iff.mpr (show 3 < authAck.length by omega)
  have asks : Handshake.AsksV2 authAck ↔ hsCmd ≠ authAck.getD 7 hsCmd := by
    have found := getElem?_of_pyIndex third
    refine ⟨fun ⟨other, same, differs⟩ => ?_, fun differs => ⟨hsCmd, found, differs⟩⟩
    cases found.symm.trans same
    exact differs
  refine (returns_built third).trans ?_
  dsimp only
  by_cases upgrade : hsCmd ≠ authAck.getD 7 hsCmd
  · rw [if_pos upgrade, forall_prop_of_true (asks.mpr upgrade),
      and_iff_left fun stays => absurd (asks.mpr upgrade) stays]
    refine (returns_built builtV2).trans ?_
    obtain ⟨next, ready, sent⟩ := ends_simple lib ready helloV2
    refine (sent _).trans ?_
    refine ends_heard lib ready (fun again next ready => ?_) 4
    refine Program.returns_ofExcept.trans ?_
    rw [show 2 ≤ again.length ↔ 1 < again.length from Iff.rfl, ← pyIndex_ok_iff,
      ← exists_and_right]
    refine exists_congr fun hsOpts => and_congr_right fun _ => ?_
    exact ends_requestClient curve ready true _ _
  · have stays : ¬ Handshake.AsksV2 authAck := fun upgrades => upgrade (asks.mp upgrades)
    rw [if_neg upgrade, forall_prop_of_true stays, and_iff_right fun upgrades =>
      absurd upgrades stays]
    exact ends_requestClient curve ⟨ready.waits, by have room := ready.room; omega⟩ false _ _

end Condition

/-! ### The bring-up around it -/

section BringUp

variable {Device : Type}

/-- Steps 3 to 6 of `gip_init`: AUDIO FORMAT, POWER ON, volume. -/
def powerUp (link : Link Device) : Py Device Unit := do
  sendCounted (gipSendBuilt link pktAudioFormat)
  let _resp ← gipRecv link
  sendCounted (gipSendBuilt link (pktPower · gipPwrOn))
  let _resp ← gipRecv link
  sendVolume link

/-- Waiting for one packet writes nothing. -/
theorem gipRecv_written (session : Session Script) :
    ∃ raw dev, gipRecv dialogueLink session = .ok (raw, ⟨dev, session.seqRef⟩) ∧
      dev.written = session.dev.written := by
  refine ⟨_, _, rfl, ?_⟩
  show (match session.dev.waits.headD [] with
    | .data raw :: _ => (some raw, { session.dev with waits := session.dev.waits.tail })
    | _ => (none, { session.dev with waits := session.dev.waits.tail })).2.written = _
  split <;> rfl

theorem gipSendBuilt_ok {build : Nat → Except PyError (List UInt8)} {packet : List UInt8}
    {session : Session Script} (built : build session.seqRef = .ok packet) :
    sendCounted (gipSendBuilt dialogueLink build) session =
      .ok ((), ⟨⟨session.dev.written ++ [packet], session.dev.waits⟩, session.seqRef + 1⟩) := by
  have sent : gipSendBuilt dialogueLink build session.seqRef session =
      .ok (true, ⟨⟨session.dev.written ++ [packet], session.dev.waits⟩, session.seqRef⟩) :=
    run_lift built session
  exact sendCounted_ok sent

/-- While there is room for two numbers, AUDIO FORMAT and POWER ON are the last packets. -/
theorem powerUp_written {session : Session Script} (room : session.seqRef + 2 ≤ 256) :
    ∃ audioFormat powerOn after, pktAudioFormat session.seqRef = .ok audioFormat ∧
      pktPower (session.seqRef + 1) gipPwrOn = .ok powerOn ∧
      powerUp dialogueLink session = .ok ((), after) ∧
      after.dev.written = session.dev.written ++ [audioFormat, powerOn] := by
  have audio := buildBytes_of_lt (show gipCmdAudioControl < 256 by decide)
    (show gipOptInternal ||| audClient < 256 by decide) (show session.seqRef < 256 by omega)
    (show ∀ value ∈ [gipAudCtrlFormat, gipAudFormat48khzStereo, gipAudFormat48khzStereo],
      value < 256 by decide)
  have power := buildBytes_of_lt (show gipCmdPower < 256 by decide)
    (show gipClientId ||| gipOptInternal < 256 by decide)
    (show session.seqRef + 1 < 256 by omega) (show ∀ value ∈ [gipPwrOn], value < 256 by decide)
  obtain ⟨_, first, heardFirst, keptFirst⟩ := gipRecv_written
    ⟨⟨session.dev.written ++ [_], session.dev.waits⟩, session.seqRef + 1⟩
  obtain ⟨_, second, heardSecond, keptSecond⟩ := gipRecv_written
    ⟨⟨first.written ++ [_], first.waits⟩, session.seqRef + 1 + 1⟩
  refine ⟨_, _, ⟨second, session.seqRef + 1 + 1⟩, audio, power, ?_, ?_⟩
  · refine (run_bind (gipSendBuilt_ok audio)).trans ?_
    refine (run_bind heardFirst).trans ?_
    refine (run_bind (gipSendBuilt_ok power)).trans ?_
    exact run_bind heardSecond
  · rw [keptSecond, keptFirst]
    exact List.append_assoc _ _ _

/-- With an IDENTIFY response, or none, `gip_init` gets to the handshake. -/
theorem gipInitSteps_identified {Key : Type} (host : Host Key) {script : Script}
    {identity : Option (List UInt8)} {acks : List IdentifyAck}
    (identified : receiveIdentifyFrom (script.waits.tail.headD []) = .ok (identity, acks)) :
    ∃ written, gipInitSteps dialogueLink host ⟨script, 1⟩ =
      (gipAuthHandshake dialogueLink host >>= fun _ => powerUp dialogueLink)
        ⟨⟨written, script.waits.drop 2⟩, 2⟩ := by
  obtain ⟨packet, built⟩ : ∃ packet, pktIdentify 1 = .ok packet := ⟨_, by
    rw [pktIdentify, buildPacket_eq]
    rfl⟩
  have waits : script.waits.tail.tail = script.waits.drop 2 := by
    rw [← List.drop_one, ← List.drop_one, List.drop_drop]
  have response : receiveIdentifyResponse dialogueLink 2
      ⟨⟨script.written ++ [packet], script.waits.tail⟩, 2⟩ =
        .ok (identity, ⟨⟨script.written ++ [packet] ++ acks.map (·.packet),
          script.waits.tail.tail⟩, 2⟩) := by
    show onDev (dialogueLink.receiveIdentifyResponse 2) _ = _
    simp only [onDev, dialogueLink, identified, bind, Except.bind]
    rfl
  refine ⟨script.written ++ [packet] ++ acks.map (·.packet), ?_⟩
  rw [← waits]
  refine (run_bind (show drainBuffer dialogueLink 300 ⟨script, 1⟩ =
    .ok ((), ⟨⟨script.written, script.waits.tail⟩, 1⟩) from rfl)).trans ?_
  refine (run_bind (gipSendBuilt_ok built)).trans ?_
  refine (run_bind (show (get : Py Script (Session Script)) _ = .ok (_, _) from rfl)).trans ?_
  exact run_bind response

end BringUp

/-! ### Where the handshake returns -/

section Main

variable {Key Private Public : Type}

/-- **The handshake returns exactly where the dialogue is fine.** The numbers that it takes are
bytes, as those of `gip_init` are. Where it returns, and only there, `gip_init` goes on to AUDIO
FORMAT and POWER ON. -/
theorem handshake_returns_iff (lib : Library Key Private Public)
    (curve : ∀ x y, (∃ key, lib.publicKey x y = .ok key) ↔ OnP256 x y) (script : Script) :
    (∀ seqRef, seqRef + 9 ≤ 256 →
      ((∃ result after, gipAuthHandshake dialogueLink lib.host ⟨script, seqRef⟩ =
          .ok (result, after)) ↔ DialogueFine lib script.waits)) ∧
    ∀ identity acks, receiveIdentifyFrom (script.waits.tail.headD []) = .ok (identity, acks) →
      ((∃ seqRef dev number before audioFormat powerOn,
          gipInit dialogueLink lib.host script = .ok (seqRef, dev) ∧
          pktAudioFormat number = .ok audioFormat ∧
          pktPower (number + 1) gipPwrOn = .ok powerOn ∧
          dev.written = before ++ [audioFormat, powerOn]) ↔
        DialogueFine lib (script.waits.drop 2)) := by
  have handshake : ∀ session : Session Script, session.seqRef + 9 ≤ 256 →
      ((∃ result after, gipAuthHandshake dialogueLink lib.host session = .ok (result, after)) ↔
        DialogueFine lib session.dev.waits) := by
    intro session room
    rw [← Handshake.run_gipAuthHandshake]
    exact ends_gipAuthHandshake curve ⟨rfl, room⟩
  refine ⟨fun seqRef room => handshake ⟨script, seqRef⟩ room, fun identity acks identified => ?_⟩
  obtain ⟨written, steps⟩ := gipInitSteps_identified lib.host identified
  rw [← handshake ⟨⟨written, script.waits.drop 2⟩, 2⟩ (show 2 + 9 ≤ 256 by decide)]
  refine ⟨?_, ?_⟩
  · rintro ⟨seqRef, dev, _, _, _, _, returned, -⟩
    unfold gipInit at returned
    rw [steps] at returned
    split at returned
    · rename_i ran
      obtain ⟨⟨result, after⟩, shaken, -⟩ := ok_of_bind ran
      exact ⟨result, after, shaken⟩
    · cases returned
  · rintro ⟨result, after, shaken⟩
    have counted := gipAuthHandshake_advances dialogueLink lib.host _ _ _ shaken
    have room : after.seqRef + 2 ≤ 256 := by
      have atMost := counted.2
      dsimp only at atMost
      omega
    obtain ⟨audioFormat, powerOn, last, audio, power, ran, logged⟩ := powerUp_written room
    refine ⟨last.seqRef, last.dev, after.seqRef, after.dev.written, audioFormat, powerOn, ?_, audio,
      power, logged⟩
    rw [gipInit, steps, run_bind shaken, ran]

end Main

end Memory

/-- A library that accepts the points of P-256, with any other answers. -/
def plainLibrary : Library Unit Unit Unit where
  randomHost := zeroBytes 32
  randomHostV2 := zeroBytes 32
  pms := zeroBytes 48
  sha256 _ := zeroBytes 32
  hmac _ _ := zeroBytes 32
  loadDerPub _ := .ok ()
  encrypt _ _ := .ok (List.replicate 256 0)
  hostPriv := ()
  publicNumbers _ := ⟨0, 0, by decide, by decide⟩
  publicKey x y := if OnP256 x y then .ok () else .error .cryptoError
  exchange _ _ := List.replicate 32 0

theorem plainLibrary_curve (x y : Nat) :
    (∃ key, plainLibrary.publicKey x y = .ok key) ↔ OnP256 x y := by
  have answer : plainLibrary.publicKey x y =
      if OnP256 x y then .ok () else .error .cryptoError := rfl
  rw [answer]
  by_cases onCurve : OnP256 x y
  · rw [if_pos onCurve]
    exact iff_of_true ⟨(), rfl⟩ onCurve
  · rw [if_neg onCurve]
    exact iff_of_false error_not_ok onCurve

/-- A window with one payload, and what goes on from there. -/
theorem Heard.of_received [Memory] {reads : List DevRead} {rest : List (List DevRead)}
    {goesOn : List UInt8 → List (List DevRead) → Prop} {payload : List UInt8} {seq : Nat}
    (received : recvAuthPktFrom reads = .ok (some (payload, seq))) (fine : goesOn payload rest) :
    Heard (reads :: rest) goesOn := by
  refine ⟨(recvAuthPktFrom_ok_iff reads).mp ⟨_, received⟩, fun other delivered => ?_⟩
  have same : payloadOf reads = some payload := by
    rw [payloadOf, received]
    rfl
  cases same.symm.trans delivered
  exact fine

/-- The base point, as CLIENT_PUBKEY brings it. -/
def basePoint : List UInt8 := [
  0x6b, 0x17, 0xd1, 0xf2, 0xe1, 0x2c, 0x42, 0x47, 0xf8, 0xbc, 0xe6, 0xe5, 0x63, 0xa4, 0x40, 0xf2,
  0x77, 0x03, 0x7d, 0x81, 0x2d, 0xeb, 0x33, 0xa0, 0xf4, 0xa1, 0x39, 0x45, 0xd8, 0x98, 0xc2, 0x96,
  0x4f, 0xe3, 0x42, 0xe2, 0xfe, 0x1a, 0x7f, 0x9b, 0x8e, 0xe7, 0xeb, 0x4a, 0x7c, 0x0f, 0x9e, 0x16,
  0x2b, 0xce, 0x33, 0x57, 0x6b, 0x31, 0x5e, 0xce, 0xcb, 0xb6, 0x40, 0x68, 0x37, 0xbf, 0x51, 0xf5]

/-- A device that asks for v2 and answers to the end: its public key comes in two chunks, which ask
for ACKs, and the finish is met with silence. -/
def dialogueV2 : List (List DevRead) := [
  [.data [0x06, 0x21, 0x01, 0x08, 0x00, 0x41, 0x00, 0x01, 0x00, 0x04, 0x01, 0x21]],
  [.data [0x06, 0x21, 0x02, 0x06, 0x00, 0x41, 0x00, 0x01, 0x00, 0x00]],
  [.timeout, .data ([0x06, 0x21, 0x03, 0x2a] ++ List.replicate 42 0)],
  [.data ([0x06, 0x21, 0x04, 0x20] ++ List.replicate 32 0)],
  [.data ([0x06, 0xf1, 0x05, 0xba, 0x00, 0x4a] ++ List.replicate 10 0 ++ basePoint.take 48),
    .data ([0x06, 0xb1, 0x05, 0x90, 0x00, 0x3a] ++ basePoint.drop 48)],
  [.data [0x06, 0x21, 0x06, 0x02, 0x01, 0x00]]]

theorem dialogueV2_fine : @DialogueFine Memory.gibibyte _ _ _ plainLibrary dialogueV2 := by
  have quiet : ∀ reads answer, @recvAuthPktFrom Memory.gibibyte reads = .ok answer →
      @AllHarmless Memory.gibibyte reads :=
    fun reads answer received => (@recvAuthPktFrom_ok_iff Memory.gibibyte reads).mp ⟨_, received⟩
  refine @Heard.of_received Memory.gibibyte _ _ _
    [0x00, 0x41, 0x00, 0x01, 0x00, 0x04, 0x01, 0x21] 1 (by decide +kernel)
    fun _ => ⟨fun _ => ?_, fun stays => absurd ⟨0x01, rfl, by decide⟩ stays⟩
  refine @Heard.of_received Memory.gibibyte _ _ _ [0x00, 0x41, 0x00, 0x01, 0x00, 0x00] 2
    (by decide +kernel) ⟨by decide, ?_⟩
  refine @Heard.of_received Memory.gibibyte _ _ _ (List.replicate 42 0) 3 (by decide +kernel)
    fun _ => ?_
  refine @Heard.of_received Memory.gibibyte _ _ _ (List.replicate 32 0) 4 (by decide +kernel) ?_
  show @ExchangeV2Fine Memory.gibibyte _
  refine @Heard.of_received Memory.gibibyte _ _ _ (List.replicate 10 0 ++ basePoint) 5
    (by decide +kernel) ⟨by decide +kernel, ?_, ?_, ?_⟩
  · exact quiet _ (some ([0x01, 0x00], 6)) (by decide +kernel)
  · exact quiet _ none rfl
  · exact quiet _ none rfl

/-- A whole exchange of v2. -/
theorem handshake_returns_iff_v2 :
    (∃ result after, gipAuthHandshake (@dialogueLink Memory.gibibyte) plainLibrary.host
      ⟨⟨[], dialogueV2⟩, 2⟩ = .ok (result, after)) ∧
    ∃ seqRef dev number before audioFormat powerOn,
      gipInit (@dialogueLink Memory.gibibyte) plainLibrary.host ⟨[], [] :: [] :: dialogueV2⟩ =
        .ok (seqRef, dev) ∧
      pktAudioFormat number = .ok audioFormat ∧
      pktPower (number + 1) gipPwrOn = .ok powerOn ∧
      dev.written = before ++ [audioFormat, powerOn] := by
  have handshake := (@handshake_returns_iff Memory.gibibyte _ _ _ plainLibrary plainLibrary_curve
    ⟨[], dialogueV2⟩).1
  have init := (@handshake_returns_iff Memory.gibibyte _ _ _ plainLibrary plainLibrary_curve
    ⟨[], [] :: [] :: dialogueV2⟩).2
  exact ⟨(handshake 2 (by decide)).mpr dialogueV2_fine, (init none [] rfl).mpr dialogueV2_fine⟩

/-- The device asks for v2, and answers the second hello with one byte. -/
def shortAnswer : Script where
  written := []
  waits := [
    [.data [0x06, 0x21, 0x01, 0x08, 0x00, 0x41, 0x00, 0x01, 0x00, 0x04, 0x01, 0x21]],
    [.data [0x06, 0x21, 0x02, 0x01, 0x00]]]

/-- The second byte of that response is read without a look at its length. -/
theorem not_handshake_returns :
    ¬ ∀ lib : Library Unit Unit Unit,
      (∀ x y, (∃ key, lib.publicKey x y = .ok key) ↔ OnP256 x y) →
      ∀ script, ∃ result after,
        gipAuthHandshake (@dialogueLink Memory.gibibyte) lib.host ⟨script, 2⟩ =
          .ok (result, after) := by
  intro all
  let _ := Memory.gibibyte
  obtain ⟨result, after, returned⟩ := all plainLibrary plainLibrary_curve shortAnswer
  rw [← Handshake.run_gipAuthHandshake] at returned
  have fine : DialogueFine plainLibrary shortAnswer.waits :=
    (ends_gipAuthHandshake plainLibrary_curve ⟨rfl, by decide⟩).mp ⟨result, after, returned⟩
  have first : payloadOf (shortAnswer.waits.headD []) =
      some [0x00, 0x41, 0x00, 0x01, 0x00, 0x04, 0x01, 0x21] := by decide +kernel
  have second : payloadOf (shortAnswer.waits.tail.headD []) = some [0x00] := by decide +kernel
  have upgrade := (fine.2 _ first (by decide)).1 ⟨0x01, rfl, by decide⟩
  exact absurd (upgrade.2 _ second).1 (by decide)

end Wolverine.Python
