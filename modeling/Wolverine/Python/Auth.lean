/-
**The authentication handshake of `gip_init.py`, and the counter it shares.**

`gip_auth_handshake` numbers every packet it sends from `seq_ref`, the counter that it shares with
the rest of the session. What the device answers, what the cryptography library computes and what
the receivers return are parameters (`Link`, `Host`); the handshake is the code between them.

* `sendCounted_advances` — the one way the counter moves: a send that returns adds one.
* `gipAuthHandshake_advances` — a handshake that returns, at whatever step, has sent at most nine
  numbered packets.
-/

import Wolverine.Base.Progress
import Wolverine.Python.Wire

namespace Wolverine.Python

open Wolverine.Progress

/-! ### Constants -/

namespace Auth

-- Contexts.
def ctxHandshake : Nat := 0x00
def ctxControl : Nat := 0x01

-- Handshake options.
def optAck : Nat := 0x01
def optRequest : Nat := 0x02
def optFromHost : Nat := 0x40

-- Commands of the RSA handshake.
def hostHello : Nat := 0x01
def clientHello : Nat := 0x02
def clientCert : Nat := 0x03
def hostSecret : Nat := 0x05
def hostFinish : Nat := 0x07
def clientFinish : Nat := 0x08

-- Sizes.
def trailerLen : Nat := 8
def randomLen : Nat := 32
def certMaxLen : Nat := 1024
def pmsLen : Nat := 48
def transcriptLen : Nat := 32

end Auth

-- The ECDH handshake.
namespace Auth2

def hostHello : Nat := 0x21
def clientHello : Nat := 0x22
def clientCert : Nat := 0x23
def clientPubkey : Nat := 0x24
def hostPubkey : Nat := 0x25
def hostFinish : Nat := 0x26
def clientFinish : Nat := 0x27
def pubkeyLen : Nat := 64

end Auth2

/-! ### Payload builders -/

/-- `struct.pack('>H', value)`. -/
def packBE16 (value : Nat) : Except PyError (List UInt8) :=
  if value < 65536 then .ok [UInt8.ofNat (value >>> 8), UInt8.ofNat value]
  else .error .structError

/-- The six-byte handshake header. -/
def authHsHdr (options cmd dataLen : Nat) : Except PyError (List UInt8) := do
  let head ← pyBytes [Auth.ctxHandshake, options, 0x00, cmd]
  return head ++ (← packBE16 dataLen)

/-- The four-byte data header. -/
def authDataHdr (cmd version payloadLen : Nat) : Except PyError (List UInt8) := do
  let head ← pyBytes [cmd, version]
  return head ++ (← packBE16 payloadLen)

/-- A host payload: handshake header, data header, body and trailer. -/
def authBuild (cmd version : Nat) (inner : List UInt8) : Except PyError (List UInt8) := do
  let dataHdr ← authDataHdr cmd version inner.length
  let hsHdr ← authHsHdr (Auth.optAck ||| Auth.optFromHost) cmd (dataHdr.length + inner.length)
  return hsHdr ++ dataHdr ++ inner ++ List.replicate Auth.trailerLen 0

def authHostHelloV1 (randomHost : List UInt8) : Except PyError (List UInt8) :=
  authBuild Auth.hostHello 0x01 (randomHost ++ List.replicate 8 0)

def authHostHelloV2 (randomHost : List UInt8) : Except PyError (List UInt8) :=
  authBuild Auth2.hostHello 0x02 (randomHost ++ List.replicate 4 0)

/-- A request: it tells the device to send its data. -/
def authRequest (cmd expectedPayloadLen : Nat) : Except PyError (List UInt8) := do
  let hsHdr ← authHsHdr (Auth.optRequest ||| Auth.optFromHost) cmd (expectedPayloadLen + 4)
  return hsHdr ++ List.replicate Auth.trailerLen 0

def authHostSecretV1 (encryptedPms : List UInt8) : Except PyError (List UInt8) :=
  authBuild Auth.hostSecret 0x01 encryptedPms

def authHostPubkeyV2 (pubkey : List UInt8) : Except PyError (List UInt8) :=
  authBuild Auth2.hostPubkey 0x02 pubkey

def authHostFinish (cmd : Nat) (transcriptHash : List UInt8) : Except PyError (List UInt8) :=
  authBuild cmd (if cmd ≥ 0x20 then 0x02 else 0x01) transcriptHash

def authComplete : Except PyError (List UInt8) := pyBytes [Auth.ctxControl, 0x00]

/-! ### The device and the host -/

/-- The driver's side of the device: the write call, and the receivers of the driver. -/
structure Link (Device : Type) where
  /-- `dev.write` on EP1; `false` stands for a `USBError`. -/
  write : List UInt8 → Device → Bool × Device
  /-- `gip_recv` -/
  gipRecv : Device → Option (List UInt8) × Device
  /-- `_drain_buffer`, with its timeout in milliseconds. -/
  drainBuffer : Nat → Device → Device
  /-- `_wait_for_gip_ack`, with its command. -/
  waitForGipAck : Nat → Device → Bool × Device
  /-- `_recv_auth_pkt`, with its timeout in seconds; its second result is never used. -/
  recvAuthPkt : Nat → Device → Except PyError (Option (List UInt8) × Device)
  /-- `_receive_identify_response`, with the sequence number of the host. -/
  receiveIdentifyResponse : Nat → Device → Except PyError (Option (List UInt8) × Device)

/-- What the host brings: its random numbers and its cryptography. -/
structure Host (Key : Type) where
  /-- `_CRYPTO_OK` -/
  cryptoOk : Bool
  /-- `os.urandom` for the v1 hello. -/
  randomHost : List UInt8
  /-- `os.urandom` for the v2 hello. -/
  randomHostV2 : List UInt8
  /-- `os.urandom` for the premaster secret. -/
  pms : List UInt8
  sha256 : List UInt8 → List UInt8
  authPrf : List UInt8 → String → List UInt8 → Nat → List UInt8
  authExtractRsaPubkey : List UInt8 → Option Key
  authRsaEncrypt : Key → List UInt8 → Except PyError (List UInt8)
  /-- The host public key and the secret. -/
  authEcdhExchange : List UInt8 → Except PyError (List UInt8 × List UInt8)

/-- The device, and the counter `seq_ref[0]`. -/
structure Session (Device : Type) where
  dev : Device
  seqRef : Nat

/-- An action of the driver: it may raise. -/
abbrev Py (Device : Type) := StateT (Session Device) (Except PyError)

section Handshake

variable {Device Key : Type} (link : Link Device) (host : Host Key)

/-! ### Sending and receiving -/

/-- A call to the device, which does not see the counter. -/
def onDev {Result : Type} (call : Device → Except PyError (Result × Device)) :
    Py Device Result := fun session =>
  match call session.dev with
  | .ok (result, dev) => .ok (result, { session with dev })
  | .error error => .error error

/-- `dev.write`, whose `USBError` is not caught. -/
def devWrite (packet : List UInt8) : Py Device Unit :=
  onDev fun dev =>
    match link.write packet dev with
    | (true, dev) => .ok ((), dev)
    | (false, _) => .error .usbError

/-- `gip_send`: the `USBError` is caught. -/
def gipSend (packet : List UInt8) : Py Device Bool := onDev fun dev => .ok (link.write packet dev)

def gipRecv : Py Device (Option (List UInt8)) := onDev fun dev => .ok (link.gipRecv dev)

def waitForGipAck (cmd : Nat) : Py Device Bool := onDev fun dev => .ok (link.waitForGipAck cmd dev)

def recvAuthPkt (timeoutSec : Nat) : Py Device (Option (List UInt8)) :=
  onDev (link.recvAuthPkt timeoutSec)

theorem devWrite_ok {packet : List UInt8} {session : Session Device} {dev : Device}
    (written : link.write packet session.dev = (true, dev)) :
    devWrite link packet session = .ok ((), { session with dev }) := by
  unfold devWrite onDev
  simp only [written]

theorem waitForGipAck_ok {cmd : Nat} {session : Session Device} {acked : Bool} {dev : Device}
    (waited : link.waitForGipAck cmd session.dev = (acked, dev)) :
    waitForGipAck link cmd session = .ok (acked, { session with dev }) := by
  unfold waitForGipAck onDev
  simp only [waited]

/-- A payload as a single non-chunked packet. -/
def gipAuthSend (opts : Nat) (authPayload : List UInt8) (seq : Nat) : Py Device Unit := do
  let packet ← buildPacket gipCmdAuthenticate opts seq authPayload
  devWrite link packet

/-- `_gip_auth_send_simple`: with a GIP ACK request. -/
def gipAuthSendSimple : List UInt8 → Nat → Py Device Unit :=
  gipAuthSend link (gipClientId ||| gipOptInternal ||| gipOptAck)

/-- `_gip_auth_send_no_ack` -/
def gipAuthSendNoAck : List UInt8 → Nat → Py Device Unit :=
  gipAuthSend link (gipClientId ||| gipOptInternal)

/-- The chunks after the first; an ACK timeout ends them early. -/
def gipAuthSendChunks (authPayload : List UInt8) (seq offset remaining : Nat) :
    Py Device Unit :=
  if remaining = 0 then pure ()
  else do
    let acked ← waitForGipAck link gipCmdAuthenticate
    if acked then do
      let chunkSize := min remaining gipPktMaxLen
      let isLast := chunkSize = remaining
      let opts := gipClientId ||| gipOptInternal ||| gipOptChunk ||| if isLast then gipOptAck else 0
      let hdr ← buildGipHeader gipCmdAuthenticate opts seq chunkSize (some offset)
      devWrite link (hdr ++ (authPayload.drop offset).take chunkSize)
      gipAuthSendChunks authPayload seq (offset + chunkSize) (remaining - chunkSize)
    else pure ()
termination_by remaining
decreasing_by
  unfold gipPktMaxLen
  omega

/-- A large payload in chunks, closed by an empty chunk. -/
def gipAuthSendChunked (authPayload : List UInt8) (seq : Nat) : Py Device Unit := do
  let total := authPayload.length
  let firstOpts := gipClientId ||| gipOptInternal ||| gipOptAck ||| gipOptChunkStart ||| gipOptChunk
  let firstHdr ← buildGipHeader gipCmdAuthenticate firstOpts seq gipPktMaxLen (some total)
  devWrite link (firstHdr ++ authPayload.take gipPktMaxLen)
  gipAuthSendChunks link authPayload seq gipPktMaxLen (total - gipPktMaxLen)
  let _ ← waitForGipAck link gipCmdAuthenticate
  let emptyOpts := gipClientId ||| gipOptInternal ||| gipOptChunk
  let emptyHdr ← buildGipHeader gipCmdAuthenticate emptyOpts seq 0 (some total)
  devWrite link emptyHdr

/-- Send with the current sequence number, then count it: `send(.., seq_ref[0])` and
`seq_ref[0] += 1`. -/
def sendCounted {Result : Type} (send : Nat → Py Device Result) : Py Device Unit := fun session =>
  match send session.seqRef session with
  | .ok (_, after) => .ok ((), { after with seqRef := after.seqRef + 1 })
  | .error error => .error error

/-! ### The handshake -/

/-- `transcript_sent`: the payload without its six-byte header and its trailer. -/
def transcriptSent (transcript authPayload : List UInt8) : List UInt8 :=
  let dataLen := authPayload.length - 6 - Auth.trailerLen
  transcript ++ (authPayload.drop 6).take dataLen

/-- `transcript_recv`: the payload without its six-byte header. -/
def transcriptRecv (transcript authPayload : List UInt8) : List UInt8 :=
  transcript ++ authPayload.drop 6

/-- Steps F to H: HOST_FINISH, the request for CLIENT_FINISH, AUTH COMPLETE. -/
def finishHandshake (transcript masterSecret : List UInt8) (finishCmd clientFinishCmd : Nat) :
    Py Device Bool := do
  let finishTranscript :=
    host.authPrf masterSecret "Host Finished" (host.sha256 transcript) Auth.transcriptLen
  let finishPkt ← authHostFinish finishCmd finishTranscript
  sendCounted (gipAuthSendSimple link finishPkt)
  let _ack ← recvAuthPkt link 4
  let req ← authRequest clientFinishCmd (Auth.transcriptLen + 32)
  sendCounted (gipAuthSendSimple link req)
  let cfData ← recvAuthPkt link 5
  match cfData with
  | none => pure false
  | some _ => do
    -- a transcript mismatch is only reported
    let completePkt ← authComplete
    sendCounted (gipAuthSendNoAck link completePkt)
    pure true

/-- The v2 key exchange, after the certificate. -/
def exchangeV2 (transcript randSeed : List UInt8) : Py Device Bool := do
  let req ← authRequest Auth2.clientPubkey (Auth2.pubkeyLen + 64)
  sendCounted (gipAuthSendSimple link req)
  let pkData ← recvAuthPkt link 5
  match pkData with
  | none => pure false
  | some pkData => do
    let transcript := transcriptRecv transcript pkData
    let (hostPubkey, ecdhSecret) ← host.authEcdhExchange ((pkData.drop 10).take Auth2.pubkeyLen)
    let masterSecret := host.authPrf ecdhSecret "Master Secret" randSeed Auth.pmsLen
    let hpkPkt ← authHostPubkeyV2 hostPubkey
    sendCounted (gipAuthSendSimple link hpkPkt)
    let transcript := transcriptSent transcript hpkPkt
    let _ack ← recvAuthPkt link 4
    finishHandshake link host transcript masterSecret Auth2.hostFinish Auth2.clientFinish

/-- The v1 key exchange, after the certificate. -/
def exchangeV1 (transcript randSeed certPayload : List UInt8) : Py Device Bool :=
  match host.authExtractRsaPubkey certPayload with
  | none => pure false
  | some pubkey => do
    let encryptedPms ← host.authRsaEncrypt pubkey host.pms
    let masterSecret := host.authPrf host.pms "Master Secret" randSeed Auth.pmsLen
    let secretPkt ← authHostSecretV1 encryptedPms
    sendCounted (gipAuthSendChunked link secretPkt)
    let transcript := transcriptSent transcript secretPkt
    let _ack ← recvAuthPkt link 4
    finishHandshake link host transcript masterSecret Auth.hostFinish Auth.clientFinish

/-- Steps C to E: request CLIENT_HELLO and CLIENT_CERTIFICATE, then exchange keys. -/
def requestClient (v2 : Bool) (transcript randomHost : List UInt8) : Py Device Bool := do
  let clientHelloCmd := if v2 then Auth2.clientHello else Auth.clientHello
  let clientHelloSize := if v2 then 32 + 108 + 32 else Auth.randomLen + 48
  let clientCertCmd := if v2 then Auth2.clientCert else Auth.clientCert
  let clientCertSize := if v2 then 768 else Auth.certMaxLen
  let req ← authRequest clientHelloCmd clientHelloSize
  sendCounted (gipAuthSendSimple link req)
  let chData ← recvAuthPkt link 5
  match chData with
  | none => pure false
  | some chData =>
    if chData.length < 10 + Auth.randomLen then pure false
    else do
      let randomClient := (chData.drop 10).take Auth.randomLen
      let transcript := transcriptRecv transcript chData
      let req ← authRequest clientCertCmd clientCertSize
      sendCounted (gipAuthSendSimple link req)
      let certData ← recvAuthPkt link 8
      match certData with
      | none => pure false
      | some certData =>
        let transcript := transcriptRecv transcript certData
        let randSeed := randomHost ++ randomClient
        if v2 then exchangeV2 link host transcript randSeed
        else exchangeV1 link host transcript randSeed (certData.drop 10)

/-- `gip_auth_handshake` -/
def gipAuthHandshake : Py Device Bool :=
  if host.cryptoOk = false then pure false
  else do
    let helloV1 ← authHostHelloV1 host.randomHost
    sendCounted (gipAuthSendSimple link helloV1)
    let authAck ← recvAuthPkt link 8
    match authAck with
    | none => pure false
    | some authAck =>
      if authAck.length < 6 then pure false
      else do
        let hsCmd ← pyIndex authAck 3
        let dataCmd := authAck.getD 7 hsCmd
        if hsCmd ≠ dataCmd then do
          -- the device asks for v2: hello again, with a fresh transcript
          let helloV2 ← authHostHelloV2 host.randomHostV2
          sendCounted (gipAuthSendSimple link helloV2)
          let authAck ← recvAuthPkt link 4
          match authAck with
          | none => pure false
          | some authAck => do
            let _hsOpts ← pyIndex authAck 1
            requestClient link host true (transcriptSent [] helloV2) host.randomHostV2
        else requestClient link host false (transcriptSent [] helloV1) host.randomHost

/-! ### The counter -/

theorem onDev_keeps {Result : Type} (call : Device → Except PyError (Result × Device)) :
    Advances Session.seqRef 0 0 (onDev call) := by
  intro session result next returned
  unfold onDev at returned
  split at returned
  · cases returned
    exact ⟨le_refl _, le_refl _⟩
  · cases returned

theorem gipAuthSend_keeps (opts : Nat) (authPayload : List UInt8) (seq : Nat) :
    Advances Session.seqRef 0 0 (gipAuthSend link opts authPayload seq) :=
  (advances_lift _).after fun _ => onDev_keeps _

theorem gipAuthSendChunks_keeps (authPayload : List UInt8) (seq offset remaining : Nat) :
    Advances Session.seqRef 0 0 (gipAuthSendChunks link authPayload seq offset remaining) := by
  induction offset, remaining using gipAuthSendChunks.induct with
  | case1 offset =>
    rw [gipAuthSendChunks, if_pos rfl]
    exact advances_pure ()
  | case2 offset remaining more ih =>
    rw [gipAuthSendChunks, if_neg more]
    refine (onDev_keeps _).after fun acked => ?_
    refine advances_ite ?_ (advances_pure ())
    refine (advances_lift _).after fun hdr => ?_
    exact (onDev_keeps _).after fun _ => ih

theorem gipAuthSendChunked_keeps (authPayload : List UInt8) (seq : Nat) :
    Advances Session.seqRef 0 0 (gipAuthSendChunked link authPayload seq) := by
  refine (advances_lift _).after fun firstHdr => ?_
  refine (onDev_keeps _).after fun _ => ?_
  refine (gipAuthSendChunks_keeps link _ _ _ _).after fun _ => ?_
  refine (onDev_keeps _).after fun _ => ?_
  refine (advances_lift _).after fun emptyHdr => ?_
  exact onDev_keeps _

/-- **The counter moves by one with each send that returns.** -/
theorem sendCounted_advances {Result : Type} {send : Nat → Py Device Result}
    (keeps : ∀ seq, Advances Session.seqRef 0 0 (send seq)) :
    Advances Session.seqRef 1 1 (sendCounted send) := by
  intro session result next returned
  unfold sendCounted at returned
  cases sent : send session.seqRef session with
  | error error =>
    rw [sent] at returned
    cases returned
  | ok pair =>
    rw [sent] at returned
    cases returned
    have same := keeps session.seqRef session pair.1 pair.2 sent
    exact ⟨by show _ ≤ _ + 1; omega, by show _ + 1 ≤ _; omega⟩

/-- A counted send, then the rest of the exchange. -/
theorem advances_sendCounted {Result Other : Type} {high : Nat} {send : Nat → Py Device Result}
    {rest : Unit → Py Device Other} (keeps : ∀ seq, Advances Session.seqRef 0 0 (send seq))
    (after : ∀ result, Advances Session.seqRef 0 high (rest result)) :
    Advances Session.seqRef 0 (high + 1) (sendCounted send >>= rest) :=
  ((sendCounted_advances keeps).bind after).mono (by decide) (by omega)

/-- An exchange that ends early has moved the counter less. -/
theorem advances_early {high : Nat} (result : Bool) :
    Advances Session.seqRef 0 high (pure result : Py Device Bool) :=
  (advances_pure result).mono le_rfl (Nat.zero_le high)

theorem finishHandshake_advances (transcript masterSecret : List UInt8)
    (finishCmd clientFinishCmd : Nat) :
    Advances Session.seqRef 0 3
      (finishHandshake link host transcript masterSecret finishCmd clientFinishCmd) := by
  refine (advances_lift _).after fun finishPkt => ?_
  refine advances_sendCounted (gipAuthSend_keeps link _ finishPkt) fun _ => ?_
  refine (onDev_keeps _).after fun _ => ?_
  refine (advances_lift _).after fun req => ?_
  refine advances_sendCounted (gipAuthSend_keeps link _ req) fun _ => ?_
  refine (onDev_keeps _).after fun cfData => ?_
  cases cfData with
  | none => exact advances_early false
  | some cfData =>
    refine (advances_lift _).after fun completePkt => ?_
    exact advances_sendCounted (gipAuthSend_keeps link _ completePkt) fun _ => advances_pure true

theorem exchangeV2_advances (transcript randSeed : List UInt8) :
    Advances Session.seqRef 0 5 (exchangeV2 link host transcript randSeed) := by
  refine (advances_lift _).after fun req => ?_
  refine advances_sendCounted (gipAuthSend_keeps link _ req) fun _ => ?_
  refine (onDev_keeps _).after fun pkData => ?_
  cases pkData with
  | none => exact advances_early false
  | some pkData =>
    refine (advances_lift _).after fun keys => ?_
    refine (advances_lift _).after fun hpkPkt => ?_
    refine advances_sendCounted (gipAuthSend_keeps link _ hpkPkt) fun _ => ?_
    refine (onDev_keeps _).after fun _ => ?_
    exact finishHandshake_advances link host _ _ _ _

theorem exchangeV1_advances (transcript randSeed certPayload : List UInt8) :
    Advances Session.seqRef 0 4 (exchangeV1 link host transcript randSeed certPayload) := by
  unfold exchangeV1
  cases host.authExtractRsaPubkey certPayload with
  | none => exact advances_early false
  | some pubkey =>
    refine (advances_lift _).after fun encryptedPms => ?_
    refine (advances_lift _).after fun secretPkt => ?_
    refine advances_sendCounted (gipAuthSendChunked_keeps link secretPkt) fun _ => ?_
    refine (onDev_keeps _).after fun _ => ?_
    exact finishHandshake_advances link host _ _ _ _

theorem requestClient_advances (v2 : Bool) (transcript randomHost : List UInt8) :
    Advances Session.seqRef 0 7 (requestClient link host v2 transcript randomHost) := by
  refine (advances_lift _).after fun req => ?_
  refine advances_sendCounted (gipAuthSend_keeps link _ req) fun _ => ?_
  refine (onDev_keeps _).after fun chData => ?_
  cases chData with
  | none => exact advances_early false
  | some chData =>
    refine advances_ite (advances_early false) ?_
    refine (advances_lift _).after fun req => ?_
    refine advances_sendCounted (gipAuthSend_keeps link _ req) fun _ => ?_
    refine (onDev_keeps _).after fun certData => ?_
    cases certData with
    | none => exact advances_early false
    | some certData =>
      refine advances_ite (exchangeV2_advances link host _ _) ?_
      exact (exchangeV1_advances link host _ _ _).mono le_rfl (by decide)

/-- **A handshake that returns has counted at most nine packets**: two hellos, two requests, the
five of the ECDH exchange. -/
theorem gipAuthHandshake_advances :
    Advances Session.seqRef 0 9 (gipAuthHandshake link host) := by
  refine advances_ite (advances_early false) ?_
  refine (advances_lift _).after fun helloV1 => ?_
  refine advances_sendCounted (gipAuthSend_keeps link _ helloV1) fun _ => ?_
  refine (onDev_keeps _).after fun authAck => ?_
  cases authAck with
  | none => exact advances_early false
  | some authAck =>
    refine advances_ite (advances_early false) ?_
    refine (advances_lift _).after fun hsCmd => ?_
    refine advances_ite ?_ ?_
    · refine (advances_lift _).after fun helloV2 => ?_
      refine advances_sendCounted (gipAuthSend_keeps link _ helloV2) fun _ => ?_
      refine (onDev_keeps _).after fun authAck => ?_
      cases authAck with
      | none => exact advances_early false
      | some authAck =>
        refine (advances_lift _).after fun hsOpts => ?_
        exact requestClient_advances link host true _ _
    · exact (requestClient_advances link host false _ _).mono le_rfl (by decide)

end Handshake

end Wolverine.Python
