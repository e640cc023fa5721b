/-
**The transcript of the handshake.**

`gip_auth_handshake` as a program of calls: what it sends, what it waits for, and what it asks of
the hash and of the pseudorandom function, with the part that the session of `gip_init` has no use for,
the finish value that it expects of the device. The hash object of `_AuthState` is the string of the
bytes that it was fed.

* `run_gipAuthHandshake` — with the link of the session as its environment, the program is the
  handshake of the session.
* `authBuild_ok`, `authBuild_ok_iff` — what the builder of the payloads returns, and when.
* `transcriptSent_bytes` — what a payload of the builders adds to the transcript, whatever the
  length of its body.
* `Exchanged` — the exchanges that lead to the finish, as lists of calls, with the transcript of
  their messages; `reaches_finish`: there are no others.
* `handshake_transcript` — what is hashed for the two finish values.
-/

import Wolverine.Base.Program
import Wolverine.Python.Crypto

namespace Wolverine.Python.Handshake

open Machine (bind_of_ok error_not_ok ok_of_bind)
open Program

/-! ### The program -/

/-- How a payload is sent. -/
inductive Sending
  | simple
  | noAck
  | chunked

/-- What the handshake asks for. -/
inductive Call
  | send (how : Sending) (authPayload : List UInt8)
  /-- `_recv_auth_pkt`, with its timeout in seconds. -/
  | recv (timeoutSec : Nat)
  /-- The digest of the bytes that the hash object was fed. -/
  | digest (fed : List UInt8)
  | authPrf (key : List UInt8) (label : String) (seed : List UInt8) (length : Nat)
  /-- Whether the finish value of the device is the expected one is only printed. -/
  | report (verified : Bool)

@[reducible] def Answer : Call → Type
  | .send _ _ => Unit
  | .recv _ => Option (List UInt8)
  | .digest _ => List UInt8
  | .authPrf _ _ _ _ => List UInt8
  | .report _ => Unit

/-- What the handshake may do. -/
abbrev Talk := Program Call Answer PyError

abbrev send (how : Sending) (authPayload : List UInt8) : Talk Unit :=
  request (Call.send how authPayload)
abbrev recv (timeoutSec : Nat) : Talk (Option (List UInt8)) := request (Call.recv timeoutSec)
abbrev digest (fed : List UInt8) : Talk (List UInt8) := request (Call.digest fed)
abbrev authPrf (key : List UInt8) (label : String) (seed : List UInt8) (length : Nat) :
    Talk (List UInt8) := request (Call.authPrf key label seed length)
abbrev report (verified : Bool) : Talk Unit := request (Call.report verified)

section Program

variable {Key : Type} (host : Host Key)

/-- Steps F to H. -/
def finish (transcript masterSecret : List UInt8) (finishCmd clientFinishCmd : Nat) :
    Talk Bool := do
  let transcriptHash ← digest transcript
  let finishTranscript ← authPrf masterSecret "Host Finished" transcriptHash Auth.transcriptLen
  let finishPkt ← ofExcept (authHostFinish finishCmd finishTranscript)
  send .simple finishPkt
  let transcript := transcriptSent transcript finishPkt
  let _ack ← recv 4
  let req ← ofExcept (authRequest clientFinishCmd (Auth.transcriptLen + 32))
  send .simple req
  let cfData ← recv 5
  match cfData with
  | none => pure false
  | some cfData => do
    -- the transcript now includes HOST_FINISH
    let transcriptHash2 ← digest transcript
    let expectedFinish ← authPrf masterSecret "Device Finished" transcriptHash2 Auth.transcriptLen
    let clientTranscript := (cfData.drop 10).take Auth.transcriptLen
    report (clientTranscript == expectedFinish)
    let completePkt ← ofExcept authComplete
    send .noAck completePkt
    pure true

/-- The v2 key exchange, after the certificate. -/
def exchangeV2 (transcript randSeed : List UInt8) : Talk Bool := do
  let req ← ofExcept (authRequest Auth2.clientPubkey (Auth2.pubkeyLen + 64))
  send .simple req
  let pkData ← recv 5
  match pkData with
  | none => pure false
  | some pkData => do
    let transcript := transcriptRecv transcript pkData
    let clientPubkeyBytes := (pkData.drop 10).take Auth2.pubkeyLen
    let (hostPubkey, ecdhSecret) ← ofExcept (host.authEcdhExchange clientPubkeyBytes)
    let masterSecret ← authPrf ecdhSecret "Master Secret" randSeed Auth.pmsLen
    let hpkPkt ← ofExcept (authHostPubkeyV2 hostPubkey)
    send .simple hpkPkt
    let transcript := transcriptSent transcript hpkPkt
    let _ack ← recv 4
    finish transcript masterSecret Auth2.hostFinish Auth2.clientFinish

/-- The v1 key exchange, after the certificate. -/
def exchangeV1 (transcript randSeed certPayload : List UInt8) : Talk Bool :=
  match host.authExtractRsaPubkey certPayload with
  | none => pure false
  | some pubkey => do
    let encryptedPms ← ofExcept (host.authRsaEncrypt pubkey host.pms)
    let masterSecret ← authPrf host.pms "Master Secret" randSeed Auth.pmsLen
    let secretPkt ← ofExcept (authHostSecretV1 encryptedPms)
    send .chunked secretPkt
    let transcript := transcriptSent transcript secretPkt
    let _ack ← recv 4
    finish transcript masterSecret Auth.hostFinish Auth.clientFinish

def clientHelloCmd (v2 : Bool) : Nat := if v2 then Auth2.clientHello else Auth.clientHello
def clientHelloSize (v2 : Bool) : Nat := if v2 then 32 + 108 + 32 else Auth.randomLen + 48
def clientCertCmd (v2 : Bool) : Nat := if v2 then Auth2.clientCert else Auth.clientCert
def clientCertSize (v2 : Bool) : Nat := if v2 then 768 else Auth.certMaxLen

/-- Steps C to E, then the exchange of keys. -/
def requestClient (v2 : Bool) (transcript randomHost : List UInt8) : Talk Bool := do
  let req ← ofExcept (authRequest (clientHelloCmd v2) (clientHelloSize v2))
  send .simple req
  let chData ← recv 5
  match chData with
  | none => pure false
  | some chData =>
    if chData.length < 10 + Auth.randomLen then pure false
    else do
      let randomClient := (chData.drop 10).take Auth.randomLen
      let transcript := transcriptRecv transcript chData
      let req ← ofExcept (authRequest (clientCertCmd v2) (clientCertSize v2))
      send .simple req
      let certData ← recv 8
      match certData with
      | none => pure false
      | some certData =>
        let transcript := transcriptRecv transcript certData
        let randSeed := randomHost ++ randomClient
        if v2 then exchangeV2 host transcript randSeed
        else exchangeV1 host transcript randSeed (certData.drop 10)

/-- `gip_auth_handshake` -/
def gipAuthHandshake : Talk Bool :=
  if host.cryptoOk = false then pure false
  else do
    let helloV1 ← ofExcept (authHostHelloV1 host.randomHost)
    send .simple helloV1
    let authAck ← recv 8
    match authAck with
    | none => pure false
    | some authAck =>
      if authAck.length < 6 then pure false
      else do
        let hsCmd ← ofExcept (pyIndex authAck 3)
        let dataCmd := authAck.getD 7 hsCmd
        if hsCmd ≠ dataCmd then do
          -- v2: the transcript starts afresh
          let helloV2 ← ofExcept (authHostHelloV2 host.randomHostV2)
          send .simple helloV2
          let authAck ← recv 4
          match authAck with
          | none => pure false
          | some authAck => do
            let _hsOpts ← ofExcept (pyIndex authAck 1)
            requestClient host true (transcriptSent [] helloV2) host.randomHostV2
        else requestClient host false (transcriptSent [] helloV1) host.randomHost

end Program

/-! ### The handshake of the session -/

section Session

variable {Device Key : Type} (link : Link Device) (host : Host Key)

/-- The session answers the calls: it counts what it sends. -/
def answer : (asked : Call) → Py Device (Answer asked)
  | .send .simple authPayload => sendCounted (gipAuthSendSimple link authPayload)
  | .send .noAck authPayload => sendCounted (gipAuthSendNoAck link authPayload)
  | .send .chunked authPayload => sendCounted (gipAuthSendChunked link authPayload)
  | .recv timeoutSec => recvAuthPkt link timeoutSec
  | .digest fed => pure (host.sha256 fed)
  | .authPrf key label seed length => pure (host.authPrf key label seed length)
  | .report _ => pure ()

theorem run_finish (transcript masterSecret : List UInt8) (finishCmd clientFinishCmd : Nat) :
    run (answer link host) (finish transcript masterSecret finishCmd clientFinishCmd) =
      finishHandshake link host transcript masterSecret finishCmd clientFinishCmd := by
  simp only [finish, finishHandshake, run_bind, run_request, run_ofExcept, answer, pure_bind]
  refine bind_congr fun finishPkt => bind_congr fun _ => bind_congr fun _ => bind_congr fun req =>
    bind_congr fun _ => bind_congr fun cfData => ?_
  cases cfData with
  | none => rfl
  | some cfData =>
    simp only [run_bind, run_request, run_ofExcept, answer, pure_bind]
    rfl

theorem run_exchangeV2 (transcript randSeed : List UInt8) :
    run (answer link host) (exchangeV2 host transcript randSeed) =
      Python.exchangeV2 link host transcript randSeed := by
  simp only [exchangeV2, Python.exchangeV2, run_bind, run_request, run_ofExcept, answer]
  refine bind_congr fun req => bind_congr fun _ => bind_congr fun pkData => ?_
  cases pkData with
  | none => rfl
  | some pkData =>
    simp only [run_bind, run_request, run_ofExcept, answer, pure_bind]
    refine bind_congr fun keys => bind_congr fun hpkPkt => bind_congr fun _ =>
      bind_congr fun _ => ?_
    exact run_finish link host _ _ _ _

theorem run_exchangeV1 (transcript randSeed certPayload : List UInt8) :
    run (answer link host) (exchangeV1 host transcript randSeed certPayload) =
      Python.exchangeV1 link host transcript randSeed certPayload := by
  unfold exchangeV1 Python.exchangeV1
  cases host.authExtractRsaPubkey certPayload with
  | none => rfl
  | some pubkey =>
    simp only [run_bind, run_request, run_ofExcept, answer, pure_bind]
    refine bind_congr fun encryptedPms => bind_congr fun secretPkt => bind_congr fun _ =>
      bind_congr fun _ => ?_
    exact run_finish link host _ _ _ _

theorem run_requestClient (v2 : Bool) (transcript randomHost : List UInt8) :
    run (answer link host) (requestClient host v2 transcript randomHost) =
      Python.requestClient link host v2 transcript randomHost := by
  simp only [requestClient, Python.requestClient, run_bind, run_request, run_ofExcept, answer]
  refine bind_congr fun req => bind_congr fun _ => bind_congr fun chData => ?_
  cases chData with
  | none => rfl
  | some chData =>
    dsimp only
    split
    · rfl
    · simp only [run_bind, run_request, run_ofExcept, answer]
      refine bind_congr fun req => bind_congr fun _ => bind_congr fun certData => ?_
      cases certData with
      | none => rfl
      | some certData =>
        cases v2
        · exact run_exchangeV1 link host _ _ _
        · exact run_exchangeV2 link host _ _

/-- **The program is the handshake of the session.** -/
theorem run_gipAuthHandshake :
    run (answer link host) (gipAuthHandshake host) = Python.gipAuthHandshake link host := by
  unfold gipAuthHandshake Python.gipAuthHandshake
  split
  · rfl
  · simp only [run_bind, run_request, run_ofExcept, answer]
    refine bind_congr fun helloV1 => bind_congr fun _ => bind_congr fun authAck => ?_
    cases authAck with
    | none => rfl
    | some authAck =>
      dsimp only
      split
      · rfl
      · simp only [run_bind, run_ofExcept]
        refine bind_congr fun hsCmd => ?_
        split
        · simp only [run_bind, run_request, run_ofExcept, answer]
          refine bind_congr fun helloV2 => bind_congr fun _ => bind_congr fun authAck => ?_
          cases authAck with
          | none => rfl
          | some authAck =>
            simp only [run_bind, run_ofExcept, run_requestClient]
        · exact run_requestClient link host _ _ _

end Session

/-! ### What a host payload adds -/

/-- A host payload: handshake header, data header and body; the trailer follows. -/
structure HostPayload where
  hsHdr : Bytes 6
  dataHdr : Bytes 4
  body : List UInt8

namespace HostPayload

/-- The payload as it is sent. -/
def bytes (payload : HostPayload) : List UInt8 :=
  payload.hsHdr.val ++ payload.dataHdr.val ++ payload.body ++ List.replicate Auth.trailerLen 0

/-- The payload without its handshake header and its trailer. -/
def data (payload : HostPayload) : List UInt8 := payload.dataHdr.val ++ payload.body

/-- The builder makes the payload for a command, a version and a body. -/
structure IsOf (payload : HostPayload) (cmd version : Nat) (inner : List UInt8) : Prop where
  built : authBuild cmd version inner = .ok payload.bytes
  dataHdr : authDataHdr cmd version inner.length = .ok payload.dataHdr.val
  body : payload.body = inner

end HostPayload

/-- Both headers are some bytes and a length. -/
theorem length_header {values : List Nat} {value : Nat} {hdr : List UInt8}
    (built : (do let head ← pyBytes values; return head ++ (← packBE16 value)) = .ok hdr) :
    hdr.length = values.length + 2 := by
  obtain ⟨head, front, built⟩ := ok_of_bind built
  obtain ⟨packed, back, built⟩ := ok_of_bind built
  cases built
  unfold pyBytes at front
  unfold packBE16 at back
  split at front <;> cases front
  split at back <;> cases back
  rw [List.length_append, List.length_map]
  rfl

/-- What the builder returns is a host payload. -/
theorem authBuild_ok {cmd version : Nat} {inner bytes : List UInt8}
    (ok : authBuild cmd version inner = .ok bytes) :
    ∃ payload : HostPayload, payload.bytes = bytes ∧ payload.IsOf cmd version inner := by
  obtain ⟨dataHdr, first, rest⟩ := ok_of_bind ok
  obtain ⟨hsHdr, second, returned⟩ := ok_of_bind rest
  cases returned
  exact ⟨⟨⟨hsHdr, length_header second⟩, ⟨dataHdr, length_header first⟩, inner⟩, rfl, ok, first,
    rfl⟩

theorem packBE16_ok_iff {value : Nat} :
    (∃ packed, packBE16 value = .ok packed) ↔ value < 65536 := by
  unfold packBE16
  by_cases small : value < 65536
  · rw [if_pos small]
    exact iff_of_true ⟨_, rfl⟩ small
  · rw [if_neg small]
    exact iff_of_false error_not_ok small

/-- Both headers are built exactly when their length fits its field. -/
theorem header_ok_iff {values : List Nat} (small : ∀ value ∈ values, value < 256) (value : Nat) :
    (∃ hdr, (do let head ← pyBytes values; return head ++ (← packBE16 value)) = .ok hdr) ↔
      value < 65536 := by
  rw [← packBE16_ok_iff]
  refine ⟨fun ⟨hdr, built⟩ => ?_, fun ⟨packed, back⟩ =>
    ⟨_, (bind_of_ok (pyBytes_ok small) _).trans (bind_of_ok back _)⟩⟩
  obtain ⟨_, -, built⟩ := ok_of_bind built
  obtain ⟨packed, back, -⟩ := ok_of_bind built
  exact ⟨packed, back⟩

/-- **A host payload is built exactly when its length fits its field.** -/
theorem authBuild_ok_iff {cmd version : Nat} (cmdByte : cmd < 256) (versionByte : version < 256)
    (inner : List UInt8) :
    (∃ payload, authBuild cmd version inner = .ok payload) ↔ inner.length + 4 < 65536 := by
  have front : ∀ value ∈ [cmd, version], value < 256 := by simp [cmdByte, versionByte]
  have context : ∀ value ∈ [Auth.ctxHandshake, Auth.optAck ||| Auth.optFromHost, 0x00, cmd],
      value < 256 := by simp [cmdByte, Auth.ctxHandshake, Auth.optAck, Auth.optFromHost]
  refine ⟨fun ⟨payload, built⟩ => ?_, fun small => ?_⟩
  · obtain ⟨dataHdr, first, built⟩ := ok_of_bind built
    obtain ⟨hsHdr, second, -⟩ := ok_of_bind built
    have four : dataHdr.length = 4 := length_header first
    have fits := (header_ok_iff context _).mp ⟨hsHdr, second⟩
    omega
  · obtain ⟨dataHdr, first⟩ := (header_ok_iff front inner.length).mpr (by omega)
    have four : dataHdr.length = 4 := length_header first
    obtain ⟨hsHdr, second⟩ := (header_ok_iff context (dataHdr.length + inner.length)).mpr (by omega)
    exact ⟨_, (bind_of_ok first _).trans (bind_of_ok second _)⟩

theorem authRequest_ok {cmd size : Nat} (cmdByte : cmd < 256) (small : size + 4 < 65536) :
    ∃ req, authRequest cmd size = .ok req := by
  have context : ∀ value ∈ [Auth.ctxHandshake, Auth.optRequest ||| Auth.optFromHost, 0x00, cmd],
      value < 256 := by simp [cmdByte, Auth.ctxHandshake, Auth.optRequest, Auth.optFromHost]
  obtain ⟨hsHdr, built⟩ := (header_ok_iff context (size + 4)).mpr small
  exact ⟨_, bind_of_ok built _⟩

theorem length_bytes (payload : HostPayload) :
    payload.bytes.length = payload.body.length + 18 := by
  have six := payload.hsHdr.property
  have four := payload.dataHdr.property
  simp only [HostPayload.bytes, List.length_append, List.length_replicate, six, four,
    Auth.trailerLen]
  omega

/-- **A host payload adds its data header and its body**, of any length. -/
theorem transcriptSent_bytes (transcript : List UInt8) (payload : HostPayload) :
    transcriptSent transcript payload.bytes = transcript ++ payload.data := by
  have six := payload.hsHdr.property
  have length : payload.bytes.length - 6 - Auth.trailerLen = payload.data.length := by
    simp only [HostPayload.bytes, HostPayload.data, List.length_append, List.length_replicate]
    omega
  have behind : payload.bytes.drop 6 = payload.data ++ List.replicate Auth.trailerLen 0 := by
    simp only [HostPayload.bytes, HostPayload.data, List.append_assoc]
    exact List.drop_left' six
  rw [transcriptSent, length, behind, List.take_left]

/-! ### The exchanges -/

abbrev sent (how : Sending) (authPayload : List UInt8) : Event Answer := ⟨.send how authPayload, ()⟩
abbrev heard (timeoutSec : Nat) (answer : Option (List UInt8)) : Event Answer :=
  ⟨.recv timeoutSec, answer⟩

/-- The response asks for v2: its data header has another command than its handshake header. -/
def AsksV2 (authAck : List UInt8) : Prop :=
  ∃ hsCmd, authAck[3]? = some hsCmd ∧ hsCmd ≠ authAck.getD 7 hsCmd

section Transcript

variable {Key : Type} (host : Host Key)

/-- The exchange of the two hellos, the certificate and the keys: whether it is the one of v2, what
is called, and the transcript of its messages. -/
inductive Exchanged : Bool → List (Event Answer) → List UInt8 → Prop
  | v1 {hello secret : HostPayload} {askHello askCert ack clientHello clientCert encryptedPms :
      List UInt8} {pubkey : Key} (masterSecret : List UInt8) (secretAck : Option (List UInt8))
      (isHello : hello.IsOf Auth.hostHello 0x01 (host.randomHost ++ List.replicate 8 0))
      (stays : ¬ AsksV2 ack)
      (asksHello : authRequest Auth.clientHello (Auth.randomLen + 48) = .ok askHello)
      (asksCert : authRequest Auth.clientCert Auth.certMaxLen = .ok askCert)
      (extracts : host.authExtractRsaPubkey (clientCert.drop 10) = some pubkey)
      (encrypts : host.authRsaEncrypt pubkey host.pms = .ok encryptedPms)
      (isSecret : secret.IsOf Auth.hostSecret 0x01 encryptedPms) :
      Exchanged false
        [sent .simple hello.bytes, heard 8 (some ack),
          sent .simple askHello, heard 5 (some clientHello),
          sent .simple askCert, heard 8 (some clientCert),
          ⟨.authPrf host.pms "Master Secret"
            (host.randomHost ++ (clientHello.drop 10).take Auth.randomLen) Auth.pmsLen,
            masterSecret⟩,
          sent .chunked secret.bytes, heard 4 secretAck]
        (hello.data ++ clientHello.drop 6 ++ clientCert.drop 6 ++ secret.data)
  | v2 {abandoned hello hostPubkey : HostPayload} {askHello askCert askPubkey ack
      clientHello clientCert clientPubkey pubkey ecdhSecret : List UInt8}
      (helloAck masterSecret : List UInt8) (pubkeyAck : Option (List UInt8))
      (isAbandoned : abandoned.IsOf Auth.hostHello 0x01 (host.randomHost ++ List.replicate 8 0))
      (upgrades : AsksV2 ack)
      (isHello : hello.IsOf Auth2.hostHello 0x02 (host.randomHostV2 ++ List.replicate 4 0))
      (asksHello : authRequest Auth2.clientHello (32 + 108 + 32) = .ok askHello)
      (asksCert : authRequest Auth2.clientCert 768 = .ok askCert)
      (asksPubkey : authRequest Auth2.clientPubkey (Auth2.pubkeyLen + 64) = .ok askPubkey)
      (exchanges : host.authEcdhExchange ((clientPubkey.drop 10).take Auth2.pubkeyLen) =
        .ok (pubkey, ecdhSecret))
      (isPubkey : hostPubkey.IsOf Auth2.hostPubkey 0x02 pubkey) :
      Exchanged true
        [sent .simple abandoned.bytes, heard 8 (some ack),
          sent .simple hello.bytes, heard 4 (some helloAck),
          sent .simple askHello, heard 5 (some clientHello),
          sent .simple askCert, heard 8 (some clientCert),
          sent .simple askPubkey, heard 5 (some clientPubkey),
          ⟨.authPrf ecdhSecret "Master Secret"
            (host.randomHostV2 ++ (clientHello.drop 10).take Auth.randomLen) Auth.pmsLen,
            masterSecret⟩,
          sent .simple hostPubkey.bytes, heard 4 pubkeyAck]
        (hello.data ++ clientHello.drop 6 ++ clientCert.drop 6 ++
          (clientPubkey.drop 6 ++ hostPubkey.data))

def finishCmd (v2 : Bool) : Nat := if v2 then Auth2.hostFinish else Auth.hostFinish
def clientFinishCmd (v2 : Bool) : Nat := if v2 then Auth2.clientFinish else Auth.clientFinish

/-- A call for a finish value. -/
def Call.finishes : Call → Bool
  | .authPrf _ label _ _ => label ≠ "Master Secret"
  | _ => false

variable {host} {asked : Call} {trace : List (Event Answer)}

/-- A call for a finish value lies behind any other call. -/
theorem reaches_behind {first : Call} {Result : Type} {rest : Answer first → Talk Result}
    (reaches : Reaches (request first >>= rest) trace asked) (finishes : asked.finishes = true)
    (other : first.finishes = false) :
    ∃ answer later, trace = ⟨first, answer⟩ :: later ∧ Reaches (rest answer) later asked :=
  reaches.behind fun same => absurd (same ▸ finishes) (by rw [other]; decide)

/-- It lies behind the response where a timeout ends the handshake. -/
theorem reaches_heard {timeoutSec : Nat} {rest : List UInt8 → Talk Bool}
    (reaches : Reaches (recv timeoutSec >>= fun answer =>
      match answer with
      | none => pure false
      | some payload => rest payload) trace asked) (finishes : asked.finishes = true) :
    ∃ payload later, trace = heard timeoutSec (some payload) :: later ∧
      Reaches (rest payload) later asked := by
  obtain ⟨answer, later, cut, reaches⟩ := reaches_behind reaches finishes rfl
  cases answer with
  | none => exact absurd reaches not_reaches_done
  | some payload => exact ⟨payload, later, cut, reaches⟩

/-- The two finish values. -/
theorem reaches_of_finish {transcript masterSecret : List UInt8} {finishCmd clientFinishCmd : Nat}
    (reaches : Reaches (finish transcript masterSecret finishCmd clientFinishCmd) trace asked)
    (finishes : asked.finishes = true) :
    ∃ hash, (trace = [⟨.digest transcript, hash⟩] ∧
        asked = .authPrf masterSecret "Host Finished" hash Auth.transcriptLen) ∨
      ∃ value ask ack clientFinish hash2, ∃ payload : HostPayload,
        payload.IsOf finishCmd (if finishCmd ≥ 0x20 then 0x02 else 0x01) value ∧
        authRequest clientFinishCmd (Auth.transcriptLen + 32) = .ok ask ∧
        trace = [⟨.digest transcript, hash⟩,
          ⟨.authPrf masterSecret "Host Finished" hash Auth.transcriptLen, value⟩,
          sent .simple payload.bytes, heard 4 ack, sent .simple ask, heard 5 (some clientFinish),
          ⟨.digest (transcript ++ payload.data), hash2⟩] ∧
        asked = .authPrf masterSecret "Device Finished" hash2 Auth.transcriptLen := by
  obtain ⟨hash, later, cut, reaches⟩ := reaches_behind reaches finishes rfl
  refine ⟨hash, ?_⟩
  rcases Reaches.call reaches with ⟨end_, same⟩ | ⟨value, later, cut, reaches⟩
  · rw [cut, end_]
    exact .inl ⟨rfl, same⟩
  obtain ⟨bytes, built, reaches⟩ := Reaches.ofExcept reaches
  obtain ⟨payload, whole, isOf⟩ := authBuild_ok built
  obtain ⟨_, later, cut, reaches⟩ := reaches_behind reaches finishes rfl
  obtain ⟨ack, later, cut, reaches⟩ := reaches_behind reaches finishes rfl
  obtain ⟨ask, asks, reaches⟩ := Reaches.ofExcept reaches
  obtain ⟨_, later, cut, reaches⟩ := reaches_behind reaches finishes rfl
  obtain ⟨clientFinish, later, cut, reaches⟩ := reaches_heard reaches finishes
  obtain ⟨hash2, later, cut, reaches⟩ := reaches_behind reaches finishes rfl
  rcases Reaches.call reaches with ⟨end_, same⟩ | ⟨expected, later, cut, reaches⟩
  · refine .inr ⟨value, ask, ack, clientFinish, hash2, payload, isOf, asks, ?_, same⟩
    subst_vars
    rw [transcriptSent_bytes]
  -- behind the second finish value there is none
  obtain ⟨_, later, cut, reaches⟩ := reaches_behind reaches finishes rfl
  obtain ⟨complete, _, reaches⟩ := Reaches.ofExcept reaches
  obtain ⟨_, later, cut, reaches⟩ := reaches_behind reaches finishes rfl
  exact absurd reaches not_reaches_done

theorem reaches_of_exchangeV2 {transcript randSeed : List UInt8}
    (reaches : Reaches (exchangeV2 host transcript randSeed) trace asked)
    (finishes : asked.finishes = true) :
    ∃ askPubkey clientPubkey pubkey ecdhSecret masterSecret pubkeyAck later,
      ∃ hostPubkey : HostPayload,
      authRequest Auth2.clientPubkey (Auth2.pubkeyLen + 64) = .ok askPubkey ∧
      host.authEcdhExchange ((clientPubkey.drop 10).take Auth2.pubkeyLen) =
        .ok (pubkey, ecdhSecret) ∧
      hostPubkey.IsOf Auth2.hostPubkey 0x02 pubkey ∧
      trace = [sent .simple askPubkey, heard 5 (some clientPubkey),
        ⟨.authPrf ecdhSecret "Master Secret" randSeed Auth.pmsLen, masterSecret⟩,
        sent .simple hostPubkey.bytes, heard 4 pubkeyAck] ++ later ∧
      Reaches (finish (transcript ++ clientPubkey.drop 6 ++ hostPubkey.data) masterSecret
        Auth2.hostFinish Auth2.clientFinish) later asked := by
  obtain ⟨askPubkey, asks, reaches⟩ := Reaches.ofExcept reaches
  obtain ⟨_, later, cut, reaches⟩ := reaches_behind reaches finishes rfl
  obtain ⟨clientPubkey, later, cut, reaches⟩ := reaches_heard reaches finishes
  obtain ⟨⟨pubkey, ecdhSecret⟩, exchanges, reaches⟩ := Reaches.ofExcept reaches
  obtain ⟨masterSecret, later, cut, reaches⟩ := reaches_behind reaches finishes rfl
  obtain ⟨bytes, built, reaches⟩ := Reaches.ofExcept reaches
  obtain ⟨hostPubkey, whole, isOf⟩ := authBuild_ok built
  obtain ⟨_, later, cut, reaches⟩ := reaches_behind reaches finishes rfl
  obtain ⟨pubkeyAck, later, cut, reaches⟩ := reaches_behind reaches finishes rfl
  rw [← whole, transcriptSent_bytes] at reaches
  refine ⟨askPubkey, clientPubkey, pubkey, ecdhSecret, masterSecret, pubkeyAck, later,
    hostPubkey, asks, exchanges, isOf, ?_, reaches⟩
  subst_vars
  rfl

theorem reaches_of_exchangeV1 {transcript randSeed certPayload : List UInt8}
    (reaches : Reaches (exchangeV1 host transcript randSeed certPayload) trace asked)
    (finishes : asked.finishes = true) :
    ∃ pubkey encryptedPms masterSecret secretAck later, ∃ secret : HostPayload,
      host.authExtractRsaPubkey certPayload = some pubkey ∧
      host.authRsaEncrypt pubkey host.pms = .ok encryptedPms ∧
      secret.IsOf Auth.hostSecret 0x01 encryptedPms ∧
      trace = [⟨.authPrf host.pms "Master Secret" randSeed Auth.pmsLen, masterSecret⟩,
        sent .chunked secret.bytes, heard 4 secretAck] ++ later ∧
      Reaches (finish (transcript ++ secret.data) masterSecret Auth.hostFinish Auth.clientFinish)
        later asked := by
  unfold exchangeV1 at reaches
  cases extracts : host.authExtractRsaPubkey certPayload with
  | none =>
    rw [extracts] at reaches
    exact absurd reaches not_reaches_done
  | some pubkey =>
    rw [extracts] at reaches
    obtain ⟨encryptedPms, encrypts, reaches⟩ := Reaches.ofExcept reaches
    obtain ⟨masterSecret, later, cut, reaches⟩ := reaches_behind reaches finishes rfl
    obtain ⟨bytes, built, reaches⟩ := Reaches.ofExcept reaches
    obtain ⟨secret, whole, isOf⟩ := authBuild_ok built
    obtain ⟨_, later, cut, reaches⟩ := reaches_behind reaches finishes rfl
    obtain ⟨secretAck, later, cut, reaches⟩ := reaches_behind reaches finishes rfl
    rw [← whole, transcriptSent_bytes] at reaches
    refine ⟨pubkey, encryptedPms, masterSecret, secretAck, later, secret, rfl, encrypts, isOf, ?_,
      reaches⟩
    subst_vars
    rfl

theorem reaches_of_requestClient {v2 : Bool} {transcript randomHost : List UInt8}
    (reaches : Reaches (requestClient host v2 transcript randomHost) trace asked)
    (finishes : asked.finishes = true) :
    ∃ askHello clientHello askCert clientCert later,
      authRequest (clientHelloCmd v2) (clientHelloSize v2) = .ok askHello ∧
      authRequest (clientCertCmd v2) (clientCertSize v2) = .ok askCert ∧
      trace = [sent .simple askHello, heard 5 (some clientHello),
        sent .simple askCert, heard 8 (some clientCert)] ++ later ∧
      Reaches (if v2 then
          exchangeV2 host (transcript ++ clientHello.drop 6 ++ clientCert.drop 6)
            (randomHost ++ (clientHello.drop 10).take Auth.randomLen)
        else
          exchangeV1 host (transcript ++ clientHello.drop 6 ++ clientCert.drop 6)
            (randomHost ++ (clientHello.drop 10).take Auth.randomLen) (clientCert.drop 10))
        later asked := by
  obtain ⟨askHello, asksHello, reaches⟩ := Reaches.ofExcept reaches
  obtain ⟨_, later, cut, reaches⟩ := reaches_behind reaches finishes rfl
  obtain ⟨clientHello, later, cut, reaches⟩ := reaches_heard reaches finishes
  split at reaches
  · exact absurd reaches not_reaches_done
  obtain ⟨askCert, asksCert, reaches⟩ := Reaches.ofExcept reaches
  obtain ⟨_, later, cut, reaches⟩ := reaches_behind reaches finishes rfl
  obtain ⟨clientCert, later, cut, reaches⟩ := reaches_heard reaches finishes
  refine ⟨askHello, clientHello, askCert, clientCert, later, asksHello, asksCert, ?_, reaches⟩
  subst_vars
  rfl

/-- The hello of the version that the device and the host go on with. -/
theorem reaches_of_handshake (reaches : Reaches (gipAuthHandshake host) trace asked)
    (finishes : asked.finishes = true) :
    ∃ first ack later, ∃ hello : HostPayload,
      hello.IsOf Auth.hostHello 0x01 (host.randomHost ++ List.replicate 8 0) ∧
      trace = [sent .simple hello.bytes, heard 8 (some ack)] ++ first ++ later ∧
      ((¬ AsksV2 ack ∧ first = [] ∧
          Reaches (requestClient host false hello.data host.randomHost) later asked) ∨
        (AsksV2 ack ∧ ∃ helloAck, ∃ again : HostPayload,
          again.IsOf Auth2.hostHello 0x02 (host.randomHostV2 ++ List.replicate 4 0) ∧
          first = [sent .simple again.bytes, heard 4 (some helloAck)] ∧
          Reaches (requestClient host true again.data host.randomHostV2) later asked)) := by
  unfold gipAuthHandshake at reaches
  split at reaches
  · exact absurd reaches not_reaches_done
  obtain ⟨bytes, built, reaches⟩ := Reaches.ofExcept reaches
  obtain ⟨hello, whole, isOf⟩ := authBuild_ok built
  obtain ⟨_, later, cut, reaches⟩ := reaches_behind reaches finishes rfl
  obtain ⟨ack, later, cut, reaches⟩ := reaches_heard reaches finishes
  split at reaches
  · exact absurd reaches not_reaches_done
  obtain ⟨hsCmd, index, reaches⟩ := Reaches.ofExcept reaches
  have third : ack[3]? = some hsCmd := getElem?_of_pyIndex index
  dsimp only at reaches
  split at reaches
  · rename_i upgrades
    obtain ⟨bytes, built, reaches⟩ := Reaches.ofExcept reaches
    obtain ⟨again, wholeAgain, isAgain⟩ := authBuild_ok built
    obtain ⟨_, later, cut, reaches⟩ := reaches_behind reaches finishes rfl
    obtain ⟨helloAck, later, cut, reaches⟩ := reaches_heard reaches finishes
    obtain ⟨hsOpts, _, reaches⟩ := Reaches.ofExcept reaches
    rw [← wholeAgain, transcriptSent_bytes, List.nil_append] at reaches
    refine ⟨_, ack, later, hello, isOf, ?_, .inr ⟨⟨hsCmd, third, upgrades⟩, helloAck, again,
      isAgain, rfl, reaches⟩⟩
    subst_vars
    rfl
  · rename_i stays
    rw [← whole, transcriptSent_bytes, List.nil_append] at reaches
    refine ⟨[], ack, later, hello, isOf, ?_, .inl ⟨?_, rfl, reaches⟩⟩
    · subst_vars
      rfl
    · rintro ⟨other, same, differs⟩
      cases third.symm.trans same
      exact stays differs

/-- **Before a call for a finish value lies one of the exchanges, and its transcript is what the
finish goes on with.** -/
theorem reaches_finish (reaches : Reaches (gipAuthHandshake host) trace asked)
    (finishes : asked.finishes = true) :
    ∃ v2 before transcript masterSecret later, Exchanged host v2 before transcript ∧
      trace = before ++ later ∧
      Reaches (finish transcript masterSecret (finishCmd v2) (clientFinishCmd v2)) later asked := by
  obtain ⟨first, ack, later, hello, isHello, cut, ⟨stays, none, reached⟩ |
    ⟨upgrades, helloAck, again, isAgain, first, reached⟩⟩ := reaches_of_handshake reaches finishes
  · obtain ⟨askHello, clientHello, askCert, clientCert, rest, asksHello, asksCert, cut, reached⟩ :=
      reaches_of_requestClient reached finishes
    obtain ⟨pubkey, encryptedPms, masterSecret, secretAck, last, secret, extracts, encrypts,
      isSecret, cut, reached⟩ := reaches_of_exchangeV1 reached finishes
    refine ⟨false, _, _, masterSecret, last,
      .v1 masterSecret secretAck isHello stays asksHello asksCert extracts encrypts isSecret, ?_,
      reached⟩
    subst_vars
    rfl
  · obtain ⟨askHello, clientHello, askCert, clientCert, rest, asksHello, asksCert, cut, reached⟩ :=
      reaches_of_requestClient reached finishes
    obtain ⟨askPubkey, clientPubkey, pubkey, ecdhSecret, masterSecret, pubkeyAck, last, hostPubkey,
      asksPubkey, exchanges, isPubkey, cut, reached⟩ := reaches_of_exchangeV2 reached finishes
    rw [List.append_assoc _ (clientPubkey.drop 6)] at reached
    refine ⟨true, _, _, masterSecret, last,
      .v2 helloAck masterSecret pubkeyAck isHello upgrades isAgain asksHello asksCert asksPubkey
        exchanges isPubkey, ?_, reached⟩
    subst_vars
    rfl

/-- What is hashed for "Host Finished". -/
theorem reaches_hostFinished {key seed : List UInt8} {length : Nat}
    (reaches : Reaches (gipAuthHandshake host) trace (.authPrf key "Host Finished" seed length)) :
    ∃ v2 before transcript, Exchanged host v2 before transcript ∧
      trace = before ++ [⟨.digest transcript, seed⟩] := by
  have finishes : (Call.authPrf key "Host Finished" seed length).finishes = true := by
    simp [Call.finishes]
  obtain ⟨v2, before, transcript, masterSecret, later, exchanged, cut, reached⟩ :=
    reaches_finish reaches finishes
  obtain ⟨hash, ⟨last, same⟩ | ⟨_, _, _, _, _, _, _, _, _, same⟩⟩ :=
    reaches_of_finish reached finishes
  · cases same
    exact ⟨v2, before, transcript, exchanged, last ▸ cut⟩
  · exact absurd same (by simp)

/-- What is hashed for "Device Finished". -/
theorem reaches_deviceFinished {key seed : List UInt8} {length : Nat}
    (reaches : Reaches (gipAuthHandshake host) trace
      (.authPrf key "Device Finished" seed length)) :
    ∃ v2 before transcript hash value ask ack clientFinish, ∃ payload : HostPayload,
      Exchanged host v2 before transcript ∧
      payload.IsOf (finishCmd v2) (if v2 then 0x02 else 0x01) value ∧
      authRequest (clientFinishCmd v2) (Auth.transcriptLen + 32) = .ok ask ∧
      trace = before ++ [⟨.digest transcript, hash⟩,
        ⟨.authPrf key "Host Finished" hash Auth.transcriptLen, value⟩,
        sent .simple payload.bytes, heard 4 ack, sent .simple ask, heard 5 (some clientFinish),
        ⟨.digest (transcript ++ payload.data), seed⟩] := by
  have finishes : (Call.authPrf key "Device Finished" seed length).finishes = true := by
    simp [Call.finishes]
  have version : ∀ v2, (if finishCmd v2 ≥ 0x20 then 0x02 else 0x01) =
      if v2 then 0x02 else 0x01 := by decide
  obtain ⟨v2, before, transcript, masterSecret, later, exchanged, cut, reached⟩ :=
    reaches_finish reaches finishes
  obtain ⟨hash, ⟨_, same⟩ | ⟨value, ask, ack, clientFinish, hash2, payload, isOf, asks, last,
    same⟩⟩ := reaches_of_finish reached finishes
  · exact absurd same (by simp)
  · cases same
    rw [version] at isOf
    exact ⟨v2, before, transcript, hash, value, ask, ack, clientFinish, payload, exchanged, isOf,
      asks, last ▸ cut⟩

/-- A handshake of the session that returns has a trace, answered by the link, in which whatever is
asked for "Host Finished" is asked of the digest of the transcript before it. -/
theorem session_hostFinished {Device : Type} {link : Link Device} {session after : Session Device}
    {result : Bool} (returned : Python.gipAuthHandshake link host session = .ok (result, after)) :
    ∃ trace, Follows (gipAuthHandshake host) trace (.done result) ∧
      Answers (answer link host) session trace after ∧
      ∀ before key seed length value rest,
        trace = before ++ ⟨.authPrf key "Host Finished" seed length, value⟩ :: rest →
        ∃ v2 exchange transcript, Exchanged host v2 exchange transcript ∧
          before = exchange ++ [⟨.digest transcript, seed⟩] := by
  rw [← run_gipAuthHandshake] at returned
  obtain ⟨trace, follows, answers⟩ := run_ok_iff.mp returned
  refine ⟨trace, follows, answers, fun before key seed length value rest cut => ?_⟩
  exact reaches_hostFinished (Follows.reaches (cut ▸ follows))

end Transcript

/-- **The transcript of the handshake.** Whatever the device answers: the string that is hashed for
"Host Finished" is the transcript of the exchange before it, and the one for "Device Finished" is
that string, followed by the data header and the body of HOST_FINISH. -/
theorem handshake_transcript {Key : Type} (host : Host Key) (trace : List (Event Answer))
    (key seed : List UInt8) (length : Nat) :
    (Reaches (gipAuthHandshake host) trace (.authPrf key "Host Finished" seed length) →
      ∃ v2 before transcript, Exchanged host v2 before transcript ∧
        trace = before ++ [⟨.digest transcript, seed⟩]) ∧
    (Reaches (gipAuthHandshake host) trace (.authPrf key "Device Finished" seed length) →
      ∃ v2 before transcript hash value ask ack clientFinish, ∃ payload : HostPayload,
        Exchanged host v2 before transcript ∧
        payload.IsOf (finishCmd v2) (if v2 then 0x02 else 0x01) value ∧
        authRequest (clientFinishCmd v2) (Auth.transcriptLen + 32) = .ok ask ∧
        trace = before ++ [⟨.digest transcript, hash⟩,
          ⟨.authPrf key "Host Finished" hash Auth.transcriptLen, value⟩,
          sent .simple payload.bytes, heard 4 ack, sent .simple ask, heard 5 (some clientFinish),
          ⟨.digest (transcript ++ payload.data), seed⟩]) :=
  ⟨reaches_hostFinished, reaches_deviceFinished⟩

/-- A host whose cryptography answers with zeros. -/
def zeroHost : Host Unit where
  cryptoOk := true
  randomHost := List.replicate 32 1
  randomHostV2 := List.replicate 32 2
  pms := List.replicate 48 3
  sha256 _ := List.replicate 32 0
  authPrf _ _ _ length := List.replicate length 0
  authExtractRsaPubkey _ := some ()
  authRsaEncrypt _ _ := .ok (List.replicate 16 0)
  authEcdhExchange _ := .ok (List.replicate 64 0, List.replicate 32 0)

/-- The payload of a message that is built. -/
def builtPayload (built : Except PyError (List UInt8)) : List UInt8 := built.toOption.getD []

/-- A device that stays with v1. -/
def zeroTrace : List (Event Answer) :=
  [sent .simple (builtPayload (authHostHelloV1 (List.replicate 32 1))),
    heard 8 (some [0, 1, 0, 1, 0, 0, 1, 1]),
    sent .simple (builtPayload (authRequest 0x02 80)), heard 5 (some (List.replicate 42 7)),
    sent .simple (builtPayload (authRequest 0x03 1024)), heard 8 (some (List.replicate 48 8)),
    ⟨.authPrf (List.replicate 48 3) "Master Secret" (List.replicate 32 1 ++ List.replicate 32 7) 48,
      List.replicate 48 5⟩,
    sent .chunked (builtPayload (authHostSecretV1 (List.replicate 16 0))), heard 4 none]

/-- A device that asks for v2. -/
def upgradeTrace : List (Event Answer) :=
  [sent .simple (builtPayload (authHostHelloV1 (List.replicate 32 1))),
    heard 8 (some [0, 0x41, 0, 1, 0, 4, 1, 0x21]),
    sent .simple (builtPayload (authHostHelloV2 (List.replicate 32 2))), heard 4 (some [0, 0x41]),
    sent .simple (builtPayload (authRequest 0x22 172)), heard 5 (some (List.replicate 42 7)),
    sent .simple (builtPayload (authRequest 0x23 768)), heard 8 (some (List.replicate 48 8)),
    sent .simple (builtPayload (authRequest 0x24 128)), heard 5 (some (List.replicate 74 9)),
    ⟨.authPrf (List.replicate 32 0) "Master Secret" (List.replicate 32 2 ++ List.replicate 32 7) 48,
      List.replicate 48 5⟩,
    sent .simple (builtPayload (authHostPubkeyV2 (List.replicate 64 0))), heard 4 none]

/-- Both versions get to HOST_FINISH, and v2 to the finish of the device. -/
theorem handshake_transcript_traces :
    (∃ trace, Reaches (gipAuthHandshake zeroHost) trace
        (.authPrf (List.replicate 48 5) "Host Finished" (List.replicate 32 6) 32) ∧
      ∃ v2 before transcript, Exchanged zeroHost v2 before transcript ∧
        trace = before ++ [⟨.digest transcript, List.replicate 32 6⟩]) ∧
    ∃ fed finish ask again,
      let hostFinish : List (Event Answer) := upgradeTrace ++ [⟨.digest fed, List.replicate 32 6⟩]
      let trace := hostFinish ++
        [⟨.authPrf (List.replicate 48 5) "Host Finished" (List.replicate 32 6) 32,
          List.replicate 32 4⟩, sent .simple finish, heard 4 none, sent .simple ask,
          heard 5 (some (List.replicate 42 1)), ⟨.digest again, List.replicate 32 3⟩]
      (∃ v2 before transcript, Exchanged zeroHost v2 before transcript ∧
        hostFinish = before ++ [⟨.digest transcript, List.replicate 32 6⟩]) ∧
      ∃ v2 before transcript hash value ask ack clientFinish, ∃ payload : HostPayload,
        Exchanged zeroHost v2 before transcript ∧
        payload.IsOf (finishCmd v2) (if v2 then 0x02 else 0x01) value ∧
        authRequest (clientFinishCmd v2) (Auth.transcriptLen + 32) = .ok ask ∧
        trace = before ++ [⟨.digest transcript, hash⟩,
          ⟨.authPrf (List.replicate 48 5) "Host Finished" hash Auth.transcriptLen, value⟩,
          sent .simple payload.bytes, heard 4 ack, sent .simple ask, heard 5 (some clientFinish),
          ⟨.digest (transcript ++ payload.data), List.replicate 32 3⟩] := by
  have v1 : ∃ fed, Reaches (gipAuthHandshake zeroHost)
      (zeroTrace ++ [⟨.digest fed, List.replicate 32 6⟩])
      (.authPrf (List.replicate 48 5) "Host Finished" (List.replicate 32 6) 32) :=
    ⟨_, _, .cons _ <| .cons _ <| .cons _ <| .cons _ <| .cons _ <| .cons _ <| .cons _ <| .cons _ <|
      .cons _ <| .cons _ <| .nil _⟩
  have v2 : ∃ fed finish ask again, Reaches (gipAuthHandshake zeroHost)
      (upgradeTrace ++ [⟨.digest fed, List.replicate 32 6⟩] ++
        [⟨.authPrf (List.replicate 48 5) "Host Finished" (List.replicate 32 6) 32,
          List.replicate 32 4⟩, sent .simple finish, heard 4 none, sent .simple ask,
          heard 5 (some (List.replicate 42 1)), ⟨.digest again, List.replicate 32 3⟩])
      (.authPrf (List.replicate 48 5) "Device Finished" (List.replicate 32 3) 32) :=
    ⟨_, _, _, _, _, .cons _ <| .cons _ <| .cons _ <| .cons _ <| .cons _ <| .cons _ <| .cons _ <|
      .cons _ <| .cons _ <| .cons _ <| .cons _ <| .cons _ <| .cons _ <| .cons _ <| .cons _ <|
      .cons _ <| .cons _ <| .cons _ <| .cons _ <| .cons _ <| .nil _⟩
  obtain ⟨fed, reaches⟩ := v1
  obtain ⟨transcript, finish, ask, again, finished⟩ := v2
  have hostFinished : Reaches (gipAuthHandshake zeroHost)
      (upgradeTrace ++ [⟨.digest transcript, List.replicate 32 6⟩])
      (.authPrf (List.replicate 48 5) "Host Finished" (List.replicate 32 6) 32) :=
    finished.choose_spec.reaches
  exact ⟨⟨_, reaches, (handshake_transcript zeroHost _ _ _ _).1 reaches⟩,
    transcript, finish, ask, again, (handshake_transcript zeroHost _ _ _ _).1 hostFinished,
    (handshake_transcript zeroHost _ _ _ _).2 finished⟩

end Wolverine.Python.Handshake
