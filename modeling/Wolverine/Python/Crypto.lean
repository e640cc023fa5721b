/-
**The cryptographic helpers of `gip_init.py`.**

`auth_prf` expands a key with HMAC-SHA256. `auth_extract_rsa_pubkey` looks for a public key in a
certificate, `auth_ecdh_exchange` computes a shared secret. What the `hmac`, `hashlib`,
`cryptography` and `os` modules compute is a parameter (`Library`).

* `authPrfLoop_eq` — the loop returns the first join of blocks that is long enough.
* `authPrf_eq`, `authPrf_not_ascii` — the result is the front of the `P_hash` blocks; a label beyond
  ASCII raises.
* `Library.host` — the host of the handshake: its pseudorandom function is `auth_prf`
  (`Library.host_authPrf`).
-/

import Wolverine.Base.Blocks
import Wolverine.Base.Machine
import Wolverine.Python.Auth

namespace Wolverine.Python

open Wolverine.Blocks Wolverine.Machine

/-! ### Values of a fixed length -/

/-- A `bytes` value of a fixed length. -/
abbrev Bytes (size : Nat) : Type := { bytes : List UInt8 // bytes.length = size }

/-- `bytes(size)`. -/
def zeroBytes (size : Nat) : Bytes size := ⟨List.replicate size 0, List.length_replicate⟩

/-! ### `auth_prf` -/

/-- `label.encode('ascii')`; a `UnicodeEncodeError` is a `ValueError`. -/
def encodeAscii (label : String) : Except PyError (List UInt8) :=
  if label.toList.all fun char => char.toNat < 128 then
    .ok (label.toList.map fun char => UInt8.ofNat char.toNat)
  else .error .valueError

theorem encodeAscii_ok {label : String}
    (ascii : label.toList.all (fun char => char.toNat < 128) = true) :
    encodeAscii label = .ok (label.toList.map fun char => UInt8.ofNat char.toNat) := if_pos ascii

section Prf

variable (h : List UInt8 → List UInt8 → Bytes 32)

/-- The loop of `auth_prf`, with `label_b + seed` as one value. -/
def authPrfLoop (key labelSeed : List UInt8) (length : Nat) (a out : List UInt8) : List UInt8 :=
  if out.length < length then
    authPrfLoop key labelSeed length (h key a).val (out ++ (h key (a ++ labelSeed)).val)
  else out
termination_by length - out.length
decreasing_by
  rw [List.length_append, (h key (a ++ labelSeed)).property]
  omega

/-- `auth_prf`, where `h` is HMAC-SHA256 of a key and data. -/
def authPrf (key : List UInt8) (label : String) (seed : List UInt8) (length : Nat) :
    Except PyError (List UInt8) := do
  let labelB ← encodeAscii label
  let a := (h key (labelB ++ seed)).val
  let out := authPrfLoop h key (labelB ++ seed) length a []
  return out.take length

/-- `A(i)`: the seed, hashed again and again. -/
def chain (key labelSeed : List UInt8) : Nat → List UInt8
  | 0 => labelSeed
  | i + 1 => (h key (chain key labelSeed i)).val

/-- The block of `P_hash` behind the first `i`: the hash of `A(i + 1)` and the seed. -/
def pHash (key labelSeed : List UInt8) (i : Nat) : List UInt8 :=
  (h key (chain h key labelSeed (i + 1) ++ labelSeed)).val

theorem length_pHash (key labelSeed : List UInt8) (i : Nat) :
    (pHash h key labelSeed i).length = 32 := (h _ _).property

/-- **The loop**, with `i` blocks joined and `A(i + 1)` at hand: it goes on to the first join that
is long enough. -/
theorem authPrfLoop_eq (key labelSeed : List UInt8) (length i : Nat) :
    ∃ blocks, length ≤ blocks * 32 ∧
      authPrfLoop h key labelSeed length (chain h key labelSeed (i + 1))
        (joined (pHash h key labelSeed) i) = joined (pHash h key labelSeed) blocks := by
  have size := length_joined (length_pHash h key labelSeed) i
  induction missing : length - i * 32 using Nat.strong_induction_on generalizing i with
  | _ missing ih =>
    subst missing
    rw [authPrfLoop, size]
    by_cases short : i * 32 < length
    · rw [if_pos short]
      have next := length_joined (length_pHash h key labelSeed) (i + 1)
      obtain ⟨blocks, enough, rest⟩ := ih (length - (i + 1) * 32) (by omega) (i + 1) next rfl
      exact ⟨blocks, enough, (joined_succ (pHash h key labelSeed) i) ▸ rest⟩
    · rw [if_neg short]
      exact ⟨i, not_lt.mp short, rfl⟩

/-- **`auth_prf` is the front of `P_hash`.** -/
theorem authPrf_eq (key : List UInt8) {label : String} {labelB : List UInt8}
    (ascii : encodeAscii label = .ok labelB) (seed : List UInt8) (length : Nat) :
    authPrf h key label seed length =
      .ok (front (pHash h key (labelB ++ seed)) length) := by
  obtain ⟨blocks, enough, looped⟩ := authPrfLoop_eq h key (labelB ++ seed) length 0
  refine (bind_of_ok ascii _).trans ?_
  rw [← take_joined (length_pHash h key (labelB ++ seed)) (by decide) enough, ← looped]
  rfl

theorem authPrf_not_ascii (key : List UInt8) {label : String} {error : PyError}
    (raises : encodeAscii label = .error error) (seed : List UInt8) (length : Nat) :
    authPrf h key label seed length = .error error := by
  unfold authPrf
  rw [raises]
  rfl

/-- **`auth_prf` is the `P_hash` of TLS 1.2.** With a label in ASCII it returns exactly the first
bytes of the join of all blocks, for every length: byte for byte, and as a cut of any join that is
long enough; a longer result extends a shorter one. With any other label it raises. -/
theorem authPrf_pHash (key : List UInt8) (label : String) (seed : List UInt8) (length : Nat) :
    (∀ labelB, encodeAscii label = .ok labelB → ∃ out,
      authPrf h key label seed length = .ok out ∧ out.length = length ∧
      (∀ position < length, out[position]? =
        (pHash h key (labelB ++ seed) (position / 32))[position % 32]?) ∧
      (∀ blocks, length ≤ blocks * 32 →
        out = (joined (pHash h key (labelB ++ seed)) blocks).take length) ∧
      ∀ more, length ≤ more → ∃ longer,
        authPrf h key label seed more = .ok longer ∧ out <+: longer) ∧
    ∀ error, encodeAscii label = .error error →
      authPrf h key label seed length = .error error := by
  refine ⟨fun labelB ascii => ?_, fun error raises => authPrf_not_ascii h key raises seed length⟩
  have uniform := length_pHash h key (labelB ++ seed)
  refine ⟨_, authPrf_eq h key ascii seed length, length_front uniform (by decide) length,
    fun position inside => getElem?_front uniform (by decide) inside,
    fun blocks enough => (take_joined uniform (by decide) enough).symm, fun more le => ?_⟩
  exact ⟨_, authPrf_eq h key ascii seed more, front_prefix uniform (by decide) le⟩

/-- A label that is not ASCII. -/
theorem not_authPrf_pHash :
    ¬ ∀ (h : List UInt8 → List UInt8 → Bytes 32) (key : List UInt8) (label : String)
      (seed : List UInt8) (length : Nat), ∃ out, authPrf h key label seed length = .ok out := by
  intro all
  obtain ⟨out, returned⟩ := all (fun _ _ => zeroBytes 32) [] "\u00e9" [] 1
  have raises : encodeAscii "\u00e9" = .error .valueError := by decide
  cases (authPrf_not_ascii _ [] raises [] 1).symm.trans returned

end Prf

/-! ### The key exchange -/

/-- The coordinates of a point of P-256, as `public_numbers` returns them. -/
structure PublicNumbers where
  x : Nat
  y : Nat
  xSmall : x < 256 ^ 32
  ySmall : y < 256 ^ 32

/-- What the `os`, `hashlib`, `hmac` and `cryptography` modules provide. -/
structure Library (Key Private Public : Type) where
  /-- `os.urandom` for the v1 hello. -/
  randomHost : Bytes 32
  /-- `os.urandom` for the v2 hello. -/
  randomHostV2 : Bytes 32
  /-- `os.urandom` for the premaster secret. -/
  pms : Bytes 48
  sha256 : List UInt8 → Bytes 32
  /-- HMAC-SHA256 of a key and data. -/
  hmac : List UInt8 → List UInt8 → Bytes 32
  /-- `load_der_public_key` -/
  loadDerPub : List UInt8 → Except PyError Key
  /-- `key_size`, then `encrypt` with `PKCS1v15`: a key not for RSA, or too short, raises. -/
  encrypt : Key → List UInt8 → Except PyError (List UInt8)
  /-- `generate_private_key` -/
  hostPriv : Private
  publicNumbers : Private → PublicNumbers
  /-- `public_key` of the coordinates of a point. -/
  publicKey : Nat → Nat → Except PyError Public
  exchange : Private → Public → List UInt8

/-- `int.from_bytes(.., 'big')` -/
def fromBytes (bytes : List UInt8) : Nat :=
  bytes.foldl (fun value byte => value * 256 + byte.toNat) 0

/-- The loop of `to_bytes(.., 'big')`. -/
def toBytesLoop (value : Nat) : Nat → List UInt8
  | 0 => []
  | size + 1 => toBytesLoop (value / 256) size ++ [UInt8.ofNat value]

/-- `value.to_bytes(size, 'big')` -/
def toBytes (value size : Nat) : Except PyError (List UInt8) :=
  if value < 256 ^ size then .ok (toBytesLoop value size) else .error .overflowError

theorem toBytes_ok {value size : Nat} (small : value < 256 ^ size) :
    toBytes value size = .ok (toBytesLoop value size) := if_pos small

theorem length_toBytesLoop (size : Nat) : ∀ value, (toBytesLoop value size).length = size := by
  induction size with
  | zero => exact fun _ => rfl
  | succ size ih =>
    intro value
    rw [toBytesLoop, List.length_append, ih, List.length_singleton]

/-- `AUTH_ASN1_SEQ` -/
def authAsn1Seq : List UInt8 := [0x30, 0x82, 0x01, 0x0a]

/-- `AUTH_RSA_PUBKEY_LEN` -/
def authRsaPubkeyLen : Nat := 270

/-- `data.find(pattern)`: the first index, if there is one. -/
def find (pattern data : List UInt8) : Option Nat :=
  (List.range (data.length + 1)).find? fun i => pattern.isPrefixOf (data.drop i)

namespace Library

variable {Key Private Public : Type} (lib : Library Key Private Public)

/-- Scan a certificate for the ASN.1 marker of a public key. -/
def authExtractRsaPubkey (cert : List UInt8) : Option Key :=
  match find authAsn1Seq cert with
  | none => none
  | some idx =>
    let der := (cert.drop idx).take authRsaPubkeyLen
    if der.length < authRsaPubkeyLen then none
    else
      match lib.loadDerPub der with
      | .ok key => some key
      | .error _ => none   -- the parse error is only printed

def authRsaEncrypt (pubkey : Key) (pms : List UInt8) : Except PyError (List UInt8) :=
  lib.encrypt pubkey pms

/-- The host public key, and the secret. -/
def authEcdhExchange (clientPubkeyBytes : List UInt8) :
    Except PyError (List UInt8 × List UInt8) := do
  let x := fromBytes (clientPubkeyBytes.take 32)
  let y := fromBytes (clientPubkeyBytes.drop 32)
  let clientPub ← lib.publicKey x y
  let shared := lib.exchange lib.hostPriv clientPub
  let secretHash := (lib.sha256 shared).val
  let nums := lib.publicNumbers lib.hostPriv
  let first ← toBytes nums.x 32
  let second ← toBytes nums.y 32
  return (first ++ second, secretHash)

/-- The host of the handshake. -/
def host : Host Key where
  cryptoOk := true
  randomHost := lib.randomHost.val
  randomHostV2 := lib.randomHostV2.val
  pms := lib.pms.val
  sha256 bytes := (lib.sha256 bytes).val
  -- no label of the handshake raises
  authPrf key label seed length := (authPrf lib.hmac key label seed length).toOption.getD []
  authExtractRsaPubkey := lib.authExtractRsaPubkey
  authRsaEncrypt := lib.authRsaEncrypt
  authEcdhExchange := lib.authEcdhExchange

/-- The pseudorandom function of the host is `auth_prf`: the labels of the handshake are ASCII. -/
theorem host_authPrf {label : String} (ascii : label ∈ ["Master Secret", "Host Finished",
    "Device Finished"]) (key seed : List UInt8) (length : Nat) :
    authPrf lib.hmac key label seed length = .ok (lib.host.authPrf key label seed length) ∧
      (lib.host.authPrf key label seed length).length = length := by
  have encodes : ∀ label ∈ ["Master Secret", "Host Finished", "Device Finished"],
      label.toList.all (fun char => char.toNat < 128) = true := by decide
  have prf := authPrf_eq lib.hmac key (encodeAscii_ok (encodes label ascii)) seed length
  have same : lib.host.authPrf key label seed length =
      (authPrf lib.hmac key label seed length).toOption.getD [] := rfl
  rw [same, prf]
  exact ⟨rfl, length_front (length_pHash lib.hmac key _) (by decide) length⟩

/-- **The exchange raises exactly when the library rejects the coordinates**; the host public key
that it returns has 64 bytes. -/
theorem authEcdhExchange_cases (clientPubkeyBytes : List UInt8) :
    (∃ error, lib.publicKey (fromBytes (clientPubkeyBytes.take 32))
        (fromBytes (clientPubkeyBytes.drop 32)) = .error error ∧
      lib.authEcdhExchange clientPubkeyBytes = .error error) ∨
    ∃ key hostPub secret, lib.publicKey (fromBytes (clientPubkeyBytes.take 32))
        (fromBytes (clientPubkeyBytes.drop 32)) = .ok key ∧
      lib.authEcdhExchange clientPubkeyBytes = .ok (hostPub, secret) ∧ hostPub.length = 64 := by
  have first := toBytes_ok (lib.publicNumbers lib.hostPriv).xSmall
  have second := toBytes_ok (lib.publicNumbers lib.hostPriv).ySmall
  cases built : lib.publicKey (fromBytes (clientPubkeyBytes.take 32))
      (fromBytes (clientPubkeyBytes.drop 32)) with
  | error error =>
    refine .inl ⟨error, rfl, ?_⟩
    unfold authEcdhExchange
    simp only [built]
    rfl
  | ok key =>
    refine .inr ⟨key, _, _, rfl, (bind_of_ok built _).trans ((bind_of_ok first _).trans
      (bind_of_ok second _)), ?_⟩
    rw [List.length_append, length_toBytesLoop, length_toBytesLoop]

end Library

end Wolverine.Python
