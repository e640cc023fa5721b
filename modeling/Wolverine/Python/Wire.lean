/-
**The packet builders of `gip_init.py`.**

A Python integer is a natural number here and a `bytes` value a list of `UInt8`. The only step of a
builder that can raise is `bytes([..])`, which rejects an integer outside `0..255`.

* `encodeVarint_eq` — the length field never raises: it is the shortest LEB128 encoding.
* `buildGipHeader_eq`, `buildPacket_eq` — a builder raises exactly when `bytes([cmd, opts, seq])`
  does; otherwise the frame is that head, the padded length field, the chunk offset and the payload.
* `buildBytes_of_lt`, `buildBytes_overflow` — where everything else is a byte, the sequence number
  alone decides.
-/

import Wolverine.Gip.Varint

namespace Wolverine.Python

open Wolverine.Gip (headerVarint)

/-! ### Python values -/

/-- The exceptions that the modelled code raises or lets through. -/
inductive PyError
  | valueError
  | indexError
  | structError
  | overflowError
  | memoryError
  | usbError
  /-- Raised by the `cryptography` package. -/
  | cryptoError
  deriving DecidableEq, Repr

/-- `bytes(values)`. -/
def pyBytes (values : List Nat) : Except PyError (List UInt8) :=
  if ∀ value ∈ values, value < 256 then .ok (values.map UInt8.ofNat) else .error .valueError

/-- `data[i]` on a `bytes` value. -/
def pyIndex (data : List UInt8) (i : Nat) : Except PyError UInt8 :=
  match data[i]? with
  | some byte => .ok byte
  | none => .error .indexError

theorem pyBytes_ok {values : List Nat} (small : ∀ value ∈ values, value < 256) :
    pyBytes values = .ok (values.map UInt8.ofNat) := if_pos small

theorem pyBytes_error {values : List Nat} {value : Nat} (member : value ∈ values)
    (large : 256 ≤ value) : pyBytes values = .error .valueError :=
  if_neg fun small => absurd (small value member) (by omega)

theorem getElem?_of_pyIndex {data : List UInt8} {i : Nat} {byte : UInt8}
    (ok : pyIndex data i = .ok byte) : data[i]? = some byte := by
  unfold pyIndex at ok
  split at ok
  · cases ok
    assumption
  · cases ok

theorem pyIndex_ok_iff {data : List UInt8} {i : Nat} :
    (∃ byte, pyIndex data i = .ok byte) ↔ i < data.length := by
  unfold pyIndex
  rcases lt_or_ge i data.length with inside | beyond
  · rw [List.getElem?_eq_getElem inside]
    exact iff_of_true ⟨_, rfl⟩ inside
  · rw [List.getElem?_eq_none beyond]
    exact iff_of_false (by rintro ⟨_, read⟩; cases read) (not_lt.mpr beyond)

/-! ### Constants -/

def gipCmdAcknowledge : Nat := 0x01
def gipCmdStatus : Nat := 0x03
def gipCmdIdentify : Nat := 0x04
def gipCmdPower : Nat := 0x05
def gipCmdAuthenticate : Nat := 0x06
def gipCmdAudioControl : Nat := 0x08
def gipCmdInput : Nat := 0x20

def gipOptAck : Nat := 0x10
def gipOptInternal : Nat := 0x20
def gipOptChunkStart : Nat := 0x40
def gipOptChunk : Nat := 0x80

def gipClientId : Nat := 0x01
def gipPktMaxLen : Nat := 58

def gipAudCtrlVolumeChat : Nat := 0x00
def gipAudCtrlFormat : Nat := 0x02
def gipAudCtrlVolume : Nat := 0x03
def gipAudFormat48khzStereo : Nat := 0x10
def gipPwrOn : Nat := 0x00
def audClient : Nat := 0x01

/-! ### Packets -/

/-- The values that `encode_varint` collects. -/
def encodeVarintLoop (value : Nat) : List Nat :=
  if value > 0x7f then ((value &&& 0x7f) ||| 0x80) :: encodeVarintLoop (value >>> 7)
  else [value &&& 0x7f]
termination_by value
decreasing_by
  have : value >>> 7 = value / 2 ^ 7 := Nat.shiftRight_eq_div_pow value 7
  omega

def encodeVarint (value : Nat) : Except PyError (List UInt8) := pyBytes (encodeVarintLoop value)

/-- The chunk-offset bytes: none without an offset. -/
def encodeChunkOffset : Option Nat → Except PyError (List UInt8)
  | some offset => encodeVarint offset
  | none => .ok []

/-- Pad a header of `actual` bytes to even length: the last length byte continues into a zero
byte. -/
def padLength (lenVarint : List UInt8) (actual : Nat) : Except PyError (List UInt8) :=
  if actual % 2 ≠ 0 then
    (pyBytes [(lenVarint.getLastD 0).toNat ||| 0x80, 0x00]).map (lenVarint.dropLast ++ ·)
  else .ok lenVarint

/-- Build an even-length header, with an optional chunk offset. -/
def buildGipHeader (cmd opts seq pktLen : Nat) (chunkOffset : Option Nat) :
    Except PyError (List UInt8) := do
  let lenVarint ← encodeVarint pktLen
  let chunkVarint ← encodeChunkOffset chunkOffset
  let lenVarint ← padLength lenVarint (3 + lenVarint.length + chunkVarint.length)
  let head ← pyBytes [cmd, opts, seq]
  return head ++ lenVarint ++ chunkVarint

/-- Build a simple (non-chunked) packet. -/
def buildPacket (cmd options seq : Nat) (payload : List UInt8) : Except PyError (List UInt8) := do
  let header ← buildGipHeader cmd options seq payload.length none
  return header ++ payload

/-- A packet whose payload is `bytes(values)`. -/
def buildBytes (cmd options seq : Nat) (values : List Nat) : Except PyError (List UInt8) := do
  let payload ← pyBytes values
  buildPacket cmd options seq payload

def pktIdentify (seq : Nat) : Except PyError (List UInt8) :=
  buildPacket gipCmdIdentify (gipClientId ||| gipOptInternal) seq []

def pktStatus (seq status : Nat) : Except PyError (List UInt8) :=
  buildBytes gipCmdStatus (gipClientId ||| gipOptInternal) seq [status, 0x00, 0x00, 0x00]

def pktPower (seq mode : Nat) : Except PyError (List UInt8) :=
  buildBytes gipCmdPower (gipClientId ||| gipOptInternal) seq [mode]

def pktAudioFormat (seq : Nat) : Except PyError (List UInt8) :=
  buildBytes gipCmdAudioControl (gipOptInternal ||| audClient) seq
    [gipAudCtrlFormat, gipAudFormat48khzStereo, gipAudFormat48khzStereo]

def pktAudioVolume (seq outVol inVol : Nat) : Except PyError (List UInt8) :=
  buildBytes gipCmdAudioControl (gipOptInternal ||| audClient) seq
    [gipAudCtrlVolume, 0x04, outVol, 100, inVol, 0x00, 0x00, 0x00]

def pktAudioVolumeChat (seq state v1 v2 v3 : Nat) : Except PyError (List UInt8) :=
  buildBytes gipCmdAudioControl (gipOptInternal ||| audClient) seq
    [gipAudCtrlVolumeChat, state, v1, v2, v3]

def pktAck (ackCmd ackOpts ackSeq : Nat) : Except PyError (List UInt8) :=
  buildBytes gipCmdAcknowledge gipOptInternal ackSeq
    [0x00, ackCmd, ackOpts, 0x00, 0x00, 0x00, 0x00, 0x00, 0x00]

/-! ### What the builders return -/

/-- Every collected value is a byte, and together they are the shortest encoding. -/
theorem encodeVarint_eq (value : Nat) : encodeVarint value = .ok (Leb128.encode value) := by
  have loop : (∀ byte ∈ encodeVarintLoop value, byte < 256) ∧
      (encodeVarintLoop value).map UInt8.ofNat = Leb128.encode value := by
    induction value using Leb128.encode.induct with
    | case1 value small =>
      have masked : value &&& 0x7f = value := by rw [Leb128.and_low7, Nat.mod_eq_of_lt small]
      rw [encodeVarintLoop, if_neg (by omega), Leb128.encode_small small, masked]
      exact ⟨fun byte member => by rw [List.mem_singleton.mp member]; omega, rfl⟩
    | case2 value large ih =>
      have group := Leb128.or_continue (show value % 128 < 128 from Nat.mod_lt _ (by decide))
      rw [encodeVarintLoop, if_pos (by omega), Leb128.encode_large (by omega), Leb128.and_low7,
        group, Leb128.shiftRight_group, List.map_cons, ih.2]
      refine ⟨fun byte member => ?_, rfl⟩
      rcases List.mem_cons.mp member with rfl | later
      · omega
      · exact ih.1 byte later
  rw [encodeVarint, pyBytes_ok loop.1, loop.2]

/-- The chunk-offset field: empty without an offset. -/
def chunkField : Option Nat → List UInt8
  | some offset => Leb128.encode offset
  | none => []

/-- The length field: stretched where the header would be odd. -/
def lengthField (pktLen : Nat) (chunkOffset : Option Nat) : List UInt8 :=
  if (3 + (Leb128.encode pktLen).length + (chunkField chunkOffset).length) % 2 ≠ 0 then
    Leb128.stretch (Leb128.encode pktLen)
  else Leb128.encode pktLen

theorem lengthField_none (pktLen : Nat) : lengthField pktLen none = headerVarint pktLen := rfl

/-- Continuing the last byte into a zero byte stretches a varint, and never raises. -/
theorem stretch_eq_pyBytes {bytes : List UInt8} (nonempty : bytes ≠ []) :
    (pyBytes [(bytes.getLastD 0).toNat ||| 0x80, 0x00]).map (bytes.dropLast ++ ·) =
      .ok (Leb128.stretch bytes) := by
  obtain ⟨init, last, rfl⟩ := List.eq_nil_or_concat bytes |>.resolve_left nonempty
  have bound : last.toNat ||| 0x80 < 2 ^ 8 := Nat.or_lt_two_pow last.toNat_lt (by decide)
  have small : ∀ value ∈ [last.toNat ||| 0x80, 0x00], value < 256 := by
    intro value member
    rcases List.mem_pair.mp member with rfl | rfl
    · exact bound
    · decide
  have byte : UInt8.ofNat (last.toNat ||| 0x80) = last ||| 0x80 := by
    apply UInt8.toNat_inj.mp
    rw [UInt8.toNat_ofNat', Nat.mod_eq_of_lt bound, UInt8.toNat_or]
    rfl
  rw [List.concat_eq_append, Leb128.stretch_concat, List.dropLast_concat, List.getLastD_concat,
    pyBytes_ok small, List.map_cons, byte]
  rfl

theorem encodeChunkOffset_eq (chunkOffset : Option Nat) :
    encodeChunkOffset chunkOffset = .ok (chunkField chunkOffset) := by
  cases chunkOffset with
  | some offset => exact encodeVarint_eq offset
  | none => rfl

theorem padLength_eq (pktLen : Nat) (chunkOffset : Option Nat) :
    padLength (Leb128.encode pktLen)
        (3 + (Leb128.encode pktLen).length + (chunkField chunkOffset).length) =
      .ok (lengthField pktLen chunkOffset) := by
  unfold padLength lengthField
  split
  · exact stretch_eq_pyBytes (Leb128.isVarint_encode pktLen).ne_nil
  · rfl

/-- **A header raises exactly when its three head bytes do.** -/
theorem buildGipHeader_eq (cmd opts seq pktLen : Nat) (chunkOffset : Option Nat) :
    buildGipHeader cmd opts seq pktLen chunkOffset =
      (pyBytes [cmd, opts, seq]).map
        (· ++ lengthField pktLen chunkOffset ++ chunkField chunkOffset) := by
  unfold buildGipHeader
  rw [encodeVarint_eq, encodeChunkOffset_eq]
  simp only [bind, Except.bind, padLength_eq]
  cases pyBytes [cmd, opts, seq] <;> rfl

/-- **A packet raises exactly when its three head bytes do.** -/
theorem buildPacket_eq (cmd options seq : Nat) (payload : List UInt8) :
    buildPacket cmd options seq payload =
      (pyBytes [cmd, options, seq]).map (· ++ headerVarint payload.length ++ payload) := by
  unfold buildPacket
  rw [buildGipHeader_eq, lengthField_none]
  cases pyBytes [cmd, options, seq] with
  | error error => rfl
  | ok head =>
    simp only [Except.map, bind, Except.bind, chunkField, List.append_nil]
    rfl

/-- With byte-sized arguments a packet is built. -/
theorem buildBytes_of_lt {cmd options seq : Nat} {values : List Nat} (cmdByte : cmd < 256)
    (optionsByte : options < 256) (seqByte : seq < 256)
    (small : ∀ value ∈ values, value < 256) :
    buildBytes cmd options seq values =
      .ok ([UInt8.ofNat cmd, UInt8.ofNat options, UInt8.ofNat seq] ++
        headerVarint (values.map UInt8.ofNat).length ++ values.map UInt8.ofNat) := by
  rw [buildBytes, pyBytes_ok small]
  simp only [bind, Except.bind]
  rw [buildPacket_eq, pyBytes_ok (by simp [cmdByte, optionsByte, seqByte])]
  rfl

/-- **The sequence number is turned into a byte**: from 256 on that raises. -/
theorem buildBytes_overflow {seq : Nat} {values : List Nat} (large : 256 ≤ seq)
    (small : ∀ value ∈ values, value < 256) (cmd options : Nat) :
    buildBytes cmd options seq values = .error .valueError := by
  have member : seq ∈ [cmd, options, seq] := by simp
  rw [buildBytes, pyBytes_ok small]
  simp only [bind, Except.bind]
  rw [buildPacket_eq, pyBytes_error member large]
  rfl

end Wolverine.Python
