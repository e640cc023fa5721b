/-
**The packet encoder of `probe_gip.py`, and the three encoders side by side.**

`probe_gip.py` builds its packets on its own: `encode_varint` is the text of `gip_init.py`, and
`build_packet` pads the finished header instead of the length field.

`build_packet_agree` — on byte-sized arguments the encoders of `gip.rs`, `gip_init.py` and
`probe_gip.py` build the same packet, whatever its payload.
-/

import Wolverine.Python.Wire

namespace Wolverine.Python

open Wolverine.Gip (headerVarint)
open Wolverine.Rust (u32Size)

namespace Probe

def encodeVarint (value : Nat) : Except PyError (List UInt8) := Python.encodeVarint value

/-- Pad an odd header: its last length byte continues into a zero byte. -/
def padHeader (cmd options seq : Nat) (lengthBytes header : List UInt8) :
    Except PyError (List UInt8) :=
  if header.length % 2 ≠ 0 then do
    let last ← pyIndex lengthBytes (lengthBytes.length - 1)
    let more ← pyBytes [last.toNat ||| 0x80, 0x00]
    let head ← pyBytes [cmd, options, seq]
    return head ++ (lengthBytes.dropLast ++ more)
  else return header

def buildPacket (cmd options seq : Nat) (payload : List UInt8) : Except PyError (List UInt8) := do
  let lengthBytes ← encodeVarint payload.length
  let head ← pyBytes [cmd, options, seq]
  let header ← padHeader cmd options seq lengthBytes (head ++ lengthBytes)
  return header ++ payload

/-- `data[-1]` of a non-empty value. -/
theorem pyIndex_last {bytes : List UInt8} (nonempty : bytes ≠ []) :
    pyIndex bytes (bytes.length - 1) = .ok (bytes.getLastD 0) := by
  obtain ⟨init, last, rfl⟩ := List.eq_nil_or_concat bytes |>.resolve_left nonempty
  rw [pyIndex, List.concat_eq_append, List.getLastD_concat, List.length_append,
    List.length_singleton, Nat.add_sub_cancel, List.getElem?_concat_length]

/-- **Padding the header pads the length field.** -/
theorem padHeader_eq {cmd options seq : Nat} {head : List UInt8}
    (built : pyBytes [cmd, options, seq] = .ok head) (three : head.length = 3) (length : Nat) :
    padHeader cmd options seq (Leb128.encode length) (head ++ Leb128.encode length) =
      .ok (head ++ headerVarint length) := by
  have nonempty := (Leb128.isVarint_encode length).ne_nil
  have size : (head ++ Leb128.encode length).length = 3 + (Leb128.encode length).length := by
    rw [List.length_append, three]
  unfold padHeader headerVarint
  rw [size]
  split
  · have stretched := stretch_eq_pyBytes nonempty
    rw [pyIndex_last nonempty, built]
    simp only [bind, Except.bind]
    generalize pyBytes [((Leb128.encode length).getLastD 0).toNat ||| 0x80, 0x00] = more
      at stretched ⊢
    cases more with
    | error error => cases stretched
    | ok more =>
      rw [← Except.ok.inj stretched]
      rfl
  · rfl

theorem length_pyBytes {values : List Nat} {bytes : List UInt8}
    (built : pyBytes values = .ok bytes) : bytes.length = values.length := by
  rw [pyBytes] at built
  split at built
  · cases built
    exact List.length_map _
  · cases built

/-- **A packet raises exactly when its three head bytes do.** -/
theorem buildPacket_eq (cmd options seq : Nat) (payload : List UInt8) :
    buildPacket cmd options seq payload = Python.buildPacket cmd options seq payload := by
  rw [Python.buildPacket_eq, buildPacket, encodeVarint, encodeVarint_eq]
  simp only [bind, Except.bind]
  generalize built : pyBytes [cmd, options, seq] = head
  cases head with
  | error error => rfl
  | ok head =>
    simp only [padHeader_eq built (length_pyBytes built)]
    rfl

end Probe

/-- **The three packet encoders agree.** -/
theorem build_packet_agree (cmd options seq : UInt8) {payload : List UInt8}
    (fits : payload.length < 2 ^ 32) :
    buildPacket cmd.toNat options.toNat seq.toNat payload =
        .ok (Gip.buildPacket cmd options seq payload) ∧
      Probe.buildPacket cmd.toNat options.toNat seq.toNat payload =
        .ok (Gip.buildPacket cmd options seq payload) := by
  have head : pyBytes [cmd.toNat, options.toNat, seq.toNat] = .ok [cmd, options, seq] := by
    have small : ∀ value ∈ [cmd, options, seq].map UInt8.toNat, value < 256 := by
      intro value member
      obtain ⟨byte, -, rfl⟩ := List.mem_map.mp member
      exact byte.toNat_lt
    have built := pyBytes_ok small
    have back : UInt8.ofNat ∘ UInt8.toNat = id := by
      funext byte
      exact UInt8.ofNat_toNat
    rw [List.map_map, back, List.map_id] at built
    exact built
  have declared : payload.length % u32Size = payload.length := Nat.mod_eq_of_lt fits
  have python : buildPacket cmd.toNat options.toNat seq.toNat payload =
      .ok (Gip.buildPacket cmd options seq payload) := by
    rw [buildPacket_eq, head, Gip.buildPacket, Gip.buildHeader_eq, declared]
    rfl
  exact ⟨python, (Probe.buildPacket_eq _ _ _ payload).trans python⟩

/-- A frame of 192 bytes: the length has two bytes, and a third to make the header even. -/
theorem build_packet_agree_audio :
    (buildPacket (0x60 : UInt8).toNat (0x21 : UInt8).toNat (1 : UInt8).toNat
        (List.replicate 192 7) = .ok (Gip.buildPacket 0x60 0x21 1 (List.replicate 192 7)) ∧
      Probe.buildPacket (0x60 : UInt8).toNat (0x21 : UInt8).toNat (1 : UInt8).toNat
        (List.replicate 192 7) = .ok (Gip.buildPacket 0x60 0x21 1 (List.replicate 192 7))) ∧
    Gip.buildPacket 0x60 0x21 1 (List.replicate 192 7) =
      [0x60, 0x21, 0x01, 0xc0, 0x81, 0x00] ++ List.replicate 192 7 :=
  ⟨build_packet_agree 0x60 0x21 1 (by rw [List.length_replicate]; decide), by decide +kernel⟩

end Wolverine.Python
