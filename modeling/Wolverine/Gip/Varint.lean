/-
**The varint loops of `gip.rs` against LEB128.**

* `writeVarint_eq` — the writer emits the shortest encoding.
* `headerVarint` — the length field of a built header: the shortest encoding, stretched by one byte
  where the header would have odd length. It is a varint of the payload length
  (`value_headerVarint`) of at most five bytes (`length_headerVarint_le`).
* `readVarint_ok` — as long as the bytes consumed are at most five, no shift overflows and the
  reader returns the LEB128 value reduced to a `u32`, or `none` where the buffer ends first.
* `readVarint_overflow` — a sixth byte is shifted by 35: the overflow check of a debug build fails.
-/

import Wolverine.Base.Leb128
import Wolverine.Gip.Wire

namespace Wolverine.Gip

open Wolverine.Rust

/-! ### Writing -/

/-- The writer emits the shortest encoding. -/
theorem writeVarint_eq (value : Nat) : writeVarint value = Leb128.encode value := by
  induction value using Leb128.encode.induct with
  | case1 value small =>
    have shifted : value >>> 7 = 0 := by rw [Leb128.shiftRight_group, Nat.div_eq_of_lt small]
    have masked : value &&& 0x7f = value := by rw [Leb128.and_low7, Nat.mod_eq_of_lt small]
    rw [writeVarint, Leb128.encode_small small]
    simp only [shifted, masked, ne_eq, not_true_eq_false, if_false]
  | case2 value large ih =>
    have shifted := Leb128.shiftRight_group value
    have masked := Leb128.and_low7 value
    have more : value / 128 ≠ 0 := by omega
    have head := Leb128.ofNat_or_continue (show value % 128 < 128 by omega)
    rw [writeVarint, Leb128.encode_large (by omega)]
    simp only [shifted, masked, ne_eq, more, not_false_eq_true, if_true, head, ih]

/-! ### The length field of a header -/

/-- The length field: stretched where the header would be odd. -/
def headerVarint (payloadLen : Nat) : List UInt8 :=
  if (3 + (Leb128.encode payloadLen).length) % 2 ≠ 0 then
    Leb128.stretch (Leb128.encode payloadLen)
  else Leb128.encode payloadLen

/-- Setting the continuation bit of the last byte and appending a zero byte stretches a varint. -/
theorem stretch_eq_set {bytes : List UInt8} (nonempty : bytes ≠ []) :
    bytes.set (bytes.length - 1) (bytes.getD (bytes.length - 1) 0 ||| 0x80) ++ [0x00] =
      Leb128.stretch bytes := by
  rw [← List.dropLast_append_getLast nonempty, Leb128.stretch_concat]
  generalize bytes.dropLast = init
  generalize bytes.getLast nonempty = last
  rw [List.length_append, List.length_singleton, Nat.add_sub_cancel,
    List.set_append_right _ _ (by omega),
    List.getD_append_right _ _ _ _ (by omega), Nat.sub_self, List.append_assoc]
  rfl

theorem buildHeader_eq (cmd options seq : UInt8) (payloadLen : Nat) :
    buildHeader cmd options seq payloadLen = [cmd, options, seq] ++ headerVarint payloadLen := by
  have nonempty := (Leb128.isVarint_encode payloadLen).ne_nil
  unfold buildHeader headerVarint
  rw [writeVarint_eq]
  simp only [stretch_eq_set nonempty]

theorem isVarint_headerVarint (payloadLen : Nat) : Leb128.IsVarint (headerVarint payloadLen) := by
  have encoded := Leb128.isVarint_encode payloadLen
  unfold headerVarint
  split
  · exact Leb128.isVarint_stretch encoded
  · exact encoded

theorem value_headerVarint (payloadLen : Nat) :
    Leb128.value (headerVarint payloadLen) = payloadLen := by
  unfold headerVarint
  split
  · rw [Leb128.value_stretch, Leb128.value_encode]
  · exact Leb128.value_encode payloadLen

/-- **The header has even length**, whatever the payload length. -/
theorem even_headerVarint (payloadLen : Nat) : Even (3 + (headerVarint payloadLen).length) := by
  have nonempty := (Leb128.isVarint_encode payloadLen).ne_nil
  rw [Nat.even_iff]
  unfold headerVarint
  split
  · rw [Leb128.length_stretch nonempty]
    omega
  · omega

theorem length_headerVarint_le {payloadLen : Nat} (fits : payloadLen < u32Size) :
    (headerVarint payloadLen).length ≤ 5 := by
  have nonempty := (Leb128.isVarint_encode payloadLen).ne_nil
  have short : (Leb128.encode payloadLen).length ≤ 5 := by
    apply Leb128.encode_length_le (by decide)
    unfold u32Size at fits
    omega
  unfold headerVarint
  split
  · rw [Leb128.length_stretch nonempty]
    omega
  · exact short

/-! ### Reading -/

/-- Bits put above a number of `low` bits. -/
theorem add_shifted_lt {value bits low width : Nat} (below : value < 2 ^ low)
    (small : bits < 2 ^ width) : value + bits * 2 ^ low < 2 ^ (width + low) := by
  calc value + bits * 2 ^ low < 2 ^ low + bits * 2 ^ low := Nat.add_lt_add_right below _
    _ = (bits + 1) * 2 ^ low := by ring
    _ ≤ 2 ^ width * 2 ^ low := Nat.mul_le_mul_right _ small
    _ = 2 ^ (width + low) := (pow_add 2 width low).symm

/-- ORing seven fresh bits in above an accumulator adds them, up to the width of a `u32`. -/
theorem or_shl_eq {value shift : Nat} (bits : Nat) (below : value < 2 ^ shift)
    (small : shift ≤ 32) :
    value ||| bits <<< shift % u32Size = (value + bits * 2 ^ shift) % u32Size := by
  have width : u32Size = 2 ^ (32 - shift) * 2 ^ shift := by
    rw [← pow_add, Nat.sub_add_cancel small]
    rfl
  have kept : bits <<< shift % u32Size = (bits % 2 ^ (32 - shift)) <<< shift := by
    rw [Nat.shiftLeft_eq, Nat.shiftLeft_eq, width, Nat.mul_mod_mul_right]
  have bound : value + (bits % 2 ^ (32 - shift)) * 2 ^ shift < u32Size := by
    rw [width, ← pow_add]
    exact add_shifted_lt below (Nat.mod_lt _ (Nat.two_pow_pos _))
  calc value ||| bits <<< shift % u32Size
      = (bits % 2 ^ (32 - shift)) <<< shift + value := by
        rw [kept, Nat.or_comm, Nat.shiftLeft_add_eq_or_of_lt below]
    _ = (value + (bits % 2 ^ (32 - shift)) * 2 ^ shift) % u32Size := by
        rw [Nat.mod_eq_of_lt bound, Nat.shiftLeft_eq, Nat.add_comm]
    _ = (value + bits * 2 ^ shift) % u32Size := by
        rw [Nat.add_mod, ← Nat.mul_mod_mul_right, ← width, Nat.mod_mod, ← Nat.add_mod]

theorem readVarintLoop_last {profile : Profile} {byte : UInt8} {shift : Nat}
    (last : Leb128.continues byte = false) (small : shift < 32) (value consumed : Nat)
    (rest : List UInt8) :
    readVarintLoop profile value shift consumed (byte :: rest) =
      .ok (some (value ||| Leb128.low7 byte <<< shift % u32Size, consumed + 1)) := by
  have stop : byte &&& 0x80 = 0 := by simpa [Leb128.continues] using last
  rw [readVarintLoop, shlU32_small profile small]
  simp only [bind, Except.bind, stop, if_true]
  rfl

theorem readVarintLoop_continue {profile : Profile} {byte : UInt8} {shift : Nat}
    (more : Leb128.continues byte = true) (small : shift < 32) (value consumed : Nat)
    (rest : List UInt8) :
    readVarintLoop profile value shift consumed (byte :: rest) =
      readVarintLoop profile (value ||| Leb128.low7 byte <<< shift % u32Size) (shift + 7)
        (consumed + 1) rest := by
  have go : byte &&& 0x80 ≠ 0 := by simpa [Leb128.continues] using more
  rw [readVarintLoop, shlU32_small profile small]
  simp only [bind, Except.bind, go, if_false]
  rfl

/-- **The loop invariant.** Before byte `count` of at most five the accumulator is below
`2 ^ (7 * count)`, so each byte adds its seven bits. -/
theorem readVarintLoop_ok (profile : Profile) (bytes : List UInt8) :
    ∀ count value consumed : Nat, count + (Leb128.run bytes).length ≤ 5 →
      value < 2 ^ (7 * count) →
      readVarintLoop profile value (7 * count) consumed bytes =
        .ok (if Leb128.ends bytes then
          some ((value + Leb128.value (Leb128.run bytes) * 2 ^ (7 * count)) % u32Size,
            consumed + (Leb128.run bytes).length)
          else none) := by
  induction bytes with
  | nil =>
    intro count value consumed _ _
    rfl
  | cons byte rest ih =>
    intro count value consumed short below
    have head := Leb128.low7_lt byte
    by_cases more : Leb128.continues byte = true
    · rw [Leb128.run_cons_continues more] at short ⊢
      rw [Leb128.ends_cons_continues more]
      rw [List.length_cons] at short ⊢
      rw [readVarintLoop_continue more (by omega), or_shl_eq _ below (by omega)]
      by_cases room : count + 1 ≤ 4
      · have next : value + Leb128.low7 byte * 2 ^ (7 * count) < 2 ^ (7 * (count + 1)) := by
          rw [show 7 * (count + 1) = 7 + 7 * count by ring]
          exact add_shifted_lt below head
        have exact_ : value + Leb128.low7 byte * 2 ^ (7 * count) < u32Size :=
          lt_of_lt_of_le next (Nat.pow_le_pow_right (by decide) (by omega))
        rw [Nat.mod_eq_of_lt exact_, show 7 * count + 7 = 7 * (count + 1) by ring,
          ih (count + 1) _ _ (by omega) next]
        congr 1
        split
        · congr 2
          · rw [Leb128.value, show 7 * (count + 1) = 7 * count + 7 by ring, pow_add]
            congr 1
            ring
          · omega
        · rfl
      · -- the fifth byte continues: nothing may follow it
        have none : Leb128.run rest = [] := List.length_eq_zero_iff.mp (by omega)
        have empty : rest = [] := by
          cases rest with
          | nil => rfl
          | cons second rest =>
            rw [Leb128.run] at none
            split at none <;> cases none
        rw [empty]
        rfl
    · have last := Bool.eq_false_iff.mpr more
      rw [Leb128.run_cons_last last, List.length_singleton] at short ⊢
      rw [Leb128.ends_cons_last last, readVarintLoop_last last (by omega),
        or_shl_eq _ below (by omega)]
      simp only [Leb128.value, Nat.mul_zero, Nat.add_zero, if_true]

/-- **A sixth byte overflows the shift.** -/
theorem readVarintLoop_overflow (bytes : List UInt8) :
    ∀ count value consumed : Nat, count ≤ 5 → 5 < count + (Leb128.run bytes).length →
      readVarintLoop .debug value (7 * count) consumed bytes = .error .shiftOverflow := by
  induction bytes with
  | nil =>
    intro count value consumed small long
    simp only [Leb128.run, List.length_nil] at long
    omega
  | cons byte rest ih =>
    intro count value consumed small long
    by_cases sixth : count = 5
    · subst sixth
      rw [readVarintLoop, shlU32_debug_large (by decide)]
      rfl
    · have more : Leb128.continues byte = true := by
        by_contra stop
        rw [Leb128.run_cons_last (Bool.eq_false_iff.mpr stop), List.length_singleton] at long
        omega
      rw [Leb128.run_cons_continues more, List.length_cons] at long
      rw [readVarintLoop_continue more (by omega), show 7 * count + 7 = 7 * (count + 1) by ring]
      exact ih (count + 1) _ _ (by omega) (by omega)

/-- **Up to five bytes the reader is LEB128**, reduced to a `u32`. -/
theorem readVarint_ok (profile : Profile) (buf : List UInt8) (pos : Nat)
    (short : (Leb128.run (buf.drop pos)).length ≤ 5) :
    readVarint profile buf pos =
      .ok (if Leb128.ends (buf.drop pos) then
        some (Leb128.value (Leb128.run (buf.drop pos)) % u32Size,
          (Leb128.run (buf.drop pos)).length)
        else none) := by
  have loop := readVarintLoop_ok profile (buf.drop pos) 0 0 0 (by omega) (by decide)
  rw [Nat.mul_zero] at loop
  rw [readVarint, loop]
  simp only [pow_zero, Nat.mul_one, Nat.zero_add]

/-- **From six bytes on a debug build panics.** -/
theorem readVarint_overflow (buf : List UInt8) (pos : Nat)
    (long : 5 < (Leb128.run (buf.drop pos)).length) :
    readVarint .debug buf pos = .error .shiftOverflow :=
  readVarintLoop_overflow (buf.drop pos) 0 0 0 (by decide) (by omega)

end Wolverine.Gip
