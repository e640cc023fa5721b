/-
**Unsigned LEB128: seven value bits a byte, least significant group first.**

A byte carries seven value bits (`low7`) and a continuation bit (`continues`). A varint is read
up to and including its first byte without the continuation bit.

* `value bytes` is the number a byte string stands for; `value_eq_sum` is the closed form
  `Σ (b_i & 0x7f) * 2 ^ (7 * i)`.
* `run bytes` is the prefix a reader consumes, and `ends bytes` says whether that prefix is
  complete or was cut off by the end of the input.
* `encode n` is the shortest varint of `n`; `stretch` lengthens a varint by one byte without
  changing its value (`value_encode`, `value_stretch`). Both are varints, and a varint is read
  back exactly, whatever follows it (`IsVarint.append`).
-/

import Mathlib.Tactic
import Mathlib.Algebra.BigOperators.Intervals
import Mathlib.Data.Nat.Bitwise

namespace Wolverine.Leb128

/-! ### Bytes -/

/-- The seven value bits of a byte. -/
def low7 (byte : UInt8) : Nat := (byte &&& 0x7f).toNat

/-- The continuation bit: another byte of the same number follows. -/
def continues (byte : UInt8) : Bool := byte &&& 0x80 ≠ 0

theorem low7_eq (byte : UInt8) : low7 byte = byte.toNat % 128 := by
  rw [low7, UInt8.toNat_and]
  exact Nat.and_two_pow_sub_one_eq_mod byte.toNat 7

theorem low7_lt (byte : UInt8) : low7 byte < 128 := by
  rw [low7_eq]
  omega

theorem continues_iff (byte : UInt8) : continues byte = true ↔ 128 ≤ byte.toNat := by
  have bound : byte.toNat < 256 := byte.toNat_lt
  have masked : (byte &&& 0x80).toNat = (byte.toNat.testBit 7).toNat * 2 ^ 7 := by
    rw [UInt8.toNat_and]
    exact Nat.and_two_pow byte.toNat 7
  have bit : byte.toNat.testBit 7 = decide (128 ≤ byte.toNat) := by
    rw [Nat.testBit_eq_decide_div_mod_eq, decide_eq_decide]
    omega
  rw [continues, decide_eq_true_iff, Ne, ← UInt8.toNat_inj, masked, bit]
  by_cases high : 128 ≤ byte.toNat <;> simp [high]

theorem continues_eq_false_iff (byte : UInt8) : continues byte = false ↔ byte.toNat < 128 := by
  rw [← Bool.not_eq_true, continues_iff, not_le]

/-- Setting the continuation bit keeps the seven value bits. -/
theorem low7_or_continue (byte : UInt8) : low7 (byte ||| 0x80) = low7 byte := by
  rw [low7, low7, UInt8.toNat_and, UInt8.toNat_and, UInt8.toNat_or, Nat.and_or_distrib_right]
  simp

theorem continues_or_continue (byte : UInt8) : continues (byte ||| 0x80) = true := by
  rw [continues_iff, UInt8.toNat_or]
  exact Nat.right_le_or

/-- A seven-bit group with the continuation bit set, as a number. -/
theorem or_continue {group : Nat} (small : group < 128) : group ||| 128 = group + 128 := by
  rw [Nat.or_comm, Nat.add_comm group]
  exact (Nat.two_pow_add_eq_or_of_lt (show group < 2 ^ 7 from small) 1).symm

/-- The lowest group of a number. -/
theorem and_low7 (n : Nat) : n &&& 0x7f = n % 128 := Nat.and_two_pow_sub_one_eq_mod n 7

/-- The groups above it. -/
theorem shiftRight_group (n : Nat) : n >>> 7 = n / 128 := Nat.shiftRight_eq_div_pow n 7

/-- A seven-bit group with the continuation bit set, as a byte. -/
theorem ofNat_or_continue {group : Nat} (small : group < 128) :
    UInt8.ofNat group ||| 0x80 = UInt8.ofNat (group + 128) := by
  apply UInt8.toNat_inj.mp
  calc (UInt8.ofNat group ||| 0x80).toNat = group ||| 128 := by
        rw [UInt8.toNat_or, UInt8.toNat_ofNat', Nat.mod_eq_of_lt (by omega)]
        rfl
    _ = (UInt8.ofNat (group + 128)).toNat := by
        rw [or_continue small, UInt8.toNat_ofNat', Nat.mod_eq_of_lt (by omega)]

/-! ### The value of a byte string -/

/-- The number a byte string stands for, whatever its continuation bits. -/
def value : List UInt8 → Nat
  | [] => 0
  | byte :: rest => low7 byte + 128 * value rest

/-- The closed form: byte `i` weighs `2 ^ (7 * i)`. -/
theorem value_eq_sum (bytes : List UInt8) :
    value bytes = ∑ i ∈ Finset.range bytes.length, low7 (bytes.getD i 0) * 2 ^ (7 * i) := by
  induction bytes with
  | nil => rfl
  | cons byte rest ih =>
    rw [value, ih, List.length_cons, Finset.sum_range_succ', Finset.mul_sum, add_comm]
    congr 1
    · refine Finset.sum_congr rfl fun i _ => ?_
      rw [List.getD_cons_succ, show 7 * (i + 1) = 7 + 7 * i by ring, pow_add]
      ring
    · simp

/-! ### Reading: the bytes consumed -/

/-- The bytes a reader consumes: up to and including the first without the continuation bit. -/
def run : List UInt8 → List UInt8
  | [] => []
  | byte :: rest => if continues byte then byte :: run rest else [byte]

/-- The bytes hold a complete number: some byte lacks the continuation bit. -/
def ends : List UInt8 → Bool
  | [] => false
  | byte :: rest => if continues byte then ends rest else true

theorem run_cons_continues {byte : UInt8} (more : continues byte = true) (rest : List UInt8) :
    run (byte :: rest) = byte :: run rest := by rw [run, if_pos more]

theorem run_cons_last {byte : UInt8} (last : continues byte = false) (rest : List UInt8) :
    run (byte :: rest) = [byte] := by simp [run, last]

theorem ends_cons_continues {byte : UInt8} (more : continues byte = true) (rest : List UInt8) :
    ends (byte :: rest) = ends rest := by rw [ends, if_pos more]

theorem ends_cons_last {byte : UInt8} (last : continues byte = false) (rest : List UInt8) :
    ends (byte :: rest) = true := by simp [ends, last]

/-- A reader never consumes more than there is. -/
theorem run_length_le (bytes : List UInt8) : (run bytes).length ≤ bytes.length := by
  induction bytes with
  | nil => exact le_refl _
  | cons byte rest ih =>
    rw [run]
    split <;> simp only [List.length_cons, List.length_nil] <;> omega

/-- Where no number ends, a reader consumes everything. -/
theorem run_eq_self {bytes : List UInt8} (cut : ¬ ends bytes = true) : run bytes = bytes := by
  induction bytes with
  | nil => rfl
  | cons byte rest ih =>
    cases more : continues byte
    · exact absurd (ends_cons_last more rest) cut
    · rw [ends_cons_continues more] at cut
      rw [run_cons_continues more, ih cut]

/-- A varint: its own run, and complete. -/
def IsVarint (bytes : List UInt8) : Prop := run bytes = bytes ∧ ends bytes = true

instance (bytes : List UInt8) : Decidable (IsVarint bytes) :=
  inferInstanceAs (Decidable (_ ∧ _))

theorem isVarint_last {byte : UInt8} (last : continues byte = false) : IsVarint [byte] :=
  ⟨run_cons_last last [], ends_cons_last last []⟩

theorem isVarint_cons {byte : UInt8} {rest : List UInt8} (more : continues byte = true)
    (varint : IsVarint rest) : IsVarint (byte :: rest) :=
  ⟨by rw [run_cons_continues more, varint.1], by rw [ends_cons_continues more, varint.2]⟩

theorem IsVarint.tail {byte : UInt8} {rest : List UInt8} (varint : IsVarint (byte :: rest))
    (more : continues byte = true) : IsVarint rest := by
  obtain ⟨same, complete⟩ := varint
  rw [run_cons_continues more, List.cons.injEq] at same
  rw [ends_cons_continues more] at complete
  exact ⟨same.2, complete⟩

theorem IsVarint.eq_nil {byte : UInt8} {rest : List UInt8} (varint : IsVarint (byte :: rest))
    (last : continues byte = false) : rest = [] := by
  have same := varint.1
  rw [run_cons_last last, List.cons.injEq] at same
  exact same.2.symm

/-- **A varint is read back whatever follows it.** -/
theorem IsVarint.append {bytes : List UInt8} (varint : IsVarint bytes) (rest : List UInt8) :
    run (bytes ++ rest) = bytes ∧ ends (bytes ++ rest) = true := by
  induction bytes with
  | nil => exact absurd varint.2 (by simp [ends])
  | cons byte tail ih =>
    by_cases more : continues byte = true
    · have tailVarint := varint.tail more
      rw [List.cons_append, run_cons_continues more, ends_cons_continues more]
      exact ⟨by rw [(ih tailVarint).1], (ih tailVarint).2⟩
    · have last := Bool.eq_false_iff.mpr more
      rw [List.cons_append, run_cons_last last, ends_cons_last last, varint.eq_nil last]
      exact ⟨rfl, rfl⟩

theorem IsVarint.ne_nil {bytes : List UInt8} (varint : IsVarint bytes) : bytes ≠ [] := by
  rintro rfl
  exact absurd varint.2 (by simp [ends])

/-! ### The shortest encoding -/

/-- The shortest varint of `n`. -/
def encode (n : Nat) : List UInt8 :=
  if n < 128 then [UInt8.ofNat n] else UInt8.ofNat (n % 128 + 128) :: encode (n / 128)

theorem encode_small {n : Nat} (small : n < 128) : encode n = [UInt8.ofNat n] := by
  rw [encode, if_pos small]

theorem encode_large {n : Nat} (large : 128 ≤ n) :
    encode n = UInt8.ofNat (n % 128 + 128) :: encode (n / 128) := by
  rw [encode, if_neg (by omega)]

theorem isVarint_encode (n : Nat) : IsVarint (encode n) := by
  induction n using encode.induct with
  | case1 n small =>
    rw [encode_small small]
    apply isVarint_last
    rw [continues_eq_false_iff, UInt8.toNat_ofNat']
    omega
  | case2 n large ih =>
    rw [encode_large (by omega)]
    apply isVarint_cons _ ih
    rw [continues_iff, UInt8.toNat_ofNat']
    omega

theorem value_encode (n : Nat) : value (encode n) = n := by
  induction n using encode.induct with
  | case1 n small =>
    rw [encode_small small, value, value, low7_eq, UInt8.toNat_ofNat']
    omega
  | case2 n large ih =>
    rw [encode_large (by omega), value, ih, low7_eq, UInt8.toNat_ofNat']
    omega

/-- `count` bytes are enough for a number below `128 ^ count`. -/
theorem encode_length_le {count n : Nat} (positive : 0 < count) (bound : n < 128 ^ count) :
    (encode n).length ≤ count := by
  induction count generalizing n with
  | zero => omega
  | succ count ih =>
    by_cases small : n < 128
    · rw [encode_small small, List.length_singleton]
      omega
    · have more : 0 < count := by
        rcases Nat.eq_zero_or_pos count with rfl | more
        · simp at bound
          omega
        · exact more
      have tail : n / 128 < 128 ^ count := by
        rw [Nat.div_lt_iff_lt_mul (by decide)]
        rw [pow_succ] at bound
        exact bound
      rw [encode_large (by omega), List.length_cons]
      exact Nat.succ_le_succ (ih more tail)

/-! ### One byte more, the same value -/

/-- Lengthen a varint by one byte: its last byte continues into a zero byte. -/
def stretch : List UInt8 → List UInt8
  | [] => []
  | [byte] => [byte ||| 0x80, 0x00]
  | byte :: rest => byte :: stretch rest

theorem stretch_concat (init : List UInt8) (last : UInt8) :
    stretch (init ++ [last]) = init ++ [last ||| 0x80, 0x00] := by
  induction init with
  | nil => rfl
  | cons byte rest ih =>
    cases rest with
    | nil => rfl
    | cons second rest =>
      rw [List.cons_append, List.cons_append, stretch, ← List.cons_append, ih]
      · rfl
      · simp

theorem length_stretch {bytes : List UInt8} (nonempty : bytes ≠ []) :
    (stretch bytes).length = bytes.length + 1 := by
  rw [← List.dropLast_append_getLast nonempty, stretch_concat]
  simp

theorem value_stretch (bytes : List UInt8) : value (stretch bytes) = value bytes := by
  induction bytes using stretch.induct with
  | case1 => rfl
  | case2 byte =>
    have terminator : low7 0x00 = 0 := by decide
    simp only [stretch, value, low7_or_continue, terminator, Nat.mul_zero, Nat.add_zero]
  | case3 byte rest more ih =>
    rw [stretch, value, value, ih]
    exact more

theorem isVarint_stretch {bytes : List UInt8} (varint : IsVarint bytes) :
    IsVarint (stretch bytes) := by
  induction bytes using stretch.induct with
  | case1 => exact varint
  | case2 byte =>
    rw [stretch]
    exact isVarint_cons (continues_or_continue byte) (isVarint_last (by decide))
  | case3 byte rest nonempty ih =>
    have more : continues byte = true := by
      by_contra stop
      exact nonempty (varint.eq_nil (Bool.eq_false_iff.mpr stop))
    rw [stretch]
    · exact isVarint_cons more (ih (varint.tail more))
    · exact nonempty

end Wolverine.Leb128
