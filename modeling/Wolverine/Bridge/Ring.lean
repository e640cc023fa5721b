/-
**The rings of the C bridge, `wolverine_pw.c`.**

A ring is a buffer of 512 KiB with two free-running 32-bit cursors; a cell index is a cursor masked
to 19 bits. `ring_write` drops the oldest bytes to make room, `ring_read` takes the oldest. Both
hold the lock of the ring from their first look at a cursor to their last change of one, so calls
are atomic.

* `content` — the depth is the difference of the cursors, the content the window of that many cells
  from the read cursor on.
* `ring_refines_queue` — every sequence of calls answers as the bounded queue that keeps the latest
  bytes does, and leaves its content.
-/

import Wolverine.Base.Cyclic
import Wolverine.Base.Machine

namespace Wolverine.Bridge

open Wolverine.Cyclic Wolverine.Machine

/-! ### The ring -/

def ringCap : UInt32 := (1 : UInt32) <<< (19 : UInt32)
def ringMask : UInt32 := ringCap - 1

theorem ringCap_toNat : ringCap.toNat = 524288 := rfl

instance : NeZero ringCap.toNat := ⟨by decide⟩

/-- The cell index of a cursor. -/
def ringIndex (cursor : UInt32) : Fin ringCap.toNat :=
  ⟨(cursor &&& ringMask).toNat, by
    rw [UInt32.toNat_and]
    exact lt_of_le_of_lt Nat.and_le_right (by decide)⟩

structure RingT where
  buf : Fin ringCap.toNat → UInt8
  /-- The write cursor. -/
  head : UInt32
  /-- The read cursor. -/
  tail : UInt32

/-- `ring_init`; `malloc` hands out memory with any content. -/
def ringInit (memory : Fin ringCap.toNat → UInt8) : RingT where
  buf := memory
  head := 0
  tail := 0

/-- The loop of `ring_write` over its first `count` bytes. -/
def writeLoop (buf : Fin ringCap.toNat → UInt8) (head : UInt32) (src : Nat → UInt8) :
    Nat → Fin ringCap.toNat → UInt8
  | 0 => buf
  | i + 1 =>
    Function.update (writeLoop buf head src i) (ringIndex (head + UInt32.ofNat i)) (src i)

/-- The loop of `ring_read` over its first `count` bytes. -/
def readLoop (buf : Fin ringCap.toNat → UInt8) (tail : UInt32) (dst : Nat → UInt8) :
    Nat → Nat → UInt8
  | 0 => dst
  | i + 1 =>
    Function.update (readLoop buf tail dst i) i (buf (ringIndex (tail + UInt32.ofNat i)))

/-- `ring_write` of `n` bytes at the pointer `src`, from the lock on. -/
def writeLocked (ring : RingT) (src : Nat → UInt8) (n : UInt32) : RingT :=
  let used := ring.head - ring.tail
  let space := ringCap - used
  -- drop oldest to make room
  let tail := if n > space then ring.tail + (n - space) else ring.tail
  { buf := writeLoop ring.buf ring.head src n.toNat, head := ring.head + n, tail }

/-- `ring_write` of `n` bytes at the pointer `src`. -/
def ringWrite (ring : RingT) (src : Nat → UInt8) (n : UInt32) : RingT :=
  if n > ringCap then writeLocked ring (fun i => src ((n - ringCap).toNat + i)) ringCap
  else writeLocked ring src n

/-- `ring_read` of up to `n` bytes to the pointer `dst`: how many, the memory at `dst`, and the
ring. -/
def ringRead (ring : RingT) (dst : Nat → UInt8) (n : UInt32) : UInt32 × (Nat → UInt8) × RingT :=
  let avail := ring.head - ring.tail
  let n := if n > avail then avail else n
  (n, readLoop ring.buf ring.tail dst n.toNat, { ring with tail := ring.tail + n })

/-- The first `count` bytes at a pointer. -/
def bytesAt (pointer : Nat → UInt8) (count : Nat) : List UInt8 := (List.range count).map pointer

@[simp] theorem length_bytesAt (pointer : Nat → UInt8) (count : Nat) :
    (bytesAt pointer count).length = count := by
  rw [bytesAt, List.length_map, List.length_range]

/-- What a caller asks of a ring. -/
inductive Call
  | write (src : Nat → UInt8) (n : UInt32)
  | read (dst : Nat → UInt8) (n : UInt32)

/-- A call, and the bytes that it returns. -/
def RingT.call (ring : RingT) : Call → RingT × List UInt8
  | .write src n => (ringWrite ring src n, [])
  | .read dst n =>
    let (got, dst, ring) := ringRead ring dst n
    (ring, bytesAt dst got.toNat)

/-- A call on the queue, and the bytes that it returns. -/
def queueCall (queue : Queue ringCap.toNat UInt8) : Call → Queue ringCap.toNat UInt8 × List UInt8
  | .write src n => (queue.write (bytesAt src n.toNat), [])
  | .read _ n =>
    let (taken, rest) := queue.read n.toNat
    (rest, taken)

/-! ### Cursors and cells -/

/-- The depth of a ring. -/
def RingT.used (ring : RingT) : Nat := (ring.head - ring.tail).toNat

/-- The content of a ring, oldest first. -/
def RingT.content (ring : RingT) : List UInt8 := window ring.buf ring.tail.toNat ring.used

@[simp] theorem length_content (ring : RingT) : ring.content.length = ring.used :=
  length_window _ _ _

/-- The masked index of a cursor is the cursor modulo the number of cells, also when the 32-bit
sum wraps. -/
theorem ringIndex_add (cursor : UInt32) (i : Nat) :
    ringIndex (cursor + UInt32.ofNat i) = Fin.ofNat ringCap.toNat (cursor.toNat + i) := by
  refine Fin.ext ?_
  show (cursor + UInt32.ofNat i &&& ringMask).toNat = (cursor.toNat + i) % ringCap.toNat
  have masked : (cursor + UInt32.ofNat i &&& ringMask).toNat =
      (cursor + UInt32.ofNat i).toNat % 2 ^ 19 := by
    rw [UInt32.toNat_and]
    exact Nat.and_two_pow_sub_one_eq_mod _ 19
  rw [masked, UInt32.toNat_add, UInt32.toNat_ofNat', ringCap_toNat]
  omega

theorem writeLoop_eq (buf : Fin ringCap.toNat → UInt8) (head : UInt32) (src : Nat → UInt8)
    (count : Nat) : writeLoop buf head src count = store buf head.toNat src count := by
  induction count with
  | zero => rfl
  | succ i ih => rw [writeLoop, store, ih, ringIndex_add]

theorem readLoop_apply (buf : Fin ringCap.toNat → UInt8) (tail : UInt32) (dst : Nat → UInt8)
    (count i : Nat) :
    readLoop buf tail dst count i =
      if i < count then buf (Fin.ofNat ringCap.toNat (tail.toNat + i)) else dst i := by
  induction count with
  | zero => rfl
  | succ k ih =>
    rw [readLoop, Function.update_apply, ih, ringIndex_add]
    by_cases last : i = k
    · rw [if_pos last, if_pos (by omega), last]
    · rw [if_neg last]
      by_cases inside : i < k
      · rw [if_pos inside, if_pos (by omega)]
      · rw [if_neg inside, if_neg (by omega)]

theorem used_eq (ring : RingT) :
    ring.used = (2 ^ 32 - ring.tail.toNat + ring.head.toNat) % 2 ^ 32 := UInt32.toNat_sub _ _

/-- A write moves the read cursor just as far as it makes room. -/
theorem toNat_writeLocked_tail {ring : RingT} (fits : ring.used ≤ ringCap.toNat)
    (src : Nat → UInt8) (n : UInt32) :
    (writeLocked ring src n).tail.toNat =
      (ring.tail.toNat + (n.toNat - (ringCap.toNat - ring.used))) % 2 ^ 32 := by
  have small := n.toNat_lt
  have space : (ringCap - (ring.head - ring.tail)).toNat = ringCap.toNat - ring.used :=
    UInt32.toNat_sub_of_le _ _ (UInt32.le_iff_toNat_le.mpr fits)
  show (if n > ringCap - (ring.head - ring.tail) then
    ring.tail + (n - (ringCap - (ring.head - ring.tail))) else ring.tail).toNat = _
  by_cases full : n > ringCap - (ring.head - ring.tail)
  · have dropped := UInt32.toNat_sub_of_le _ _ (UInt32.le_of_lt full)
    rw [if_pos full, UInt32.toNat_add, dropped, space]
  · have room : n.toNat ≤ ringCap.toNat - ring.used := by
      rw [← space]
      exact not_lt.mp fun more => full (UInt32.lt_iff_toNat_lt.mpr more)
    rw [if_neg full, Nat.sub_eq_zero_of_le room, Nat.add_zero, Nat.mod_eq_of_lt ring.tail.toNat_lt]

/-- The depth after a write. -/
theorem writeLocked_used {ring : RingT} (fits : ring.used ≤ ringCap.toNat)
    (src : Nat → UInt8) {n : UInt32} (small : n.toNat ≤ ringCap.toNat) :
    (writeLocked ring src n).used =
      ring.used - (n.toNat - (ringCap.toNat - ring.used)) + n.toNat := by
  have tail := toNat_writeLocked_tail fits src n
  have head : (writeLocked ring src n).head.toNat = (ring.head.toNat + n.toNat) % 2 ^ 32 :=
    UInt32.toNat_add _ _
  have before := used_eq ring
  have headSmall := ring.head.toNat_lt
  have tailSmall := ring.tail.toNat_lt
  rw [used_eq, head, tail]
  rw [ringCap_toNat] at fits small ⊢
  omega

/-- **A write drops just enough of the oldest bytes, and appends.** -/
theorem writeLocked_content {ring : RingT} (fits : ring.used ≤ ringCap.toNat)
    (src : Nat → UInt8) {n : UInt32} (small : n.toNat ≤ ringCap.toNat) :
    (writeLocked ring src n).content =
      ring.content.drop (n.toNat - (ringCap.toNat - ring.used)) ++ bytesAt src n.toNat := by
  have used := writeLocked_used fits src small
  have tail := toNat_writeLocked_tail fits src n
  generalize droppedEq : n.toNat - (ringCap.toNat - ring.used) = dropped at used tail ⊢
  have inside : dropped ≤ ring.used := by omega
  have round : ringCap.toNat ∣ 2 ^ 32 := by decide
  have start : (writeLocked ring src n).tail.toNat ≡ ring.tail.toNat + dropped
      [MOD ringCap.toNat] := by
    rw [tail]
    exact (Nat.mod_modEq _ _).of_dvd round
  have stop : ring.head.toNat ≡ ring.tail.toNat + dropped + (ring.used - dropped)
      [MOD ringCap.toNat] := by
    refine Nat.ModEq.of_dvd round ?_
    have before := used_eq ring
    have headSmall := ring.head.toNat_lt
    have tailSmall := ring.tail.toNat_lt
    show ring.head.toNat % 2 ^ 32 = _ % 2 ^ 32
    omega
  have buf : (writeLocked ring src n).buf =
      store ring.buf (ring.tail.toNat + dropped + (ring.used - dropped)) src n.toNat :=
    (writeLoop_eq ring.buf ring.head src n.toNat).trans (store_congr ring.buf stop src n.toNat)
  calc (writeLocked ring src n).content
      = window (writeLocked ring src n).buf (ring.tail.toNat + dropped)
          (ring.used - dropped + n.toNat) := by
        rw [RingT.content, used, window_congr _ start]
    _ = window ring.buf (ring.tail.toNat + dropped) (ring.used - dropped) ++
          bytesAt src n.toNat := by
        rw [buf, window_store _ _ _ _ (by omega)]
        rfl
    _ = ring.content.drop dropped ++ bytesAt src n.toNat := by
        rw [RingT.content, drop_window]

/-- A write keeps the depth within the ring, and never lowers it. -/
theorem used_ringWrite {ring : RingT} (fits : ring.used ≤ ringCap.toNat) (src : Nat → UInt8)
    (n : UInt32) :
    ring.used ≤ (ringWrite ring src n).used ∧ (ringWrite ring src n).used ≤ ringCap.toNat := by
  have locked : ∀ (from_ : Nat → UInt8) (size : UInt32), size.toNat ≤ ringCap.toNat →
      ring.used ≤ (writeLocked ring from_ size).used ∧
        (writeLocked ring from_ size).used ≤ ringCap.toNat := by
    intro from_ size small
    rw [writeLocked_used fits from_ small]
    omega
  unfold ringWrite
  by_cases large : n > ringCap
  · rw [if_pos large]
    exact locked _ _ le_rfl
  · rw [if_neg large]
    exact locked _ _ (not_lt.mp fun more => large (UInt32.lt_iff_toNat_lt.mpr more))

/-- A write longer than the ring starts at its last `ringCap` bytes. -/
theorem rtake_bytesAt (src : Nat → UInt8) {n : Nat} (large : ringCap.toNat ≤ n) :
    (bytesAt src n).rtake ringCap.toNat =
      bytesAt (fun i => src (n - ringCap.toNat + i)) ringCap.toNat := by
  obtain ⟨skipped, rfl⟩ := Nat.exists_eq_add_of_le' large
  have cut : ((List.range skipped).map src).length = skipped := by simp
  rw [Nat.add_sub_cancel, bytesAt, List.rtake, List.length_map, List.length_range,
    Nat.add_sub_cancel, List.range_add, List.map_append, List.drop_left' cut, List.map_map]
  rfl

/-- How much a read returns. -/
theorem toNat_ringRead_count (ring : RingT) (dst : Nat → UInt8) (n : UInt32) :
    (ringRead ring dst n).1.toNat = min n.toNat ring.used := by
  show (if n > ring.head - ring.tail then ring.head - ring.tail else n).toNat = _
  rw [RingT.used]
  by_cases more : n > ring.head - ring.tail
  · rw [if_pos more, Nat.min_eq_right (UInt32.le_iff_toNat_le.mp (UInt32.le_of_lt more))]
  · rw [if_neg more, Nat.min_eq_left]
    exact not_lt.mp fun less => more (UInt32.lt_iff_toNat_lt.mpr less)

/-- The memory that a read leaves at its destination. -/
theorem ringRead_memory (ring : RingT) (dst : Nat → UInt8) (n : UInt32) :
    (ringRead ring dst n).2.1 =
      readLoop ring.buf ring.tail dst (ringRead ring dst n).1.toNat := rfl

/-- **A read returns the oldest bytes.** -/
theorem bytesAt_ringRead (ring : RingT) (dst : Nat → UInt8) (n : UInt32) :
    bytesAt (ringRead ring dst n).2.1 (ringRead ring dst n).1.toNat =
      ring.content.take (ringRead ring dst n).1.toNat := by
  have inside : (ringRead ring dst n).1.toNat ≤ ring.used := by
    rw [toNat_ringRead_count]
    exact Nat.min_le_right _ _
  rw [ringRead_memory, RingT.content, take_window, Nat.min_eq_left inside]
  refine List.map_congr_left fun i member => ?_
  rw [readLoop_apply, if_pos (List.mem_range.mp member)]

/-- The depth after a read. -/
theorem ringRead_used (ring : RingT) (dst : Nat → UInt8) (n : UInt32) :
    (ringRead ring dst n).2.2.used = ring.used - (ringRead ring dst n).1.toNat := by
  have count := toNat_ringRead_count ring dst n
  have tail : (ringRead ring dst n).2.2.tail.toNat =
      (ring.tail.toNat + (ringRead ring dst n).1.toNat) % 2 ^ 32 := UInt32.toNat_add _ _
  have head : (ringRead ring dst n).2.2.head = ring.head := rfl
  have before := used_eq ring
  have headSmall := ring.head.toNat_lt
  have tailSmall := ring.tail.toNat_lt
  rw [used_eq (ringRead ring dst n).2.2, head, tail]
  omega

/-- **A read leaves the rest.** -/
theorem ringRead_content (ring : RingT) (dst : Nat → UInt8) (n : UInt32) :
    (ringRead ring dst n).2.2.content =
      ring.content.drop (ringRead ring dst n).1.toNat := by
  have start : (ringRead ring dst n).2.2.tail.toNat ≡
      ring.tail.toNat + (ringRead ring dst n).1.toNat [MOD ringCap.toNat] := by
    show (ring.tail + (ringRead ring dst n).1).toNat ≡ _ [MOD ringCap.toNat]
    rw [UInt32.toNat_add]
    exact (Nat.mod_modEq _ _).of_dvd (by decide)
  rw [RingT.content, ringRead_used, window_congr _ start, RingT.content, drop_window]
  rfl

/-! ### One is the other -/

/-- The ring holds the queue. -/
def Represents (ring : RingT) (queue : Queue ringCap.toNat UInt8) : Prop :=
  ring.content = queue.items

theorem represents_init (memory : Fin ringCap.toNat → UInt8) :
    Represents (ringInit memory) (Queue.empty _ _) := by
  have empty : (ringInit memory).used = 0 := by
    show ((0 : UInt32) - 0).toNat = 0
    rfl
  rw [Represents, RingT.content, empty]
  rfl

namespace Represents

variable {ring : RingT} {queue : Queue ringCap.toNat UInt8}

theorem length (holds : Represents ring queue) : queue.items.length = ring.used := by
  rw [← holds, length_content]

theorem bounded (holds : Represents ring queue) : ring.used ≤ ringCap.toNat :=
  holds.length ▸ queue.fits

/-- `ring_write`: the latest bytes. -/
theorem write (holds : Represents ring queue) (src : Nat → UInt8) (n : UInt32) :
    Represents (ringWrite ring src n) (queue.write (bytesAt src n.toNat)) := by
  rw [Represents, Queue.write_items, rtake_append queue.fits, length_bytesAt, holds.length,
    ← holds]
  unfold ringWrite
  by_cases large : n > ringCap
  · have more : ringCap.toNat ≤ n.toNat := UInt32.le_iff_toNat_le.mp (UInt32.le_of_lt large)
    have skipped : (n - ringCap).toNat = n.toNat - ringCap.toNat :=
      UInt32.toNat_sub_of_le _ _ (UInt32.le_of_lt large)
    rw [if_pos large, skipped, rtake_bytesAt src more, Nat.min_eq_right more]
    exact writeLocked_content holds.bounded _ le_rfl
  · have less : n.toNat ≤ ringCap.toNat :=
      not_lt.mp fun more => large (UInt32.lt_iff_toNat_lt.mpr more)
    have whole : (bytesAt src n.toNat).rtake ringCap.toNat = bytesAt src n.toNat := by
      rw [List.rtake, length_bytesAt, Nat.sub_eq_zero_of_le less, List.drop_zero]
    rw [if_neg large, whole, Nat.min_eq_left less]
    exact writeLocked_content holds.bounded src less

/-- `ring_read`: the oldest bytes, at the destination, and the rest in the ring. -/
theorem read (holds : Represents ring queue) (dst : Nat → UInt8) (n : UInt32) :
    bytesAt (ringRead ring dst n).2.1 (ringRead ring dst n).1.toNat = (queue.read n.toNat).1 ∧
      Represents (ringRead ring dst n).2.2 (queue.read n.toNat).2 := by
  have count := toNat_ringRead_count ring dst n
  rw [← holds.length] at count
  refine ⟨?_, ?_⟩
  · rw [bytesAt_ringRead, holds, count, ← List.take_eq_take_min, Queue.read_fst]
  · rw [Represents, ringRead_content, holds, count, ← List.drop_eq_drop_min, Queue.read_items]

theorem call (holds : Represents ring queue) (call : Call) :
    Represents (ring.call call).1 (queueCall queue call).1 ∧
      (ring.call call).2 = (queueCall queue call).2 := by
  cases call with
  | write src n => exact ⟨holds.write src n, rfl⟩
  | read dst n => exact (holds.read dst n).symm

end Represents

/-- **The ring is a bounded drop-oldest queue.** After any sequence of calls from `ring_init`, the
bytes returned and the content are those of the queue, and the cursors are at most `ringCap` apart;
there, a write keeps the last `ringCap` bytes of the content and its source, and a read returns the
first bytes of the content and leaves the others. -/
theorem ring_refines_queue (memory : Fin ringCap.toNat → UInt8) (calls : List Call) :
    let ring := (produce RingT.call (ringInit memory) calls).1
    let queue := (produce queueCall (Queue.empty _ _) calls).1
    (produce RingT.call (ringInit memory) calls).2 =
      (produce queueCall (Queue.empty _ _) calls).2 ∧
    ring.content = queue.items ∧
    (ring.head - ring.tail).toNat ≤ ringCap.toNat ∧
    (∀ src n, (ringWrite ring src n).content =
      (ring.content ++ bytesAt src n.toNat).rtake ringCap.toNat) ∧
    ∀ dst n, (ringRead ring dst n).1.toNat = min n.toNat ring.content.length ∧
      bytesAt (ringRead ring dst n).2.1 (ringRead ring dst n).1.toNat =
        ring.content.take n.toNat ∧
      (∀ i, (ringRead ring dst n).1.toNat ≤ i → (ringRead ring dst n).2.1 i = dst i) ∧
      (ringRead ring dst n).2.2.content = ring.content.drop n.toNat := by
  have simulates : ∀ ring queue call, Represents ring queue →
      Represents (ring.call call).1 (queueCall queue call).1 ∧
        (ring.call call).2 = (queueCall queue call).2 := fun _ _ call holds => holds.call call
  obtain ⟨holds, answers⟩ := produce_simulates simulates calls _ _ (represents_init memory)
  generalize (produce RingT.call (ringInit memory) calls).1 = ring at holds ⊢
  generalize (produce queueCall (Queue.empty _ _) calls).1 = queue at holds ⊢
  refine ⟨answers, holds, holds.bounded, fun src n => ?_, fun dst n => ⟨?_, ?_, ?_, ?_⟩⟩
  · have written := holds.write src n
    rw [Represents, Queue.write_items] at written
    rw [written, holds]
  · rw [length_content]
    exact toNat_ringRead_count ring dst n
  · rw [(holds.read dst n).1, Queue.read_fst, holds]
  · intro i beyond
    rw [ringRead_memory, readLoop_apply, if_neg (by omega)]
  · have rest := (holds.read dst n).2
    rw [Represents, Queue.read_items] at rest
    rw [rest, holds]

end Wolverine.Bridge
