/-
**Sequence numbers: a run of `SeqCounter::next`.**

* `toNat_after` — from any value, `next` runs through 1 to 255 in order, cyclically.
* `Numbered counter numbers last` — numbers handed out one after the other, from one value of the
  counter to another. Such runs compose (`Numbered.append`).
-/

import Wolverine.Gip.Wire

namespace Wolverine.Gip

namespace SeqCounter

/-- The counter after `count` calls of `next`. -/
def after (counter : SeqCounter) (count : Nat) : SeqCounter :=
  (fun counter => ⟨counter.next⟩)^[count] counter

theorem after_succ (counter : SeqCounter) (count : Nat) :
    counter.after (count + 1) = ⟨(counter.after count).next⟩ :=
  Function.iterate_succ_apply' _ _ _

theorem after_add (counter : SeqCounter) (first second : Nat) :
    counter.after (first + second) = (counter.after first).after second := by
  rw [after, Nat.add_comm, Function.iterate_add_apply]
  rfl

/-- `next` skips 0. -/
theorem toNat_next (counter : SeqCounter) : counter.next.toNat = counter.value.toNat % 255 + 1 := by
  have bound := counter.value.toNat_lt
  have sum : (counter.value + 1).toNat = (counter.value.toNat + 1) % 256 := UInt8.toNat_add _ _
  unfold next
  simp only
  by_cases wraps : counter.value + 1 = 0
  · rw [if_pos wraps]
    rw [wraps] at sum
    have zero : (0 : UInt8).toNat = 0 := rfl
    have one : (1 : UInt8).toNat = 1 := rfl
    omega
  · rw [if_neg wraps, sum]
    have positive : (counter.value + 1).toNat ≠ 0 := fun zero =>
      wraps (UInt8.toNat_inj.mp zero)
    omega

/-- **The numbers run through 1 to 255, cyclically.** -/
theorem toNat_after (counter : SeqCounter) (count : Nat) :
    (counter.after (count + 1)).value.toNat = (counter.value.toNat + count) % 255 + 1 := by
  induction count with
  | zero => exact toNat_next counter
  | succ i ih =>
    rw [after_succ, toNat_next, ih]
    omega

end SeqCounter

/-- `numbers` were handed out one after the other, and then the counter was `last`. -/
structure Numbered (counter : SeqCounter) (numbers : List UInt8) (last : SeqCounter) : Prop where
  last : last = counter.after numbers.length
  numbers : numbers = (List.range numbers.length).map fun i => (counter.after (i + 1)).value

namespace Numbered

theorem nil (counter : SeqCounter) : Numbered counter [] counter := ⟨rfl, rfl⟩

/-- One call of `next`. -/
theorem one (counter : SeqCounter) : Numbered counter [counter.next] ⟨counter.next⟩ := ⟨rfl, rfl⟩

/-- **Runs compose.** -/
theorem append {counter middle last : SeqCounter} {first second : List UInt8}
    (before : Numbered counter first middle) (behind : Numbered middle second last) :
    Numbered counter (first ++ second) last := by
  refine ⟨?_, ?_⟩
  · rw [behind.last, before.last, ← SeqCounter.after_add, List.length_append]
  · have shifted : second =
        (List.range second.length).map fun i => (counter.after (first.length + i + 1)).value := by
      conv_lhs => rw [behind.numbers, before.last]
      refine List.map_congr_left fun i _ => ?_
      rw [← SeqCounter.after_add, Nat.add_assoc]
    rw [List.length_append, List.range_add, List.map_append, List.map_map, ← before.numbers]
    exact congrArg (first ++ ·) shifted

/-- The numbers themselves. -/
theorem map_toNat {counter last : SeqCounter} {numbers : List UInt8}
    (numbered : Numbered counter numbers last) :
    numbers.map UInt8.toNat =
      (List.range numbers.length).map fun i => (counter.value.toNat + i) % 255 + 1 := by
  conv_lhs => rw [numbered.numbers]
  rw [List.map_map]
  refine List.map_congr_left fun i _ => ?_
  exact SeqCounter.toNat_after counter i

end Numbered

end Wolverine.Gip
