/-
**The front of an endless sequence of blocks.**

Blocks of one size are joined one after the other; what is asked for is the first `count` elements
of the join, however many blocks that takes (`front`).

* `take_joined` — the join of enough blocks, cut, is the front.
* `getElem?_front` — its elements, block by block.
* `front_prefix` — a shorter front is a prefix of a longer one.
-/

import Mathlib.Tactic

namespace Wolverine.Blocks

variable {α : Type}

/-- The join of the first blocks. -/
def joined (block : Nat → List α) (blocks : Nat) : List α := (List.range blocks).flatMap block

/-- The first elements of the join of all blocks; a block has at least one. -/
def front (block : Nat → List α) (count : Nat) : List α := (joined block count).take count

@[simp] theorem joined_zero (block : Nat → List α) : joined block 0 = [] := rfl

theorem joined_succ (block : Nat → List α) (blocks : Nat) :
    joined block (blocks + 1) = joined block blocks ++ block blocks := by
  rw [joined, List.range_succ, List.flatMap_append, List.flatMap_singleton, ← joined]

/-- More blocks extend the join. -/
theorem joined_prefix (block : Nat → List α) {fewer more : Nat} (le : fewer ≤ more) :
    joined block fewer <+: joined block more := by
  induction more, le using Nat.le_induction with
  | base => exact List.prefix_refl _
  | succ more le ih =>
    rw [joined_succ]
    exact ih.trans (List.prefix_append _ _)

section Uniform

variable {block : Nat → List α} {size : Nat} (uniform : ∀ i, (block i).length = size)

include uniform

theorem length_joined (blocks : Nat) : (joined block blocks).length = blocks * size := by
  induction blocks with
  | zero => rw [joined_zero, Nat.zero_mul, List.length_nil]
  | succ blocks ih => rw [joined_succ, List.length_append, ih, uniform, Nat.succ_mul]

/-- Cuts of two joins that are long enough are the same. -/
theorem take_joined_eq {blocks other count : Nat} (enough : count ≤ blocks * size)
    (enoughOther : count ≤ other * size) :
    (joined block blocks).take count = (joined block other).take count := by
  have cut : ∀ {fewer more : Nat}, fewer ≤ more → count ≤ fewer * size →
      (joined block fewer).take count = (joined block more).take count := by
    intro fewer more le long
    obtain ⟨rest, split⟩ := joined_prefix block le
    rw [← split, List.take_append_of_le_length]
    rw [length_joined uniform]
    exact long
  rcases Nat.le_total blocks other with le | le
  · exact cut le enough
  · exact (cut le enoughOther).symm

/-- A position of the join lies in the block with the number of whole blocks before it. -/
theorem getElem?_joined {blocks position : Nat} (inside : position < blocks * size) :
    (joined block blocks)[position]? = (block (position / size))[position % size]? := by
  induction blocks with
  | zero =>
    rw [Nat.zero_mul] at inside
    exact absurd inside (Nat.not_lt_zero position)
  | succ blocks ih =>
    have length := length_joined uniform blocks
    rw [joined_succ]
    rcases Nat.lt_or_ge position (blocks * size) with before | behind
    · rw [List.getElem?_append_left (length ▸ before), ih before]
    · have last : position / size = blocks := Nat.div_eq_of_lt_le behind inside
      rw [List.getElem?_append_right (length ▸ behind), length, Nat.mod_eq_sub_div_mul, last]

variable (positive : 0 < size)

include positive

/-- **The join of enough blocks, cut, is the front.** -/
theorem take_joined {blocks count : Nat} (enough : count ≤ blocks * size) :
    (joined block blocks).take count = front block count :=
  take_joined_eq uniform enough (Nat.le_mul_of_pos_right count positive)

theorem length_front (count : Nat) : (front block count).length = count := by
  rw [front, List.length_take_of_le]
  rw [length_joined uniform]
  exact Nat.le_mul_of_pos_right count positive

/-- **The elements of the front**, block by block. -/
theorem getElem?_front {count position : Nat} (inside : position < count) :
    (front block count)[position]? = (block (position / size))[position % size]? := by
  rw [front, List.getElem?_take_of_lt inside]
  exact getElem?_joined uniform (inside.trans_le (Nat.le_mul_of_pos_right count positive))

/-- A shorter front is a prefix of a longer one. -/
theorem front_prefix {fewer more : Nat} (le : fewer ≤ more) :
    front block fewer <+: front block more := by
  have cut : front block fewer = (front block more).take fewer := by
    rw [front, front, List.take_take, Nat.min_eq_left le]
    exact take_joined_eq uniform (Nat.le_mul_of_pos_right fewer positive)
      (le.trans (Nat.le_mul_of_pos_right more positive))
  rw [cut]
  exact List.take_prefix fewer _

end Uniform

end Wolverine.Blocks
