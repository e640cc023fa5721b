/-
**Cyclic memories.**

A memory of `slots` cells is addressed by cursors that only grow and are reduced modulo `slots`.
`window` reads the cells from one cursor on, `store` writes them.

* `window_store` — values stored right behind a window extend it, as long as the longer window
  still fits the memory.
* `take_window`, `drop_window` — moving the first cursor forwards drops the oldest values.
* `Queue` — what such a memory implements when the oldest values make room for new ones: a bounded
  queue that keeps the latest (`rtake_append`).
-/

import Mathlib.Tactic
import Mathlib.Data.List.DropRight

namespace Wolverine.Cyclic

variable {slots : Nat} [NeZero slots] {α : Type}

/-- The values of `count` consecutive cells. -/
def window (memory : Fin slots → α) (start count : Nat) : List α :=
  (List.range count).map fun i => memory (Fin.ofNat slots (start + i))

/-- Write the first `count` values into consecutive cells. -/
def store (memory : Fin slots → α) (start : Nat) (values : Nat → α) : Nat → Fin slots → α
  | 0 => memory
  | i + 1 =>
    Function.update (store memory start values i) (Fin.ofNat slots (start + i)) (values i)

@[simp] theorem length_window (memory : Fin slots → α) (start count : Nat) :
    (window memory start count).length = count := by
  rw [window, List.length_map, List.length_range]

theorem window_add (memory : Fin slots → α) (start first second : Nat) :
    window memory start (first + second) =
      window memory start first ++ window memory (start + first) second := by
  rw [window, List.range_add, List.map_append, List.map_map]
  refine congrArg _ (List.map_congr_left fun i _ => ?_)
  rw [Function.comp_apply, Nat.add_assoc]

theorem take_window (memory : Fin slots → α) (start count taken : Nat) :
    (window memory start count).take taken = window memory start (min taken count) := by
  rw [window, ← List.map_take, List.take_range]
  rfl

theorem drop_window (memory : Fin slots → α) (start count dropped : Nat) :
    (window memory start count).drop dropped =
      window memory (start + dropped) (count - dropped) := by
  by_cases inside : dropped ≤ count
  · obtain ⟨rest, rfl⟩ := Nat.exists_eq_add_of_le inside
    have cut : (window memory start dropped).length = dropped := length_window _ _ _
    rw [window_add, Nat.add_sub_cancel_left, List.drop_left' cut]
  · have none : count - dropped = 0 := by omega
    rw [none, List.drop_eq_nil_of_le (by rw [length_window]; omega)]
    rfl

/-- A window depends on its cursor modulo the number of cells. -/
theorem window_congr (memory : Fin slots → α) {start other : Nat} (same : start ≡ other [MOD slots])
    (count : Nat) : window memory start count = window memory other count := by
  refine List.map_congr_left fun i _ => congrArg memory (Fin.ext ?_)
  exact same.add_right i

theorem store_congr (memory : Fin slots → α) {start other : Nat}
    (same : start ≡ other [MOD slots]) (values : Nat → α) (count : Nat) :
    store memory start values count = store memory other values count := by
  induction count with
  | zero => rfl
  | succ i ih =>
    have cell : Fin.ofNat slots (start + i) = Fin.ofNat slots (other + i) :=
      Fin.ext (same.add_right i)
    rw [store, store, ih, cell]

/-- Cursors less than a round apart address different cells. -/
theorem ofNat_ne {first second : Nat} (before : first < second) (near : second < first + slots) :
    Fin.ofNat slots first ≠ Fin.ofNat slots second := by
  intro same
  have round : first ≡ second [MOD slots] := congrArg Fin.val same
  have whole : slots ∣ second - first := (Nat.modEq_iff_dvd' before.le).mp round
  have := Nat.le_of_dvd (by omega) whole
  omega

/-- A store leaves the cells before it alone, up to a round. -/
theorem store_before (memory : Fin slots → α) {start cursor : Nat} (before : cursor < start)
    (values : Nat → α) {count : Nat} (near : start + count ≤ cursor + slots) :
    store memory start values count (Fin.ofNat slots cursor) = memory (Fin.ofNat slots cursor) := by
  induction count with
  | zero => rfl
  | succ i ih =>
    rw [store, Function.update_of_ne (ofNat_ne (by omega) (by omega)), ih (by omega)]

/-- A store leaves the window before it alone, up to a round. -/
theorem window_store_before (memory : Fin slots → α) (start count : Nat) (values : Nat → α)
    {stored : Nat} (fits : count + stored ≤ slots) :
    window (store memory (start + count) values stored) start count =
      window memory start count := by
  refine List.map_congr_left fun i inside => ?_
  have := List.mem_range.mp inside
  exact store_before memory (by omega) values (by omega)

/-- What was stored is read back. -/
theorem window_store_same (memory : Fin slots → α) (start : Nat) (values : Nat → α) {stored : Nat}
    (fits : stored ≤ slots) :
    window (store memory start values stored) start stored = (List.range stored).map values := by
  induction stored with
  | zero => rfl
  | succ i ih =>
    have before : window (store memory start values (i + 1)) start i =
        window (store memory start values i) start i :=
      window_store_before (store memory start values i) start i (fun _ => values i) fits
    have last : window (store memory start values (i + 1)) (start + i) 1 = [values i] := by
      rw [store]
      exact congrArg (· :: []) (Function.update_self _ _ _)
    rw [window_add, before, ih (by omega), last, List.range_succ, List.map_append]
    rfl

/-- **Values stored behind a window extend it.** -/
theorem window_store (memory : Fin slots → α) (start count : Nat) (values : Nat → α) {stored : Nat}
    (fits : count + stored ≤ slots) :
    window (store memory (start + count) values stored) start (count + stored) =
      window memory start count ++ (List.range stored).map values := by
  rw [window_add, window_store_before memory start count values fits,
    window_store_same memory (start + count) values (by omega)]

/-! ### Keeping the latest -/

/-- **Making room keeps the latest.** Of `new`, the latest that fit are appended; of `old`, the
oldest make room for them. -/
theorem rtake_append {capacity : Nat} {old : List α} (fits : old.length ≤ capacity)
    (new : List α) :
    (old ++ new).rtake capacity =
      old.drop (min new.length capacity - (capacity - old.length)) ++ new.rtake capacity := by
  have kept : old.length + new.length - capacity - old.length = new.length - capacity := by omega
  rw [List.rtake, List.rtake, List.length_append, List.drop_append, kept]
  refine congrArg (· ++ _) ?_
  rcases Nat.le_total new.length capacity with short | long
  · rw [Nat.min_eq_left short]
    exact congrArg (old.drop ·) (by omega)
  · rw [Nat.min_eq_right long, List.drop_eq_nil_of_le (by omega), List.drop_eq_nil_of_le (by omega)]

/-- At most `capacity` elements, oldest first. -/
structure Queue (capacity : Nat) (α : Type) where
  items : List α
  fits : items.length ≤ capacity

namespace Queue

variable {capacity : Nat}

def empty (capacity : Nat) (α : Type) : Queue capacity α := ⟨[], Nat.zero_le _⟩

/-- Append, and keep the latest elements that fit. -/
def write (queue : Queue capacity α) (src : List α) : Queue capacity α where
  items := (queue.items ++ src).rtake capacity
  fits := by
    rw [List.rtake, List.length_drop]
    omega

/-- Take the oldest elements. -/
def read (queue : Queue capacity α) (count : Nat) : List α × Queue capacity α :=
  (queue.items.take count, ⟨queue.items.drop count, by
    rw [List.length_drop]
    exact (Nat.sub_le _ _).trans queue.fits⟩)

@[simp] theorem write_items (queue : Queue capacity α) (src : List α) :
    (queue.write src).items = (queue.items ++ src).rtake capacity := rfl

@[simp] theorem read_fst (queue : Queue capacity α) (count : Nat) :
    (queue.read count).1 = queue.items.take count := rfl

@[simp] theorem read_items (queue : Queue capacity α) (count : Nat) :
    (queue.read count).2.items = queue.items.drop count := rfl

end Queue

end Wolverine.Cyclic
