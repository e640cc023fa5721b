/-
**Registers that are written in batches.**

`apply` writes a list of registers, one after the other. A register that is not in the list keeps
its value; one that is in it once has the value that stands there.

* `apply_batches` — where every source of a batch either sets a register, to a value of its own, or
  leaves it, the register shows the last source that sets it.
-/

import Mathlib.Tactic

namespace Wolverine.Registers

variable {Register Value Source : Type} [DecidableEq Register]

/-- Write registers, one after the other. -/
def apply (state : Register → Value) (writes : List (Register × Value)) : Register → Value :=
  writes.foldl (fun state write => Function.update state write.1 write.2) state

@[simp] theorem apply_nil (state : Register → Value) : apply state [] = state := rfl

@[simp] theorem apply_cons (state : Register → Value) (write : Register × Value)
    (rest : List (Register × Value)) :
    apply state (write :: rest) = apply (Function.update state write.1 write.2) rest := rfl

theorem apply_append (state : Register → Value) (first second : List (Register × Value)) :
    apply state (first ++ second) = apply (apply state first) second := List.foldl_append

/-- A register that is not written keeps its value. -/
theorem apply_unwritten {register : Register} {writes : List (Register × Value)}
    (unwritten : register ∉ writes.map Prod.fst) (state : Register → Value) :
    apply state writes register = state register := by
  induction writes generalizing state with
  | nil => rfl
  | cons write rest ih =>
    rw [List.map_cons, List.mem_cons, not_or] at unwritten
    rw [apply_cons, ih unwritten.2, Function.update_of_ne unwritten.1]

/-- A register that is written once has the value that was written. -/
theorem apply_once {register : Register} {value : Value} {writes : List (Register × Value)}
    (once : (writes.map Prod.fst).Nodup) (member : (register, value) ∈ writes)
    (state : Register → Value) : apply state writes register = value := by
  induction writes generalizing state with
  | nil => cases member
  | cons write rest ih =>
    rw [List.map_cons, List.nodup_cons] at once
    rw [apply_cons]
    rcases List.mem_cons.mp member with rfl | later
    · rw [apply_unwritten once.1, Function.update_self]
    · exact ih once.2 later _

/-! ### Batches -/

/-- Every source either sets the register, to a value of its own, or leaves it. -/
structure Sets (batch : Source → List (Register × Value)) (relevant : Source → Bool)
    (value : Source → Value) (register : Register) : Prop where
  set : ∀ source, relevant source = true →
    ∀ state, apply state (batch source) register = value source
  kept : ∀ source, relevant source = false →
    ∀ state, apply state (batch source) register = state register

/-- **The last source that sets a register is shown.** -/
theorem apply_batches {batch : Source → List (Register × Value)} {relevant : Source → Bool}
    {value : Source → Value} {register : Register} (sets : Sets batch relevant value register)
    (sources : List Source) (state : Register → Value) :
    apply state (sources.flatMap batch) register =
      ((sources.filter relevant).getLast?.map value).getD (state register) := by
  induction sources generalizing state with
  | nil => rfl
  | cons source rest ih =>
    rw [List.flatMap_cons, apply_append, ih]
    cases relevance : relevant source with
    | false =>
      rw [sets.kept source relevance, List.filter_cons_of_neg (by rw [relevance]; decide)]
    | true =>
      rw [sets.set source relevance, List.filter_cons_of_pos relevance, List.getLast?_cons]
      cases (rest.filter relevant).getLast? <;> rfl

end Wolverine.Registers
