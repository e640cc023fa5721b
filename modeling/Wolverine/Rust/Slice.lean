/-
**Rust slice accesses that may panic.**

`data[i]` and `&data[start..stop]` check their bounds under either build profile. `slice.get(i)`
does not panic and is not modelled here.
-/

import Mathlib.Tactic

namespace Wolverine.Rust

/-- An access past the end of a slice. -/
structure IndexPanic where
  index : Nat
  length : Nat
  deriving DecidableEq, Repr

variable {α : Type}

/-- `data[i]`. -/
def index (data : List α) (i : Nat) : Except IndexPanic α :=
  if inside : i < data.length then .ok data[i] else .error ⟨i, data.length⟩

/-- `&data[start..]`. -/
def sliceFrom (data : List α) (start : Nat) : Except IndexPanic (List α) :=
  if start ≤ data.length then .ok (data.drop start) else .error ⟨start, data.length⟩

/-- `&data[..stop]`. -/
def sliceTo (data : List α) (stop : Nat) : Except IndexPanic (List α) :=
  if stop ≤ data.length then .ok (data.take stop) else .error ⟨stop, data.length⟩

theorem index_ok {data : List α} {i : Nat} (inside : i < data.length) (default : α) :
    index data i = .ok (data.getD i default) := by
  rw [index, dif_pos inside, List.getD_eq_getElem?_getD, List.getElem?_eq_getElem inside]
  rfl

theorem sliceFrom_ok {data : List α} {start : Nat} (inside : start ≤ data.length) :
    sliceFrom data start = .ok (data.drop start) := if_pos inside

theorem sliceTo_ok {data : List α} {stop : Nat} (inside : stop ≤ data.length) :
    sliceTo data stop = .ok (data.take stop) := if_pos inside

end Wolverine.Rust
