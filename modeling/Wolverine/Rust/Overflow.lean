/-
**Rust integer operations that may overflow.**

A debug build checks every shift and every multiplication and panics on overflow; a release build
masks the shift amount and wraps the product. Machine integers are natural numbers below their
width. `usize` is 64 bits wide.
-/

import Mathlib.Tactic

namespace Wolverine.Rust

/-- The two build profiles: with overflow checks and without. -/
inductive Profile
  | debug
  | release
  deriving DecidableEq, Repr

/-- What an overflow check of a debug build reports. -/
inductive Panic
  | shiftOverflow
  | mulOverflow
  deriving DecidableEq, Repr

/-- The number of `u32` values. -/
def u32Size : Nat := 2 ^ 32

/-- The number of `usize` values. -/
def usizeSize : Nat := 2 ^ 64

/-- The number of `u16` values. -/
def u16Size : Nat := 2 ^ 16

/-- `value << shift` on a `u32`: bits pushed out at the top are lost without a check; the check
is on the shift amount only. -/
def shlU32 (profile : Profile) (value shift : Nat) : Except Panic Nat :=
  if shift < 32 then .ok (value <<< shift % u32Size)
  else if profile = .debug then .error .shiftOverflow
  else .ok (value <<< (shift % 32) % u32Size)

/-- `first * second` on a `usize`. -/
def mulUsize (profile : Profile) (first second : Nat) : Except Panic Nat :=
  if first * second < usizeSize then .ok (first * second)
  else if profile = .debug then .error .mulOverflow
  else .ok (first * second % usizeSize)

theorem shlU32_small (profile : Profile) {value shift : Nat} (small : shift < 32) :
    shlU32 profile value shift = .ok (value <<< shift % u32Size) := by
  rw [shlU32, if_pos small]

theorem shlU32_debug_large {value shift : Nat} (large : 32 ≤ shift) :
    shlU32 .debug value shift = .error .shiftOverflow := by
  rw [shlU32, if_neg (by omega), if_pos rfl]

/-- A release build shifts by any amount. -/
theorem shlU32_release (value shift : Nat) : ∃ bits, shlU32 .release value shift = .ok bits := by
  unfold shlU32
  split
  · exact ⟨_, rfl⟩
  · exact ⟨_, if_neg (by decide)⟩

/-- A product that a `usize` holds is exact under either profile; otherwise it is reduced. -/
theorem mulUsize_ok {profile : Profile} {first second product : Nat}
    (returned : mulUsize profile first second = .ok product) :
    product = first * second % usizeSize := by
  unfold mulUsize at returned
  split at returned
  · rename_i fits
    cases returned
    exact (Nat.mod_eq_of_lt fits).symm
  · split at returned
    · cases returned
    · cases returned
      rfl

end Wolverine.Rust
