/-
**How far a stateful action moves a counter.**

An action over a state may fail; where it returns, a measure of the state has grown by at least
`low` and at most `high` (`Advances`). The rules add the bounds along a bind and join them over the
branches of a conditional, so the bounds of a program are read off its text.
-/

import Mathlib.Tactic

namespace Wolverine.Progress

variable {State Fault Result Other : Type} {measure : State → Nat}

/-- Where the action returns, the measure has grown by at least `low` and at most `high`. -/
def Advances (measure : State → Nat) (low high : Nat) (act : StateT State (Except Fault) Result) :
    Prop :=
  ∀ state result next, act state = .ok (result, next) →
    measure state + low ≤ measure next ∧ measure next ≤ measure state + high

theorem Advances.mono {low high least most : Nat} {act : StateT State (Except Fault) Result}
    (advances : Advances measure low high act) (fewer : least ≤ low) (more : high ≤ most) :
    Advances measure least most act := by
  intro state result next returned
  have bounds := advances state result next returned
  exact ⟨by omega, by omega⟩

/-- An action that keeps the state. -/
theorem advances_pure (result : Result) :
    Advances measure 0 0 (pure result : StateT State (Except Fault) Result) := by
  intro state result next returned
  cases returned
  exact ⟨le_refl _, le_refl _⟩

theorem advances_get :
    Advances measure 0 0 (get : StateT State (Except Fault) State) := by
  intro state result next returned
  cases returned
  exact ⟨le_refl _, le_refl _⟩

/-- A computation that does not touch the state. -/
theorem advances_lift (act : Except Fault Result) :
    Advances measure 0 0 (liftM act : StateT State (Except Fault) Result) := by
  intro state result next returned
  cases act with
  | error fault => cases returned
  | ok value =>
    cases returned
    exact ⟨le_refl _, le_refl _⟩

/-- Bounds add up along a bind. -/
theorem Advances.bind {low high low' high' : Nat} {act : StateT State (Except Fault) Result}
    {rest : Result → StateT State (Except Fault) Other} (first : Advances measure low high act)
    (second : ∀ result, Advances measure low' high' (rest result)) :
    Advances measure (low + low') (high + high') (act >>= rest) := by
  intro state result next returned
  cases acted : act state with
  | error fault =>
    have failed : (act >>= rest) state = .error fault := by
      simp only [Bind.bind, StateT.bind, Except.bind, acted]
    rw [failed] at returned
    cases returned
  | ok pair =>
    have continued : (act >>= rest) state = rest pair.1 pair.2 := by
      simp only [Bind.bind, StateT.bind, Except.bind, acted]
    rw [continued] at returned
    have before := first state pair.1 pair.2 acted
    have after := second pair.1 pair.2 result next returned
    exact ⟨by omega, by omega⟩

/-- A first action that keeps the measure. -/
theorem Advances.after {low high : Nat} {act : StateT State (Except Fault) Result}
    {rest : Result → StateT State (Except Fault) Other} (still : Advances measure 0 0 act)
    (second : ∀ result, Advances measure low high (rest result)) :
    Advances measure low high (act >>= rest) := by
  have both := still.bind second
  rwa [Nat.zero_add, Nat.zero_add] at both

theorem advances_ite {low high : Nat} {condition : Prop} [Decidable condition]
    {act other : StateT State (Except Fault) Result} (yes : Advances measure low high act)
    (no : Advances measure low high other) :
    Advances measure low high (if condition then act else other) := by
  split
  · exact yes
  · exact no

end Wolverine.Progress
