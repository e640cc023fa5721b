/-
**Changes of a sampled value.**

A device that reports a value again and again is followed by acting on changes only: `changes` are
the pairs of consecutive values that differ. The first value is the baseline and causes none.

* `changes_eq_nil` — there are none exactly when all values are the same.
* `last_change` — the last of them leads to the last value.
* `odd_flips` — a property of the values flips an odd number of times exactly when the first and the
  last value differ in it.
* `odd_changes` — so a toggle that follows the changes is in step with the property exactly when an
  even number of the changes leave the property alone.
-/

import Mathlib.Tactic

namespace Wolverine.Edges

variable {α : Type} [DecidableEq α]

/-- The pairs of consecutive values that differ. -/
def changes (values : List α) : List (α × α) :=
  (values.zip values.tail).filter fun pair => pair.2 ≠ pair.1

/-- The change, if any, from the last value to a new one. -/
def change (last : Option α) (value : α) : List (α × α) :=
  match last with
  | some prev => if value ≠ prev then [(prev, value)] else []
  | none => []

theorem changes_cons_cons (first second : α) (rest : List α) :
    changes (first :: second :: rest) = change (some first) second ++ changes (second :: rest) := by
  by_cases differ : second ≠ first
  · rw [changes, change, if_pos differ]
    exact List.filter_cons_of_pos (by simp [differ])
  · rw [changes, change, if_neg differ]
    exact List.filter_cons_of_neg (by simpa using differ)

/-- A new value adds the change that leads to it. -/
theorem changes_concat (values : List α) (value : α) :
    changes (values ++ [value]) = changes values ++ change values.getLast? value := by
  induction values with
  | nil => rfl
  | cons first rest ih =>
    cases rest with
    | nil =>
      rw [List.singleton_append, changes_cons_cons]
      exact List.append_nil _
    | cons second rest =>
      rw [List.cons_append, List.cons_append, changes_cons_cons, changes_cons_cons,
        List.getLast?_cons_cons, List.append_assoc, ← ih]
      rfl

/-- **No changes, one value.** -/
theorem changes_eq_nil (values : List α) :
    changes values = [] ↔ ∀ first ∈ values, ∀ second ∈ values, first = second := by
  induction values with
  | nil => simp [changes]
  | cons first rest ih =>
    cases rest with
    | nil => simp [changes]
    | cons second rest =>
      rw [changes_cons_cons, List.append_eq_nil_iff, ih]
      refine ⟨fun ⟨head, tail⟩ => ?_, fun all => ⟨?_, fun one member other there => ?_⟩⟩
      · have same : second = first := by
          by_contra differ
          rw [change, if_pos differ] at head
          exact List.cons_ne_nil _ _ head
        have each : ∀ value ∈ first :: second :: rest, value = second := by
          intro value member
          rcases List.mem_cons.mp member with rfl | behind
          · exact same.symm
          · exact tail value behind second List.mem_cons_self
        exact fun one member other there => (each one member).trans (each other there).symm
      · rw [change, if_neg]
        exact not_not.mpr (all second (List.mem_cons_of_mem _ List.mem_cons_self) first
          List.mem_cons_self)
      · exact all one (List.mem_cons_of_mem _ member) other (List.mem_cons_of_mem _ there)

/-- **The last change leads to the last value.** -/
theorem last_change (values : List α) {pair : α × α}
    (last : (changes values).getLast? = some pair) : values.getLast? = some pair.2 := by
  induction values using List.reverseRecOn with
  | nil => cases last
  | append_singleton values value ih =>
    rw [List.getLast?_concat]
    rw [changes_concat] at last
    cases before : values.getLast? with
    | none =>
      rw [before, change, List.append_nil] at last
      exact absurd (before.symm.trans (ih last)) (Option.some_ne_none _).symm
    | some prev =>
      rw [before, change] at last
      by_cases differ : value ≠ prev
      · rw [if_pos differ, List.getLast?_concat] at last
        cases last
        rfl
      · rw [if_neg differ, List.append_nil] at last
        rw [not_not.mp differ, ← before]
        exact ih last

/-! ### Toggles -/

/-- The changes that flip a property. -/
def flips (property : α → Bool) (values : List α) : Nat :=
  (changes values).countP fun pair => property pair.1 != property pair.2

/-- The changes that leave a property alone. -/
def quiet (property : α → Bool) (values : List α) : Nat :=
  (changes values).countP fun pair => property pair.1 == property pair.2

theorem countP_change (property : α → Bool) (prev value : α) :
    (change (some prev) value).countP (fun pair => property pair.1 != property pair.2) =
      if property prev = property value then 0 else 1 := by
  by_cases differ : value ≠ prev
  · rw [change, if_pos differ, List.countP_singleton]
    by_cases same : property prev = property value <;> simp [same]
  · rw [change, if_neg differ, not_not.mp differ]
    exact (if_pos rfl).symm

/-- **A property flips an odd number of times exactly when its first and last values differ.** -/
theorem odd_flips (property : α → Bool) (values : List α) :
    Odd (flips property values) ↔ values.head?.map property ≠ values.getLast?.map property := by
  induction values with
  | nil => simp [flips, changes]
  | cons first rest ih =>
    cases rest with
    | nil => simp [flips, changes]
    | cons second rest =>
      have step : flips property (first :: second :: rest) =
          (if property first = property second then 0 else 1) +
            flips property (second :: rest) := by
        rw [flips, changes_cons_cons, List.countP_append, countP_change]
        rfl
      rw [step, List.getLast?_cons_cons]
      rw [List.head?_cons, Option.map_some] at ih ⊢
      by_cases same : property first = property second
      · rw [if_pos same, Nat.zero_add, same]
        exact ih
      · -- the step flips, and with two values the other one is reached exactly when this is not
        obtain ⟨last, final⟩ := Option.ne_none_iff_exists'.mp
          (show (second :: rest).getLast? ≠ none by simp)
        rw [final, Option.map_some] at ih ⊢
        rw [if_neg same, Nat.add_comm, Nat.odd_add_one, ih]
        have two : ∀ one two three : Bool, one ≠ two →
            (¬ some two ≠ some three ↔ some one ≠ some three) := by decide
        exact two _ _ _ same

/-- **The toggle of a property.** -/
theorem odd_changes (property : α → Bool) (values : List α) :
    (Odd (changes values).length ↔ values.head?.map property ≠ values.getLast?.map property) ↔
      Even (quiet property values) := by
  have split : (changes values).length = flips property values + quiet property values := by
    rw [flips, quiet, List.length_eq_countP_add_countP (fun pair : α × α =>
      property pair.1 != property pair.2)]
    refine congrArg _ (List.countP_congr fun pair _ => ?_)
    cases property pair.1 <;> cases property pair.2 <;> decide
  rw [split, Nat.odd_add, odd_flips]
  tauto

end Wolverine.Edges
