/-
**The axes of the virtual gamepad.**

`build_gamepad` declares a range for every axis, and `forward_gamepad` fills the axes from a report
of the controller. Sticks are signed words, the Y axes bit-inverted, so every value of a stick is in
range. A trigger is an unsigned word, declared with ten bits only, and nothing clamps it.

* `forwardGamepad_long` — the events of a report of 18 bytes or more.
* `gamepad_in_range` — all axes are in range exactly when both trigger words are.
-/

import Wolverine.Input.Uinput

namespace Wolverine.Input

open Wolverine.Rust

/-! ### Declared ranges -/

/-- The range of an axis, as the kernel is told. -/
structure AbsInfo where
  value : Int
  minimum : Int
  maximum : Int
  fuzz : Int
  flat : Int
  resolution : Int
  deriving DecidableEq, Repr

def stick : AbsInfo := ⟨0, -32768, 32767, 16, 128, 0⟩
def trigger : AbsInfo := ⟨0, 0, 1023, 0, 0, 0⟩   -- Xbox One triggers are 10-bit
def hat : AbsInfo := ⟨0, -1, 1, 0, 0, 0⟩

/-- The axes that `build_gamepad` declares. -/
def gamepadAxes : List (AbsoluteAxis × AbsInfo) :=
  [(.absX, stick), (.absY, stick), (.absZ, trigger), (.absRx, stick), (.absRy, stick),
    (.absRz, trigger), (.absHat0x, hat), (.absHat0y, hat)]

/-- A value of the axis lies within its declared range. -/
def AbsInfo.Admits (info : AbsInfo) (value : Int) : Prop :=
  info.minimum ≤ value ∧ value ≤ info.maximum

instance (info : AbsInfo) (value : Int) : Decidable (info.Admits value) :=
  inferInstanceAs (Decidable (_ ∧ _))

/-- An axis event is for a declared axis, with a value within the range of it. -/
def InputEvent.InRange : InputEvent → Prop
  | .key _ _ => True
  | .absolute axis value => ∃ info ∈ gamepadAxes.lookup axis, info.Admits value

/-! ### Words of a report -/

/-- The word at `data[i..i + 2]`, in little-endian order. -/
def wordAt (data : List UInt8) (i : Nat) : Nat :=
  (data.getD i 0).toNat + 256 * (data.getD (i + 1) 0).toNat

/-- The bits that `u16::from_le_bytes` puts together are the word. -/
theorem toNat_fromLeBytes (low high : UInt8) :
    (low.toUInt16 ||| high.toUInt16 <<< 8).toNat = low.toNat + 256 * high.toNat := by
  have shifted : (high.toUInt16 <<< 8).toNat = high.toNat <<< 8 := by
    rw [UInt16.toNat_shiftLeft, UInt8.toNat_toUInt16]
    apply Nat.mod_eq_of_lt
    have below := high.toNat_lt
    rw [Nat.shiftLeft_eq]
    show high.toNat * 2 ^ 8 < 65536
    omega
  rw [UInt16.toNat_or, shifted, UInt8.toNat_toUInt16, Nat.or_comm,
    ← Nat.shiftLeft_add_eq_or_of_lt low.toNat_lt, Nat.shiftLeft_eq]
  omega

/-- The word that `forward_gamepad` reads at `p[i..i + 2]`. -/
def payloadWord (data : List UInt8) (i : Nat) : UInt16 :=
  ((data.drop 4).getD i 0).toUInt16 ||| ((data.drop 4).getD (i + 1) 0).toUInt16 <<< 8

theorem toNat_payloadWord (data : List UInt8) (i : Nat) :
    (payloadWord data i).toNat = wordAt data (4 + i) := by
  rw [payloadWord, toNat_fromLeBytes, wordAt]
  simp only [List.getD_eq_getElem?_getD, List.getElem?_drop, Nat.add_assoc]

/-! ### Emitted axes -/

theorem stick_admits (word : Int16) : stick.Admits word.toInt :=
  ⟨word.le_toInt, Int.lt_add_one_iff.mp word.toInt_lt⟩

theorem hat_admits_hatX (buttons : UInt16) : hat.Admits (hatX buttons) := by
  unfold hatX
  split
  · decide
  · split <;> decide

theorem hat_admits_hatY (buttons : UInt16) : hat.Admits (hatY buttons) := by
  unfold hatY
  split
  · decide
  · split <;> decide

theorem trigger_admits (word : Nat) : trigger.Admits word ↔ word ≤ 1023 := by
  refine ⟨fun admitted => Int.ofNat_le.mp admitted.2, fun small => ⟨Int.natCast_nonneg word, ?_⟩⟩
  exact Int.ofNat_le.mpr small

/-- An event of a declared axis is in range when the range admits its value. -/
theorem inRange_absolute (axis : AbsoluteAxis) (info : AbsInfo)
    (declared : gamepadAxes.lookup axis = some info) (value : Int) :
    (InputEvent.absolute axis value).InRange ↔ info.Admits value := by
  refine ⟨fun ⟨other, same, admitted⟩ => ?_, fun admitted => ⟨info, declared, admitted⟩⟩
  rw [Option.some.inj ((Option.mem_def.mp same).symm.trans declared)] at admitted
  exact admitted

/-- Among the events of a report, only the triggers can be out of range. -/
theorem gamepadEvents_inRange (buttons : UInt16) (lx ly rx ry : Int16) (lt rt : Nat) :
    (∀ event ∈ gamepadEvents buttons lx.toInt ly.toInt lt rx.toInt ry.toInt rt, event.InRange) ↔
      lt ≤ 1023 ∧ rt ≤ 1023 := by
  have keys : ∀ event ∈ btnMap.map (fun entry =>
      InputEvent.key entry.2 (if buttons &&& entry.1 ≠ 0 then 1 else 0)), event.InRange := by
    intro event member
    obtain ⟨entry, -, rfl⟩ := List.mem_map.mp member
    trivial
  have x := (inRange_absolute .absX stick rfl lx.toInt).mpr (stick_admits lx)
  have y := (inRange_absolute .absY stick rfl ly.toInt).mpr (stick_admits ly)
  have rx := (inRange_absolute .absRx stick rfl rx.toInt).mpr (stick_admits rx)
  have ry := (inRange_absolute .absRy stick rfl ry.toInt).mpr (stick_admits ry)
  have hat0x := (inRange_absolute .absHat0x hat rfl (hatX buttons)).mpr (hat_admits_hatX buttons)
  have hat0y := (inRange_absolute .absHat0y hat rfl (hatY buttons)).mpr (hat_admits_hatY buttons)
  have z := (inRange_absolute .absZ trigger rfl lt).trans (trigger_admits lt)
  have rz := (inRange_absolute .absRz trigger rfl rt).trans (trigger_admits rt)
  rw [gamepadEvents, List.forall_mem_append, ← z, ← rz]
  simp only [List.forall_mem_cons]
  exact ⟨fun all => ⟨all.2.2.2.1, all.2.2.2.2.2.2.1⟩,
    fun small => ⟨keys, x, y, small.1, rx, ry, small.2, hat0x, hat0y, List.forall_mem_nil _⟩⟩

/-- **The events of a report** of 18 bytes or more. -/
theorem forwardGamepad_long (ui : Uinput) {data : List UInt8} (long : 18 ≤ data.length) :
    ui.forwardGamepad data = .ok ({ ui with lastButtons := some (payloadWord data 0) },
      some (gamepadEvents (payloadWord data 0)
        (payloadWord data 6).toInt16.toInt (~~~(payloadWord data 8).toInt16).toInt
        (payloadWord data 2).toNat
        (payloadWord data 10).toInt16.toInt (~~~(payloadWord data 12).toInt16).toInt
        (payloadWord data 4).toNat)) := by
  have inside : 14 ≤ (data.drop 4).length := by
    rw [List.length_drop]
    exact Nat.le_sub_of_add_le long
  rw [Uinput.forwardGamepad, if_neg (Nat.not_lt.mpr long), sliceFrom_ok (by omega)]
  simp only [bind, Except.bind]
  rw [readU16_ok (by omega), readU16_ok (by omega), readU16_ok (by omega), readI16_ok (by omega),
    readI16_ok (by omega), readI16_ok (by omega), readI16_ok (by omega)]
  rfl

/-- **All axes are in range exactly when both triggers are.** A report of 18 bytes or more is
emitted; the values of its axes are within the declared ranges exactly when the trigger words, at
`data[6..8]` and `data[8..10]`, are at most 1023. -/
theorem gamepad_in_range (ui : Uinput) (data : List UInt8) (long : 18 ≤ data.length) :
    ∃ after events, ui.forwardGamepad data = .ok (after, some events) ∧
      ((∀ event ∈ events, event.InRange) ↔ wordAt data 6 ≤ 1023 ∧ wordAt data 8 ≤ 1023) := by
  refine ⟨_, _, forwardGamepad_long ui long, ?_⟩
  rw [gamepadEvents_inRange, toNat_payloadWord, toNat_payloadWord]

/-- A report with all words at zero, but for the sticks at their least value. -/
def leastSticks : List UInt8 :=
  [0x20, 0x00, 0x01, 0x0e, 0, 0, 0, 0, 0, 0, 0x00, 0x80, 0x00, 0x80, 0x00, 0x80, 0x00, 0x80]

theorem gamepad_in_range_leastSticks :
    18 ≤ leastSticks.length ∧ ∃ after events,
      (Uinput.create .keys).forwardGamepad leastSticks = .ok (after, some events) ∧
      ((∀ event ∈ events, event.InRange) ↔
        wordAt leastSticks 6 ≤ 1023 ∧ wordAt leastSticks 8 ≤ 1023) :=
  ⟨by decide, gamepad_in_range (Uinput.create .keys) leastSticks (by decide)⟩

/-- A report with the left trigger word at 1024. -/
def wideTrigger : List UInt8 :=
  [0x20, 0x00, 0x01, 0x0e, 0, 0, 0x00, 0x04, 0, 0, 0, 0, 0, 0, 0, 0, 0, 0]

/-- A trigger word wider than ten bits is emitted as it is. -/
theorem not_gamepad_in_range : ¬ ∀ (ui : Uinput) (data : List UInt8), 18 ≤ data.length →
    ∀ after events, ui.forwardGamepad data = .ok (after, some events) →
      ∀ event ∈ events, event.InRange := by
  intro all
  have emitted := forwardGamepad_long (Uinput.create .keys) (show 18 ≤ wideTrigger.length by decide)
  have small := (gamepadEvents_inRange _ _ _ _ _ _ _).mp
    (all (Uinput.create .keys) wideTrigger (by decide) _ _ emitted)
  exact absurd small.1 (by decide)

end Wolverine.Input
