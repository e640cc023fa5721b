/-
**What the virtual devices show.**

The event loop emits events on a gamepad and on a keyboard; the kernel keeps the last value of every
key and axis. A run is compared with the packets that it has read: the gamepad shows what the last
INPUT report of full length says, but for the Guide button, which has a packet of its own.

* `layout` and `reportValue` — a report, bit by bit and word by word.
* `handle_forwards` — one packet: what it emits on either device.
* `runMonitor_forwards` — a run.
* `devices_show` — the devices behind a run.
-/

import Wolverine.Base.Registers
import Wolverine.Input.Gamepad
import Wolverine.Usb.Robust

namespace Wolverine.Input

open Wolverine.Rust Wolverine.Gip Wolverine.Registers Wolverine.Usb

/-! ### Devices -/

/-- What a virtual device has a value for. -/
inductive Control
  | key (key : Key)
  | axis (axis : AbsoluteAxis)
  deriving DecidableEq, Repr

/-- The value that an event writes. -/
def InputEvent.write : InputEvent → Control × Int
  | .key pressed value => (.key pressed, value)
  | .absolute moved value => (.axis moved, value)

/-- A fresh device: no key is pressed. -/
def blank : Control → Int := fun _ => 0

/-- The controls that a report fills in. -/
def reported : List Control :=
  btnMap.map (fun entry => .key entry.2) ++ gamepadAxes.map fun entry => .axis entry.1

/-- The controls that `build_gamepad` declares. -/
def buildGamepad : List Control := .key .btnMode :: reported   -- Guide is a packet of its own

/-- The keys that `build_keyboard` declares, but for KEY_MUTE, which nothing emits. -/
def buildKeyboard : List Key := [.keyVolumeup, .keyVolumedown, .keyMicmute]

/-- The events of a media command on the keyboard. -/
def MediaCommand.events : MediaCommand → List InputEvent
  | .wpctl _ => []
  | .emit events => events

/-- The events on the gamepad. -/
def onGamepad : Effect → List InputEvent
  | .forwardGamepad _ emitted => emitted.getD []
  | .forwardGuide _ emitted => emitted
  | _ => []

/-- The events on the keyboard. -/
def onKeyboard : Effect → List InputEvent
  | .forwardMedia _ commands => commands.flatMap MediaCommand.events
  | _ => []

/-- The gamepad behind a run. -/
def gamepadOf (trace : List (Tick × List Effect)) : Control → Int :=
  apply blank (((effectsOf trace).flatMap onGamepad).map InputEvent.write)

/-- The keyboard behind a run. -/
def keyboardOf (trace : List (Tick × List Effect)) : Control → Int :=
  apply blank (((effectsOf trace).flatMap onKeyboard).map InputEvent.write)

/-! ### Reports -/

/-- The packets that a run handles. -/
def received : List Tick → List (List UInt8)
  | [] => []
  | tick :: rest =>
    match tick.read with
    | .disconnected => []
    | .timeout => received rest
    | .data raw => if raw = [] then received rest else raw :: received rest

/-- The bit of a button in `data[4..6]`. -/
def layout : Key → Option Nat
  | .btnStart => some 2
  | .btnSelect => some 3
  | .btnSouth => some 4
  | .btnEast => some 5
  | .btnWest => some 6
  | .btnNorth => some 7
  | .btnTl => some 12
  | .btnTr => some 13
  | .btnThumbl => some 14
  | .btnThumbr => some 15
  | _ => none

/-- A bit of `data[4..6]`. -/
def bitAt (raw : List UInt8) (bit : Nat) : Bool := (wordAt raw 4).testBit bit

/-- The word at `data[i..i + 2]`, in two's complement. -/
def signedAt (raw : List UInt8) (i : Nat) : Int :=
  if wordAt raw i < 32768 then wordAt raw i else wordAt raw i - 65536

/-- What a report of full length says. -/
def reportValue (raw : List UInt8) : Control → Int
  | .key key => if (layout key).any (bitAt raw) then 1 else 0
  | .axis .absX => signedAt raw 10
  | .axis .absY => -1 - signedAt raw 12   -- up is negative
  | .axis .absZ => wordAt raw 6
  | .axis .absRx => signedAt raw 14
  | .axis .absRy => -1 - signedAt raw 16
  | .axis .absRz => wordAt raw 8
  | .axis .absHat0x => if bitAt raw 10 then -1 else if bitAt raw 11 then 1 else 0
  | .axis .absHat0y => if bitAt raw 8 then -1 else if bitAt raw 9 then 1 else 0

/-- An INPUT report of full length. -/
def isReport (raw : List UInt8) : Bool := raw.getD 0 0 = Cmd.input ∧ 18 ≤ raw.length

def isGuide (raw : List UInt8) : Bool := raw.getD 0 0 = Cmd.virtualKey

/-- What a VIRTUAL_KEY packet says. -/
def guideValue (raw : List UInt8) : Int := ((raw.getD 4 0).toNat % 2 : Nat)

/-- **What the gamepad shows** after these packets. -/
def shown (packets : List (List UInt8)) (control : Control) : Int :=
  if control = .key .btnMode then ((packets.filter isGuide).getLast?.map guideValue).getD 0
  else ((packets.filter isReport).getLast?.map (reportValue · control)).getD 0

section Report

theorem masked_iff (word : UInt16) {mask : UInt16} {bit : Nat} (single : mask.toNat = 2 ^ bit) :
    word &&& mask ≠ 0 ↔ word.toNat.testBit bit = true := by
  rw [Ne, ← UInt16.toNat_inj, UInt16.toNat_and, single, Nat.and_two_pow]
  cases word.toNat.testBit bit <;> simp

theorem masked (raw : List UInt8) {mask : UInt16} {bit : Nat} (single : mask.toNat = 2 ^ bit) :
    payloadWord raw 0 &&& mask ≠ 0 ↔ bitAt raw bit = true := by
  rw [masked_iff _ single, toNat_payloadWord, bitAt]

theorem layout_btnMap : ∀ entry ∈ btnMap, (layout entry.2).map (2 ^ ·) = some entry.1.toNat := by
  simp [btnMap, layout]

theorem toInt_toInt16 (word : UInt16) :
    word.toInt16.toInt = if word.toNat < 32768 then (word.toNat : Int) else word.toNat - 65536 := by
  have cond : word.toInt16.toInt =
      if 2 * word.toNat < 65536 then (word.toNat : Int) else word.toNat - 65536 :=
    BitVec.toInt_eq_toNat_cond word.toBitVec
  rw [cond]
  split <;> split <;> omega

theorem toInt_payloadWord (raw : List UInt8) (i : Nat) :
    (payloadWord raw i).toInt16.toInt = signedAt raw (4 + i) := by
  rw [toInt_toInt16, toNat_payloadWord, signedAt]

theorem toInt_not_payloadWord (raw : List UInt8) (i : Nat) :
    (~~~(payloadWord raw i).toInt16).toInt = -1 - signedAt raw (4 + i) := by
  have least := (payloadWord raw i).toInt16.le_toInt
  have greatest := (payloadWord raw i).toInt16.toInt_lt
  rw [← toInt_payloadWord, Int16.toInt_not]
  refine (Int.bmod_eq_of_le ?_ ?_).trans (sub_eq_neg_add _ _).symm
  · omega
  · omega

/-- **A report of full length fills in every control that it covers.** -/
theorem reported_writes (raw : List UInt8) :
    (gamepadEvents (payloadWord raw 0)
      (payloadWord raw 6).toInt16.toInt (~~~(payloadWord raw 8).toInt16).toInt
      (payloadWord raw 2).toNat
      (payloadWord raw 10).toInt16.toInt (~~~(payloadWord raw 12).toInt16).toInt
      (payloadWord raw 4).toNat).map InputEvent.write =
    reported.map fun control => (control, reportValue raw control) := by
  have up := masked raw (show dpadUp.toNat = 2 ^ 8 by decide)
  have down := masked raw (show dpadDown.toNat = 2 ^ 9 by decide)
  have left := masked raw (show dpadLeft.toNat = 2 ^ 10 by decide)
  have right := masked raw (show dpadRight.toNat = 2 ^ 11 by decide)
  rw [gamepadEvents, reported, List.map_append, List.map_append, List.map_map, List.map_map]
  refine congrArg₂ (· ++ ·) ?_ ?_
  · apply List.map_congr_left
    intro entry member
    obtain ⟨bit, placed, single⟩ := Option.map_eq_some_iff.mp (layout_btnMap entry member)
    simp only [Function.comp_apply, InputEvent.write, reportValue, placed, Option.any_some,
      masked raw single.symm]
  · simp only [gamepadAxes, List.map_cons, List.map_nil, InputEvent.write, reportValue, hatX, hatY,
      toInt_payloadWord, toInt_not_payloadWord, toNat_payloadWord, up, down, left, right]

end Report

/-! ### One packet -/

/-- What a packet writes on the gamepad. -/
def padWrites (raw : List UInt8) : List (Control × Int) :=
  if isReport raw then reported.map fun control => (control, reportValue raw control)
  else if isGuide raw then [(.key .btnMode, guideValue raw)]
  else []

/-- Press and release. -/
def tap (pressed : Key) : List InputEvent := [.key pressed 1, .key pressed 0]

/-- The events of a list of taps of media keys, of which the absolute mode has none. -/
def Taps (mode : MediaMode) (events : List InputEvent) : Prop :=
  ∃ keys : List Key, keys ⊆ buildKeyboard ∧ events = keys.flatMap tap ∧
    (mode = .absolute → keys = [])

/-- What was emitted comes from these packets. -/
structure Forwarded (mode : MediaMode) (packets : List (List UInt8)) (effects : List Effect) :
    Prop where
  gamepad : (effects.flatMap onGamepad).map InputEvent.write = packets.flatMap padWrites
  keyboard : Taps mode (effects.flatMap onKeyboard)

section Taps

variable {mode : MediaMode}

theorem Taps.nil (mode : MediaMode) : Taps mode [] :=
  ⟨[], List.nil_subset _, rfl, fun _ => rfl⟩

theorem Taps.append {first second : List InputEvent} (before : Taps mode first)
    (behind : Taps mode second) : Taps mode (first ++ second) := by
  obtain ⟨keys, known, rfl, absolute⟩ := before
  obtain ⟨more, others, rfl, none⟩ := behind
  refine ⟨keys ++ more, List.append_subset.mpr ⟨known, others⟩, List.flatMap_append.symm, ?_⟩
  intro plain
  rw [absolute plain, none plain, List.append_nil]

theorem Taps.one {pressed : Key} (known : pressed ∈ buildKeyboard) : Taps .keys (tap pressed) :=
  ⟨[pressed], List.cons_subset.mpr ⟨known, List.nil_subset _⟩, (List.flatMap_singleton ..).symm,
    by simp⟩

theorem muteCommands_taps (mode : MediaMode) (muted : Bool) :
    Taps mode ((muteCommands mode muted).flatMap MediaCommand.events) := by
  cases mode with
  | absolute => exact Taps.nil _
  | keys => exact @Taps.one .keyMicmute (by decide)

theorem volumeCommands_taps (mode : MediaMode) (prev vol : UInt8) :
    Taps mode ((volumeCommands mode prev vol).flatMap MediaCommand.events) := by
  cases mode with
  | absolute => exact Taps.nil _
  | keys =>
    rw [volumeCommands]
    split
    · exact @Taps.one .keyVolumeup (by decide)
    · exact @Taps.one .keyVolumedown (by decide)

theorem onChange_taps {commands : UInt8 → List MediaCommand}
    (each : ∀ prev, Taps mode ((commands prev).flatMap MediaCommand.events))
    (last : Option UInt8) (value : UInt8) :
    Taps mode ((onChange last value commands).flatMap MediaCommand.events) := by
  cases last with
  | none => exact Taps.nil mode
  | some prev =>
    rw [onChange]
    split
    · exact each prev
    · exact Taps.nil mode

/-- A media report taps keys. -/
theorem forwardMedia_taps (ui : Uinput) (data : List UInt8) :
    ∃ after commands, ui.forwardMedia data = .ok (after, commands) ∧ after.mode = ui.mode ∧
      Taps ui.mode (commands.flatMap MediaCommand.events) := by
  unfold Uinput.forwardMedia
  by_cases short : data.length < 7
  · exact ⟨_, _, if_pos short, rfl, Taps.nil ui.mode⟩
  · rw [if_neg short, index_ok (by omega) 0, index_ok (by omega) 0]
    refine ⟨_, _, rfl, rfl, ?_⟩
    rw [List.flatMap_append]
    exact (onChange_taps (fun _ => muteCommands_taps ui.mode _) ui.lastMute _).append
      (onChange_taps (fun prev => volumeCommands_taps ui.mode prev _) ui.lastVol _)

end Taps

namespace Forwarded

variable {mode : MediaMode}

theorem nil (mode : MediaMode) : Forwarded mode [] [] := ⟨rfl, Taps.nil mode⟩

theorem append {packets more : List (List UInt8)} {first second : List Effect}
    (before : Forwarded mode packets first) (behind : Forwarded mode more second) :
    Forwarded mode (packets ++ more) (first ++ second) := by
  constructor
  · rw [List.flatMap_append, List.map_append, before.gamepad, behind.gamepad, List.flatMap_append]
  · rw [List.flatMap_append]
    exact before.keyboard.append behind.keyboard

/-- Packets that are sent are not seen on the devices. -/
theorem send (mode : MediaMode) (sent : Sent) : Forwarded mode [] [.send sent] :=
  ⟨rfl, Taps.nil mode⟩

end Forwarded

theorem pollRumble_forwards (monitor : Monitor) (rumble : Option (UInt8 × UInt8)) :
    (pollRumble monitor rumble).1.ui = monitor.ui ∧
      Forwarded monitor.ui.mode [] (pollRumble monitor rumble).2 := by
  cases rumble with
  | none => exact ⟨rfl, Forwarded.nil _⟩
  | some motors => exact ⟨rfl, Forwarded.send _ _⟩

section Packet

variable {raw : List UInt8}

/-- A packet of another command writes nothing on the gamepad. -/
theorem padWrites_other (report : raw.getD 0 0 ≠ Cmd.input)
    (guide : raw.getD 0 0 ≠ Cmd.virtualKey) : padWrites raw = [] := by
  rw [padWrites, isReport, isGuide, decide_eq_false fun both => report both.1,
    decide_eq_false guide]
  rfl

/-- What is emitted on the keyboard only. -/
theorem Forwarded.off {mode : MediaMode} {effects : List Effect} (unwritten : padWrites raw = [])
    (gamepad : effects.flatMap onGamepad = []) (keyboard : Taps mode (effects.flatMap onKeyboard)) :
    Forwarded mode [raw] effects := by
  refine ⟨?_, keyboard⟩
  rw [gamepad, List.flatMap_singleton, unwritten]
  rfl

theorem padWrites_report (report : raw.getD 0 0 = Cmd.input) : padWrites raw =
    if 18 ≤ raw.length then reported.map fun control => (control, reportValue raw control)
    else [] := by
  have guide : isGuide raw = false := decide_eq_false (by rw [report]; decide)
  rw [padWrites, isReport, guide]
  simp only [report, true_and, decide_eq_true_eq, Bool.false_eq_true, if_false]

/-- An INPUT report, of any length. -/
theorem forwardGamepad_writes (ui : Uinput) (report : raw.getD 0 0 = Cmd.input) :
    ∃ after emitted, ui.forwardGamepad raw = .ok (after, emitted) ∧ after.mode = ui.mode ∧
      (emitted.getD []).map InputEvent.write = padWrites raw := by
  rw [padWrites_report report]
  by_cases long : 18 ≤ raw.length
  · rw [if_pos long]
    exact ⟨_, _, forwardGamepad_long ui long, rfl, reported_writes raw⟩
  · rw [if_neg long]
    exact ⟨_, _, if_pos (Nat.not_le.mp long), rfl, rfl⟩

theorem guideValue_eq (raw : List UInt8) :
    guideValue raw = if decide (raw.getD 4 0 &&& 0x01 ≠ 0) = true then 1 else 0 := by
  have low : (raw.getD 4 0 &&& 0x01).toNat = (raw.getD 4 0).toNat % 2 := by
    rw [UInt8.toNat_and]
    exact Nat.and_one_is_mod _
  rw [guideValue, ← low]
  by_cases up : raw.getD 4 0 &&& 0x01 = 0
  · rw [up, if_neg (by decide)]
    rfl
  · have pressed : (raw.getD 4 0 &&& 0x01).toNat ≠ 0 := fun zero => up (UInt8.toNat_inj.mp zero)
    rw [if_pos (decide_eq_true up), show (raw.getD 4 0 &&& 0x01).toNat = 1 by omega]
    rfl

theorem padWrites_guide (guide : raw.getD 0 0 = Cmd.virtualKey) :
    padWrites raw = [(.key .btnMode, guideValue raw)] := by
  have report : isReport raw = false := decide_eq_false fun both =>
    absurd (both.1.symm.trans guide) (by decide)
  rw [padWrites, report, isGuide, decide_eq_true guide]
  rfl

/-- An AUDIO_CONTROL packet is not seen on the gamepad. -/
theorem handleAudioControl_forwards (monitor : Monitor) (cmd opts seq : UInt8)
    (unwritten : padWrites raw = []) :
    ∃ after effects, handleAudioControl monitor cmd opts seq raw = .ok (after, effects) ∧
      after.ui.mode = monitor.ui.mode ∧ Forwarded monitor.ui.mode [raw] effects := by
  have acked : ∀ effects sent, Forwarded monitor.ui.mode [raw] effects → Forwarded
      monitor.ui.mode [raw] (effects ++ if opts &&& Opt.ack ≠ 0 then [.send sent] else []) := by
    intro effects sent forwarded
    have unacked := List.append_nil [raw]
    split
    · exact unacked ▸ forwarded.append (Forwarded.send _ _)
    · exact unacked ▸ forwarded.append (Forwarded.nil _)
  unfold handleAudioControl handleVolumeChat
  by_cases chat : raw.getD 4 0xff = audioCtrlVolumeChat ∧ 9 ≤ raw.length
  · obtain ⟨ui, commands, forwarded, kept, taps⟩ := forwardMedia_taps monitor.ui raw
    rw [if_pos chat, index_ok (show 5 < raw.length by omega) 0, forwarded]
    refine ⟨_, _, rfl, kept, acked _ _ (Forwarded.off unwritten rfl ?_)⟩
    rw [List.flatMap_cons, List.flatMap_singleton]
    exact (List.append_nil _).symm ▸ taps
  · rw [if_neg chat]
    exact ⟨_, _, rfl, rfl, acked _ _ (Forwarded.off unwritten rfl (Taps.nil _))⟩

/-- **One packet.** -/
theorem handle_forwards (monitor : Monitor) (nonempty : raw ≠ []) :
    ∃ after effects, handle monitor raw = .ok (after, effects) ∧
      after.ui.mode = monitor.ui.mode ∧ Forwarded monitor.ui.mode [raw] effects := by
  unfold handle
  rw [index_ok (List.length_pos_iff.mpr nonempty) 0]
  simp only [bind, Except.bind]
  by_cases report : raw.getD 0 0 = Cmd.input
  · obtain ⟨ui, emitted, forwarded, kept, writes⟩ := forwardGamepad_writes monitor.ui report
    rw [if_pos report, forwarded]
    refine ⟨_, _, rfl, kept, ?_, Taps.nil _⟩
    rw [List.flatMap_singleton, List.flatMap_singleton]
    exact writes
  rw [if_neg report]
  by_cases guide : raw.getD 0 0 = Cmd.virtualKey
  · rw [if_pos guide]
    refine ⟨_, _, rfl, rfl, ?_, Taps.nil _⟩
    rw [List.flatMap_singleton, List.flatMap_singleton, padWrites_guide guide, guideValue_eq]
    rfl
  rw [if_neg guide]
  have unwritten := padWrites_other report guide
  by_cases status : raw.getD 0 0 = Cmd.status
  · rw [if_pos status]
    exact ⟨_, _, rfl, rfl, Forwarded.off unwritten rfl (Taps.nil _)⟩
  rw [if_neg status]
  by_cases audio : raw.getD 0 0 = Cmd.audioControl
  · rw [if_pos audio]
    exact handleAudioControl_forwards monitor _ _ _ unwritten
  · rw [if_neg audio, sliceTo_ok (Nat.min_le_left _ _)]
    exact ⟨_, _, rfl, rfl, Forwarded.off unwritten rfl (Taps.nil _)⟩

end Packet

/-! ### A run -/

/-- **What a run emits comes from the packets that it has read.** -/
theorem runMonitor_forwards (ticks : List Tick) : ∀ monitor : Monitor,
    ∃ trace, runMonitor monitor ticks = .ok trace ∧
      Forwarded monitor.ui.mode (received ticks) (effectsOf trace) := by
  induction ticks with
  | nil => exact fun monitor => ⟨[], rfl, Forwarded.nil _⟩
  | cons tick rest ih =>
    intro monitor
    obtain ⟨same, rumble⟩ := pollRumble_forwards monitor tick.rumble
    rw [runMonitor, received]
    generalize pollRumble monitor tick.rumble = polled at same rumble ⊢
    obtain ⟨middle, requested⟩ := polled
    rw [← same] at rumble ⊢
    simp only at rumble ⊢
    have idle : ∃ trace, (runMonitor middle rest).map ((tick, requested) :: ·) = .ok trace ∧
        Forwarded middle.ui.mode (received rest) (effectsOf trace) := by
      obtain ⟨later, ran, forwarded⟩ := ih middle
      refine ⟨(tick, requested) :: later, by rw [ran]; rfl, ?_⟩
      rw [effectsOf_cons]
      exact rumble.append forwarded
    cases reading : tick.read with
    | timeout => exact idle
    | disconnected =>
      refine ⟨[(tick, requested)], rfl, ?_⟩
      rw [effectsOf_cons]
      exact rumble.append (Forwarded.nil _)
    | data raw =>
      by_cases empty : raw = []
      · simp only [if_pos empty]
        exact idle
      · obtain ⟨after, effects, handled, kept, seen⟩ := handle_forwards middle empty
        obtain ⟨later, ran, forwarded⟩ := ih after
        simp only [if_neg empty, handled, bind, Except.bind, ran]
        refine ⟨(tick, requested ++ effects) :: later, rfl, ?_⟩
        rw [effectsOf_cons, List.append_assoc]
        rw [kept] at forwarded
        exact rumble.append (seen.append forwarded)

/-! ### Behind a run -/

section Shown

theorem nodup_reported : reported.Nodup := by decide

theorem btnMode_not_reported : Control.key .btnMode ∉ reported := by decide

/-- Every packet either sets the Guide button or leaves it. -/
theorem sets_guide : Sets padWrites isGuide guideValue (.key .btnMode) := by
  constructor
  · intro raw guide state
    rw [padWrites_guide (of_decide_eq_true guide), apply_cons, apply_nil, Function.update_self]
  · intro raw other state
    apply apply_unwritten
    rw [padWrites, other]
    split
    · rw [List.map_map]
      exact fun member => btnMode_not_reported (by simpa using member)
    · exact List.not_mem_nil

/-- Every packet either sets a control of the reports or leaves it. -/
theorem sets_reported {control : Control} (covered : control ∈ reported) :
    Sets padWrites isReport (reportValue · control) control := by
  constructor
  · intro raw report state
    rw [padWrites, report]
    apply apply_once
    · rw [if_pos rfl, List.map_map]
      exact (List.map_id' reported).symm ▸ nodup_reported
    · exact List.mem_map.mpr ⟨control, covered, rfl⟩
  · intro raw other state
    apply apply_unwritten
    rw [padWrites, other]
    intro member
    cases guide : isGuide raw with
    | false =>
      rw [guide] at member
      cases member
    | true =>
      rw [guide] at member
      have same : control = .key .btnMode := List.mem_singleton.mp member
      exact btnMode_not_reported (same ▸ covered)

/-- **The gamepad shows the last report and the last state of the Guide button.** -/
theorem apply_padWrites (packets : List (List UInt8)) {control : Control}
    (declared : control ∈ buildGamepad) :
    apply blank (packets.flatMap padWrites) control = shown packets control := by
  rcases List.mem_cons.mp declared with rfl | covered
  · rw [apply_batches sets_guide, shown, if_pos rfl]
    rfl
  · have other : control ≠ .key .btnMode := fun same => btnMode_not_reported (same ▸ covered)
    rw [apply_batches (sets_reported covered), shown, if_neg other]
    rfl

/-- Only declared controls are written. -/
theorem padWrites_declared (raw : List UInt8) :
    ∀ write ∈ padWrites raw, write.1 ∈ buildGamepad := by
  intro write member
  rw [padWrites] at member
  split at member
  · obtain ⟨control, covered, rfl⟩ := List.mem_map.mp member
    exact List.mem_cons_of_mem _ covered
  · split at member
    · rw [List.mem_singleton.mp member]
      exact List.mem_cons_self
    · cases member

theorem wordAt_lt (raw : List UInt8) (i : Nat) : wordAt raw i < 65536 := by
  have low := (raw.getD i 0).toNat_lt
  have high := (raw.getD (i + 1) 0).toNat_lt
  rw [wordAt]
  omega

/-- A stick, bit-inverted or not, is within its range. -/
theorem signedAt_bounds (raw : List UInt8) (i : Nat) :
    -32768 ≤ signedAt raw i ∧ signedAt raw i ≤ 32767 := by
  have below := wordAt_lt raw i
  rw [signedAt]
  split <;> omega

theorem hat_admits (back forth : Bool) :
    hat.Admits (if back then -1 else if forth then 1 else 0) := by
  cases back <;> cases forth <;> decide

/-- A report whose trigger words have ten bits is within the declared ranges. -/
theorem reportValue_admits {raw : List UInt8} (left : wordAt raw 6 ≤ 1023)
    (right : wordAt raw 8 ≤ 1023) :
    ∀ entry ∈ gamepadAxes, entry.2.Admits (reportValue raw (.axis entry.1)) := by
  have sticks := signedAt_bounds raw
  simp only [gamepadAxes, List.forall_mem_cons]
  refine ⟨sticks 10, ?_, (trigger_admits _).mpr left, sticks 14, ?_, (trigger_admits _).mpr right,
    hat_admits _ _, hat_admits _ _, List.forall_mem_nil _⟩
  · have bounds := sticks 12
    exact ⟨show -32768 ≤ -1 - signedAt raw 12 by omega, show -1 - signedAt raw 12 ≤ 32767 by omega⟩
  · have bounds := sticks 16
    exact ⟨show -32768 ≤ -1 - signedAt raw 16 by omega, show -1 - signedAt raw 16 ≤ 32767 by omega⟩

/-- An axis that no report has moved is within its range. -/
theorem zero_admits : ∀ entry ∈ gamepadAxes, entry.2.Admits 0 := by decide

theorem shown_admits {packets : List (List UInt8)}
    (small : ∀ raw ∈ packets, isReport raw = true → wordAt raw 6 ≤ 1023 ∧ wordAt raw 8 ≤ 1023) :
    ∀ entry ∈ gamepadAxes, entry.2.Admits (shown packets (.axis entry.1)) := by
  intro entry declared
  rw [shown, if_neg (by simp)]
  cases last : (packets.filter isReport).getLast? with
  | none => exact zero_admits entry declared
  | some raw =>
    obtain ⟨member, report⟩ := List.mem_filter.mp (List.mem_of_getLast? last)
    obtain ⟨left, right⟩ := small raw member report
    exact reportValue_admits left right entry declared

/-- After taps, no key is pressed. -/
theorem apply_taps (keys : List Key) :
    apply blank ((keys.flatMap tap).map InputEvent.write) = blank := by
  induction keys with
  | nil => rfl
  | cons pressed rest ih =>
    have released : apply blank ((tap pressed).map InputEvent.write) = blank := by
      show Function.update (Function.update blank (.key pressed) 1) (.key pressed) 0 = blank
      rw [Function.update_idem]
      funext control
      rw [Function.update_apply]
      exact ite_self _
    rw [List.flatMap_cons, List.map_append, apply_append, released, ih]

end Shown

/-- **The devices behind a run.** Every run of the event loop returns a trace. On the gamepad only
declared controls are written; it shows the last INPUT report of full length among the packets that
were read, bit by bit as the layout says, and the last state of the Guide button; where the trigger
words of the reports have ten bits, all axes are within their declared ranges. On the keyboard only
declared keys are written, all of them are released again, and in the absolute mode there are
none. -/
theorem devices_show (monitor : Monitor) (ticks : List Tick) :
    ∃ trace, runMonitor monitor ticks = .ok trace ∧
      (∀ effect ∈ effectsOf trace, ∀ event ∈ onGamepad effect, event.write.1 ∈ buildGamepad) ∧
      (∀ control ∈ buildGamepad, gamepadOf trace control = shown (received ticks) control) ∧
      ((∀ raw ∈ received ticks, isReport raw = true → wordAt raw 6 ≤ 1023 ∧ wordAt raw 8 ≤ 1023) →
        ∀ entry ∈ gamepadAxes, entry.2.Admits (gamepadOf trace (.axis entry.1))) ∧
      (∀ effect ∈ effectsOf trace, ∀ event ∈ onKeyboard effect,
        ∃ pressed ∈ buildKeyboard, event.write.1 = .key pressed) ∧
      keyboardOf trace = blank ∧
      (monitor.ui.mode = .absolute → ∀ effect ∈ effectsOf trace, onKeyboard effect = []) := by
  obtain ⟨trace, ran, ⟨gamepad, keys, known, keyboard, absolute⟩⟩ :=
    runMonitor_forwards ticks monitor
  have shows : ∀ control ∈ buildGamepad,
      gamepadOf trace control = shown (received ticks) control := by
    intro control declared
    rw [gamepadOf, gamepad]
    exact apply_padWrites (received ticks) declared
  refine ⟨trace, ran, fun effect happened event emitted => ?_, shows,
    fun small entry declared => ?_, fun effect happened event emitted => ?_, ?_,
    fun plain effect happened => ?_⟩
  · have written := @List.mem_map_of_mem _ _ _ _ InputEvent.write
      (List.mem_flatMap.mpr ⟨effect, happened, emitted⟩)
    rw [gamepad] at written
    obtain ⟨raw, -, here⟩ := List.mem_flatMap.mp written
    exact padWrites_declared raw _ here
  · rw [shows _ (List.mem_cons_of_mem _ (List.mem_append_right _
      (List.mem_map.mpr ⟨entry, declared, rfl⟩)))]
    exact shown_admits small entry declared
  · have written := List.mem_flatMap.mpr ⟨effect, happened, emitted⟩
    rw [keyboard] at written
    obtain ⟨pressed, member, tapped⟩ := List.mem_flatMap.mp written
    refine ⟨pressed, known member, ?_⟩
    rcases List.mem_pair.mp tapped with rfl | rfl <;> rfl
  · rw [keyboardOf, keyboard]
    exact apply_taps keys
  · rw [absolute plain] at keyboard
    exact List.flatMap_eq_nil_iff.mp keyboard effect happened

end Wolverine.Input
