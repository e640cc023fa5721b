/-
**The virtual devices of `gip_init.py`.**

The monitor thread of the Python driver forwards INPUT reports to a gamepad device and volume
reports to a keyboard device or to `wpctl`. Its gamepad layout is an older one than that of the
port: shorter reports, other offsets, triggers of one byte, no D-pad. Its media buttons are those of
the port.

* `driverValue` — a report in this layout, bit by bit and byte by byte.
* `parseAndForwardGamepad_ok`, `forwardMedia_agrees`, `forwardMedia_declared` — one packet.
* `run_declared`, `run_forwards` — the keys and the packets of a session.
* `driver_devices` — the devices behind a session.
-/

import Wolverine.Input.Devices
import Wolverine.Input.Media
import Wolverine.Python.Monitor

namespace Wolverine.Python

open Wolverine.Machine Wolverine.Registers
open Wolverine.Input (AbsInfo AbsoluteAxis Control InputEvent Key MediaCommand MediaMode Uinput)

/-! ### Declarations -/

/-- The keys of `create_uinput_gamepad`; BTN_X is BTN_NORTH and BTN_Y is BTN_WEST. -/
def gamepadKeys : List Key :=
  [.btnSouth, .btnEast, .btnNorth, .btnWest, .btnTl, .btnTr, .btnSelect, .btnStart, .btnMode,
    .btnThumbl, .btnThumbr]

/-- The axes of `create_uinput_gamepad`. -/
def gamepadAxes : List (AbsoluteAxis × AbsInfo) :=
  [(.absX, ⟨0, -32768, 32767, 16, 128, 0⟩), (.absY, ⟨0, -32768, 32767, 16, 128, 0⟩),
    (.absZ, ⟨0, 0, 255, 0, 0, 0⟩), (.absRx, ⟨0, -32768, 32767, 16, 128, 0⟩),
    (.absRy, ⟨0, -32768, 32767, 16, 128, 0⟩), (.absRz, ⟨0, 0, 255, 0, 0, 0⟩),
    (.absHat0x, ⟨0, -1, 1, 0, 0, 0⟩), (.absHat0y, ⟨0, -1, 1, 0, 0, 0⟩)]

/-- `create_uinput_gamepad`: what the device has a value for. -/
def createUinputGamepad : List Control :=
  gamepadKeys.map .key ++ gamepadAxes.map fun entry => .axis entry.1

/-- The keys of `create_uinput_media`, but for KEY_MUTE, which nothing emits. -/
def createUinputMedia : List Key := [.keyVolumeup, .keyVolumedown, .keyMicmute]

/-! ### Gamepad reports -/

/-- `struct.unpack_from("<H", payload, offset)[0]`. -/
def unpackUnsigned (payload : List UInt8) (offset : Nat) : Except PyError Nat :=
  match payload[offset]?, payload[offset + 1]? with
  | some low, some high => .ok (low.toNat + 256 * high.toNat)
  | _, _ => .error .structError

/-- One `h` of `struct.unpack_from`. -/
def unpackSigned (payload : List UInt8) (offset : Nat) : Except PyError Int := do
  let word ← unpackUnsigned payload offset
  return if word < 32768 then word else word - 65536

/-- `struct.unpack_from("<hh", payload, offset)`. -/
def unpackPair (payload : List UInt8) (offset : Nat) : Except PyError (Int × Int) := do
  let first ← unpackSigned payload offset
  let second ← unpackSigned payload (offset + 2)
  return (first, second)

/-- `btn_map`. -/
def btnMap : List (Nat × Key) :=
  [(0x0001, .btnSelect), (0x0002, .btnMode), (0x0004, .btnStart), (0x0008, .btnSouth),
    (0x0010, .btnEast), (0x0020, .btnNorth), (0x0040, .btnWest), (0x0100, .btnTl),
    (0x0200, .btnTr), (0x1000, .btnThumbl), (0x2000, .btnThumbr)]

/-- `parse_and_forward_gamepad`: the events before the `syn`, if there are any. -/
def parseAndForwardGamepad (data : List UInt8) : Except PyError (Option (List InputEvent)) :=
  if data.length < 4 + 12 then .ok none
  else do
    let payload := data.drop 4
    let buttons ← unpackUnsigned payload 0
    let lt ← pyIndex payload 2
    let rt ← pyIndex payload 3
    let (lx, ly) ← unpackPair payload 4
    let (rx, ry) ← unpackPair payload 8
    return some (btnMap.map (fun entry =>
        .key entry.2 (if buttons &&& entry.1 ≠ 0 then 1 else 0)) ++
      [.absolute .absX lx, .absolute .absY ly, .absolute .absZ lt.toNat, .absolute .absRx rx,
        .absolute .absRy ry, .absolute .absRz rt.toNat])

/-- The bit of a button in `data[4..6]`. -/
def driverLayout : Key → Option Nat
  | .btnSelect => some 0
  | .btnMode => some 1
  | .btnStart => some 2
  | .btnSouth => some 3
  | .btnEast => some 4
  | .btnNorth => some 5
  | .btnWest => some 6
  | .btnTl => some 8
  | .btnTr => some 9
  | .btnThumbl => some 12
  | .btnThumbr => some 13
  | _ => none

/-- **What a report says.** -/
def driverValue (raw : List UInt8) : Control → Int
  | .key key => if (driverLayout key).any (Input.bitAt raw) then 1 else 0
  | .axis .absX => Input.signedAt raw 8
  | .axis .absY => Input.signedAt raw 10
  | .axis .absZ => (raw.getD 6 0).toNat
  | .axis .absRx => Input.signedAt raw 12
  | .axis .absRy => Input.signedAt raw 14
  | .axis .absRz => (raw.getD 7 0).toNat
  | .axis .absHat0x | .axis .absHat0y => 0   -- declared, and never written

/-- The controls that a report fills in. -/
def filled : List Control :=
  btnMap.map (fun entry => .key entry.2) ++
    [.axis .absX, .axis .absY, .axis .absZ, .axis .absRx, .axis .absRy, .axis .absRz]

/-- An INPUT report that is long enough. -/
def isReport (raw : List UInt8) : Bool :=
  (raw.getD 0 0).toNat = gipCmdInput ∧ 16 ≤ raw.length

section Report

variable {data : List UInt8} {offset : Nat}

theorem unpackUnsigned_ok (inside : 4 + offset + 1 < data.length) :
    unpackUnsigned (data.drop 4) offset = .ok (Input.wordAt data (4 + offset)) := by
  rw [unpackUnsigned, List.getElem?_drop, List.getElem?_drop,
    List.getElem?_eq_getElem (by omega), List.getElem?_eq_getElem (by omega)]
  simp only [Input.wordAt, List.getD_eq_getElem?_getD]
  rw [List.getElem?_eq_getElem (by omega), List.getElem?_eq_getElem (by omega)]
  rfl

theorem unpackPair_ok (inside : 4 + offset + 3 < data.length) :
    unpackPair (data.drop 4) offset =
      .ok (Input.signedAt data (4 + offset), Input.signedAt data (4 + (offset + 2))) := by
  rw [unpackPair, unpackSigned, unpackSigned, unpackUnsigned_ok (by omega),
    unpackUnsigned_ok (by omega)]
  rfl

theorem pyIndex_drop (inside : 4 + offset < data.length) :
    pyIndex (data.drop 4) offset = .ok (data.getD (4 + offset) 0) := by
  rw [pyIndex, List.getElem?_drop, List.getD_eq_getElem?_getD, List.getElem?_eq_getElem inside]
  rfl

theorem pyIndex_getD {i : Nat} (inside : i < data.length) :
    pyIndex data i = .ok (data.getD i 0) := by
  rw [pyIndex, List.getD_eq_getElem?_getD, List.getElem?_eq_getElem inside]
  rfl

/-- What a report of any kind writes. -/
def padWrites (raw : List UInt8) : List (Control × Int) :=
  if 16 ≤ raw.length then filled.map fun control => (control, driverValue raw control) else []

theorem layout_btnMap : ∀ entry ∈ btnMap, (driverLayout entry.2).map (2 ^ ·) = some entry.1 := by
  simp [btnMap, driverLayout]

/-- **A report of any length is forwarded** without raising, and fills in every control that it
covers. -/
theorem parseAndForwardGamepad_ok (data : List UInt8) :
    ∃ emitted, parseAndForwardGamepad data = .ok emitted ∧
      (emitted.getD []).map InputEvent.write = padWrites data := by
  unfold parseAndForwardGamepad padWrites
  by_cases short : data.length < 4 + 12
  · rw [if_pos short, if_neg (by omega)]
    exact ⟨none, rfl, rfl⟩
  rw [if_neg short, if_pos (by omega)]
  simp only [bind, Except.bind]
  rw [unpackUnsigned_ok (by omega), pyIndex_drop (by omega), pyIndex_drop (by omega),
    unpackPair_ok (by omega), unpackPair_ok (by omega)]
  refine ⟨_, rfl, ?_⟩
  rw [Option.getD_some, filled, List.map_append, List.map_append, List.map_map, List.map_map]
  refine congrArg₂ (· ++ ·) ?_ rfl
  apply List.map_congr_left
  intro entry member
  obtain ⟨bit, placed, single⟩ := Option.map_eq_some_iff.mp (layout_btnMap entry member)
  have masked : Input.wordAt data 4 &&& entry.1 ≠ 0 ↔ Input.bitAt data bit = true := by
    rw [← single, Nat.and_two_pow, Input.bitAt]
    cases (Input.wordAt data 4).testBit bit <;> simp
  simp only [Function.comp_apply, InputEvent.write, driverValue, placed, Option.any_some,
    Nat.add_zero, masked]

end Report

/-! ### Media buttons -/

/-- `_media_state`. -/
structure MediaState where
  mute : Option UInt8
  vol : Option UInt8
  deriving DecidableEq, Repr

/-- `_tap_key`: a `syn` is behind each event. -/
def tapKey (key : Key) : List MediaCommand := [.emit [.key key 1], .emit [.key key 0]]

/-- What a change of the mute byte does; `absolute` is `MEDIA_MODE_ABSOLUTE`, and `ui` says whether
there is a keyboard device. -/
def onMute (absolute ui : Bool) (muted : Bool) : List MediaCommand :=
  if absolute then [.wpctl ["set-mute", "@DEFAULT_AUDIO_SOURCE@", if muted then "1" else "0"]]
  else if ui then tapKey .keyMicmute
  else []

/-- `f"{vol / 100:.2f}"`. -/
def fractionText (vol : UInt8) : String :=
  let cents := vol.toNat % 100
  toString (vol.toNat / 100) ++ (if cents < 10 then ".0" else ".") ++ toString cents

/-- What a change of the volume byte does. -/
def onVolume (absolute ui : Bool) (prevVol vol : UInt8) : List MediaCommand :=
  let up := vol > prevVol
  if absolute then
    [.wpctl ["set-volume", "-l", "1.0", "@DEFAULT_AUDIO_SINK@", fractionText vol]]
  else if ui then tapKey (if up then .keyVolumeup else .keyVolumedown)
  else []

/-- `forward_media`: the state behind it, and what it does. -/
def forwardMedia (absolute ui : Bool) (state : MediaState) (data : List UInt8) :
    Except PyError (MediaState × List MediaCommand) :=
  if data.length < 7 then .ok (state, [])
  else do
    let mute ← pyIndex data 5
    let vol ← pyIndex data 6
    let muted : Bool := mute = 0x05
    let muting := match state.mute with
      | some prevMute => if mute ≠ prevMute then onMute absolute ui muted else []
      | none => []
    let leveling := match state.vol with
      | some prevVol => if vol ≠ prevVol then onVolume absolute ui prevVol vol else []
      | none => []
    return (⟨some mute, some vol⟩, muting ++ leveling)

/-- The mode of the port. -/
def portMode (absolute : Bool) : MediaMode := if absolute then .absolute else .keys

/-- The part of the port's state that media reports are compared with. -/
def mediaState (ui : Uinput) : MediaState := ⟨ui.lastMute, ui.lastVol⟩

section Media

variable {absolute ui : Bool}

theorem onMute_eq (present : absolute = true ∨ ui = true) (muted : Bool) :
    onMute absolute ui muted = Input.muteCommands (portMode absolute) muted := by
  cases absolute
  · rcases present with off | rfl
    · cases off
    · rfl
  · rfl

/-- Two digits, one by one or as a number. -/
theorem toString_cents {cents : Nat} (small : cents < 100) :
    (if cents < 10 then ".0" else ".") ++ toString cents =
      "." ++ (toString (cents / 10) ++ toString (cents % 10)) := by
  interval_cases cents <;> rfl

/-- **Both formats give a level the same text.** -/
theorem fractionText_eq (vol : UInt8) : fractionText vol = Input.volumeText vol := by
  have cents := toString_cents (Nat.mod_lt vol.toNat (show 0 < 100 by decide))
  simp only [fractionText, Input.volumeText, String.append_assoc, cents]

theorem onVolume_eq (present : absolute = true ∨ ui = true) (prevVol vol : UInt8) :
    onVolume absolute ui prevVol vol = Input.volumeCommands (portMode absolute) prevVol vol := by
  cases absolute
  · rcases present with off | rfl
    · cases off
    · rfl
  · exact congrArg (fun text =>
      [MediaCommand.wpctl ["set-volume", "-l", "1.0", "@DEFAULT_AUDIO_SINK@", text]])
      (fractionText_eq vol)

/-- **A volume report** does what it does in the port. -/
theorem forwardMedia_agrees (present : absolute = true ∨ ui = true) {port : Uinput}
    (mode : port.mode = portMode absolute) (data : List UInt8) :
    ∃ after commands, port.forwardMedia data = .ok (after, commands) ∧
      forwardMedia absolute ui (mediaState port) data = .ok (mediaState after, commands) := by
  unfold forwardMedia Uinput.forwardMedia
  by_cases short : data.length < 7
  · rw [if_pos short, if_pos short]
    exact ⟨port, [], rfl, rfl⟩
  rw [if_neg short, if_neg short, Rust.index_ok (by omega) 0, Rust.index_ok (by omega) 0,
    pyIndex_getD (by omega), pyIndex_getD (by omega)]
  refine ⟨_, _, rfl, ?_⟩
  simp only [bind, Except.bind, onMute_eq present, onVolume_eq present, ← mode]
  rfl

/-- Commands that press and release declared keys only. -/
def Declared (commands : List MediaCommand) : Prop :=
  ∀ events, .emit events ∈ commands →
    ∃ key ∈ createUinputMedia, events = [.key key 1] ∨ events = [.key key 0]

theorem declared_nil : Declared [] := fun _ member => absurd member List.not_mem_nil

theorem declared_tapKey {key : Key} (declared : key ∈ createUinputMedia) :
    Declared (tapKey key) := by
  intro events member
  rcases List.mem_pair.mp member with pressed | released
  · exact ⟨key, declared, .inl (MediaCommand.emit.inj pressed)⟩
  · exact ⟨key, declared, .inr (MediaCommand.emit.inj released)⟩

theorem declared_onMute (absolute ui muted : Bool) : Declared (onMute absolute ui muted) := by
  unfold onMute
  split
  · intro events member
    cases List.mem_singleton.mp member
  · split
    · exact declared_tapKey (by decide)
    · exact declared_nil

theorem declared_onVolume (absolute ui : Bool) (prevVol vol : UInt8) :
    Declared (onVolume absolute ui prevVol vol) := by
  unfold onVolume
  dsimp only
  split
  · intro events member
    cases List.mem_singleton.mp member
  · split
    · refine declared_tapKey ?_
      split <;> decide
    · exact declared_nil

/-- **A volume report** touches declared keys only. -/
theorem forwardMedia_declared {state after : MediaState} {data : List UInt8}
    {commands : List MediaCommand}
    (returned : forwardMedia absolute ui state data = .ok (after, commands)) :
    Declared commands := by
  unfold forwardMedia at returned
  split at returned
  · cases returned
    exact declared_nil
  · obtain ⟨mute, -, returned⟩ := ok_of_bind returned
    obtain ⟨vol, -, returned⟩ := ok_of_bind returned
    cases returned
    intro events member
    rcases List.mem_append.mp member with muting | leveling
    · split at muting
      · split at muting
        · exact declared_onMute _ _ _ events muting
        · exact declared_nil events muting
      · exact declared_nil events muting
    · split at leveling
      · split at leveling
        · exact declared_onVolume _ _ _ _ events leveling
        · exact declared_nil events leveling
      · exact declared_nil events leveling

/-- After others, the state is what was heard last. -/
theorem forwardMedia_heard (present : absolute = true ∨ ui = true)
    (before : List (List UInt8)) (data : List UInt8) :
    forwardMedia absolute ui (mediaState (Input.heard (portMode absolute) before)) data =
      .ok (mediaState (Input.heard (portMode absolute) (before ++ [data])),
        Input.commandsAfter (portMode absolute) before data) := by
  obtain ⟨after, commands, port, driver⟩ :=
    @forwardMedia_agrees absolute ui present (Input.heard (portMode absolute) before) rfl data
  rw [Input.forwardMedia_heard] at port
  cases port
  exact driver

end Media

/-! ### The devices -/

/-- The events on the gamepad, the state that volume reports change, and what they did. -/
structure Devices where
  gamepad : List InputEvent
  media : MediaState
  commands : List MediaCommand

def Devices.start : Devices := ⟨[], ⟨none, none⟩, []⟩

/-- What the monitor thread calls. -/
def Devices.act (absolute ui : Bool) (devices : Devices) : Action → Except PyError Devices
  | .parseAndForwardGamepad raw => do
    let emitted ← parseAndForwardGamepad raw
    return { devices with gamepad := devices.gamepad ++ emitted.getD [] }
  | .forwardMedia raw => do
    let (media, commands) ← forwardMedia absolute ui devices.media raw
    return { devices with media, commands := devices.commands ++ commands }
  | .write _ => .ok devices

/-- The reports that are forwarded to the gamepad. -/
def padRaw : Action → Option (List UInt8)
  | .parseAndForwardGamepad raw => some raw
  | _ => none

/-- The volume reports. -/
def mediaRaw : Action → Option (List UInt8)
  | .forwardMedia raw => some raw
  | _ => none

/-- **What comes of the calls of a session.** None raises. -/
theorem act_run {absolute ui : Bool} (present : absolute = true ∨ ui = true)
    (actions : List Action) : ∀ (before : List (List UInt8)) (devices : Devices),
    devices.media = mediaState (Input.heard (portMode absolute) before) →
    ∃ last, run (Devices.act absolute ui) devices actions = .ok last ∧
      last.gamepad.map InputEvent.write =
        devices.gamepad.map InputEvent.write ++ (actions.filterMap padRaw).flatMap padWrites ∧
      last.commands = devices.commands ++
        (Input.issued (portMode absolute) before (actions.filterMap mediaRaw)).flatten := by
  induction actions with
  | nil =>
    intro before devices _
    exact ⟨devices, rfl, (List.append_nil _).symm, (List.append_nil _).symm⟩
  | cons action rest ih =>
    intro before devices heard
    cases action with
    | parseAndForwardGamepad raw =>
      obtain ⟨emitted, forwarded, writes⟩ := parseAndForwardGamepad_ok raw
      have acted : devices.act absolute ui (.parseAndForwardGamepad raw) =
          .ok { devices with gamepad := devices.gamepad ++ emitted.getD [] } := by
        rw [Devices.act, forwarded]
        rfl
      obtain ⟨last, ran, gamepad, commands⟩ := ih before
        { devices with gamepad := devices.gamepad ++ emitted.getD [] } heard
      refine ⟨last, (run_cons acted rest).trans ran, ?_, commands⟩
      rw [gamepad, List.map_append, writes, List.append_assoc]
      rfl
    | forwardMedia raw =>
      have forwarded := forwardMedia_heard present before raw
      rw [← heard] at forwarded
      have acted : devices.act absolute ui (.forwardMedia raw) = .ok
          { devices with
            media := mediaState (Input.heard (portMode absolute) (before ++ [raw]))
            commands :=
              devices.commands ++ Input.commandsAfter (portMode absolute) before raw } := by
        rw [Devices.act, forwarded]
        rfl
      obtain ⟨last, ran, gamepad, commands⟩ := ih (before ++ [raw])
        { devices with
          media := mediaState (Input.heard (portMode absolute) (before ++ [raw]))
          commands := devices.commands ++ Input.commandsAfter (portMode absolute) before raw } rfl
      refine ⟨last, (run_cons acted rest).trans ran, gamepad, ?_⟩
      rw [commands, List.append_assoc]
      rfl
    | write packet => exact ih before devices heard

/-- One call touches declared keys only. -/
theorem declared_act {absolute ui : Bool} {devices next : Devices} {action : Action}
    (declared : Declared devices.commands) (acted : devices.act absolute ui action = .ok next) :
    Declared next.commands := by
  cases action with
  | parseAndForwardGamepad raw =>
    obtain ⟨emitted, -, acted⟩ := ok_of_bind acted
    cases acted
    exact declared
  | forwardMedia raw =>
    obtain ⟨⟨media, commands⟩, forwarded, acted⟩ := ok_of_bind acted
    cases acted
    intro events member
    rcases List.mem_append.mp member with earlier | now
    · exact declared events earlier
    · exact forwardMedia_declared forwarded events now
  | write packet =>
    cases acted
    exact declared

/-- **The keyboard of a session**: declared keys only. -/
theorem run_declared {absolute ui : Bool} {actions : List Action} {last : Devices}
    (ran : run (Devices.act absolute ui) .start actions = .ok last) : Declared last.commands := by
  have kept : ∀ devices action next, Declared (Devices.commands devices) → True →
      Devices.act absolute ui devices action = .ok next → Declared next.commands :=
    fun _ _ _ declared _ acted => declared_act declared acted
  exact run_invariant kept actions .start last declared_nil
    (meets_of_forall (fun _ _ => trivial) Devices.start) ran

/-! ### Sessions -/

/-- The packet that a read returns, if it returns one. -/
def Read.packet : Read → Option (List UInt8)
  | .data raw => if raw = [] then none else some raw
  | .timeout | .usbError => none

/-- The packets that a session reads. -/
def packetsRead (reads : List Read) : List (List UInt8) := reads.filterMap Read.packet

def isInput (raw : List UInt8) : Bool := (raw.getD 0 0).toNat = gipCmdInput

/-- A volume report that is answered. -/
def isVolume (raw : List UInt8) : Bool :=
  (raw.getD 0 0).toNat = gipCmdAudioControl ∧ raw.getD 4 0xff = 0x00 ∧ 9 ≤ raw.length

/-- The thread has forwarded these packets, after what it had done. -/
structure Forwards (monitor next : Monitor) (packets : List (List UInt8)) : Prop where
  pad : next.actions.filterMap padRaw =
    monitor.actions.filterMap padRaw ++ packets.filter isInput
  media : next.actions.filterMap mediaRaw =
    monitor.actions.filterMap mediaRaw ++ packets.filter isVolume

section Sessions

variable {monitor middle next : Monitor} {raw : List UInt8}

theorem Forwards.refl (monitor : Monitor) : Forwards monitor monitor [] :=
  ⟨(List.append_nil _).symm, (List.append_nil _).symm⟩

theorem Forwards.trans {first second : List (List UInt8)} (before : Forwards monitor middle first)
    (after : Forwards middle next second) : Forwards monitor next (first ++ second) := by
  constructor
  · rw [after.pad, before.pad, List.filter_append, List.append_assoc]
  · rw [after.media, before.media, List.filter_append, List.append_assoc]

/-- Packets that are written are not forwarded. -/
theorem writeCounted_forwards {build : Nat → Except PyError (List UInt8)}
    (written : writeCounted monitor build = .ok next) : Forwards monitor next [] := by
  obtain ⟨packet, -, returned⟩ := ok_of_bind written
  cases returned
  exact ⟨by simp [Monitor.act, padRaw], by simp [Monitor.act, mediaRaw]⟩

theorem answerAck_forwards (acked : answerAck monitor raw = .ok next) :
    Forwards monitor next [] := by
  unfold answerAck at acked
  simp only at acked
  split at acked
  · obtain ⟨packet, -, returned⟩ := ok_of_bind acked
    cases returned
    exact ⟨by simp [Monitor.act, padRaw], by simp [Monitor.act, mediaRaw]⟩
  · cases acked
    exact Forwards.refl monitor

/-- A packet that is not forwarded. -/
theorem Forwards.other (answered : Forwards monitor next []) (input : isInput raw = false)
    (volume : isVolume raw = false) : Forwards monitor next [raw] := by
  constructor
  · rw [answered.pad, List.filter_cons_of_neg (by rw [input]; exact Bool.false_ne_true)]
  · rw [answered.media, List.filter_cons_of_neg (by rw [volume]; exact Bool.false_ne_true)]

theorem answerVolume_forwards (audio : (raw.getD 0 0).toNat = gipCmdAudioControl)
    (answered : answerVolume monitor raw = .ok next) : Forwards monitor next [raw] := by
  have input : isInput raw = false := decide_eq_false (by rw [audio]; decide)
  unfold answerVolume at answered
  split at answered
  · rename_i chat
    have volume : isVolume raw = true := decide_eq_true ⟨audio, chat⟩
    have written := writeCounted_forwards answered
    constructor
    · rw [written.pad, List.filter_singleton, input]
      simp [Monitor.act, padRaw]
    · rw [written.media, List.filter_singleton, volume]
      simp [Monitor.act, mediaRaw]
  · rename_i silent
    cases answered
    exact (Forwards.refl monitor).other input (decide_eq_false fun both => silent both.2)

/-- **One packet.** -/
theorem handlePacket_forwards (handled : handlePacket true monitor raw = .ok next) :
    Forwards monitor next [raw] := by
  unfold handlePacket at handled
  simp only at handled
  by_cases input : (raw.getD 0 0).toNat = gipCmdInput
  · have volume : isVolume raw = false :=
      decide_eq_false fun both => absurd (both.1.symm.trans input) (by decide)
    rw [if_pos input, if_pos trivial] at handled
    cases handled
    constructor
    · rw [List.filter_singleton, isInput, decide_eq_true input]
      simp [Monitor.act, padRaw]
    · rw [List.filter_singleton, volume]
      simp [Monitor.act, mediaRaw]
  rw [if_neg input] at handled
  by_cases status : (raw.getD 0 0).toNat = gipCmdStatus
  · rw [if_pos status] at handled
    exact (writeCounted_forwards handled).other (decide_eq_false input)
      (decide_eq_false fun both => absurd (both.1.symm.trans status) (by decide))
  rw [if_neg status] at handled
  by_cases audio : (raw.getD 0 0).toNat = gipCmdAudioControl
  · rw [if_pos audio] at handled
    obtain ⟨middle, answered, acked⟩ := ok_of_bind handled
    exact (answerVolume_forwards audio answered).trans (answerAck_forwards acked)
  · rw [if_neg audio] at handled
    cases handled
    exact (Forwards.refl monitor).other (decide_eq_false input)
      (decide_eq_false fun both => audio both.1)

/-- **A session** forwards every INPUT report and every volume report that it reads, in order. -/
theorem run_forwards (reads : List Read) : ∀ {monitor last : Monitor},
    run (monitorStep true) monitor reads = .ok last →
      Forwards monitor last (packetsRead reads) := by
  induction reads with
  | nil =>
    intro monitor last ran
    cases ran
    exact Forwards.refl monitor
  | cons read rest ih =>
    intro monitor last ran
    obtain ⟨next, stepped, ranRest⟩ := run_cons_ok ran
    have later := ih ranRest
    cases read with
    | timeout | usbError =>
      cases stepped
      exact later
    | data raw =>
      by_cases empty : raw = []
      · rw [monitorStep, if_pos empty] at stepped
        cases stepped
        rw [packetsRead,
          List.filterMap_cons_none (show Read.packet (.data raw) = none from if_pos empty)]
        exact later
      · rw [monitorStep, if_neg empty] at stepped
        rw [packetsRead,
          List.filterMap_cons_some (show Read.packet (.data raw) = some raw from if_neg empty)]
        exact (handlePacket_forwards stepped).trans later

end Sessions

/-! ### What the devices show -/

/-- **What the gamepad shows** after these packets. -/
def driverShown (packets : List (List UInt8)) (control : Control) : Int :=
  ((packets.filter isReport).getLast?.map (driverValue · control)).getD 0

section Shown

theorem nodup_filled : filled.Nodup := by decide

/-- Every control but the D-pad is filled in. -/
theorem declared_cases : ∀ control ∈ createUinputGamepad,
    control ∈ filled ∨ control = .axis .absHat0x ∨ control = .axis .absHat0y := by decide

theorem hat_not_filled {control : Control}
    (hat : control = .axis .absHat0x ∨ control = .axis .absHat0y) : control ∉ filled := by
  rcases hat with rfl | rfl <;> decide

theorem zero_admits : ∀ entry ∈ gamepadAxes, entry.2.Admits 0 := by decide

theorem byte_admits (byte : UInt8) : AbsInfo.Admits ⟨0, 0, 255, 0, 0, 0⟩ byte.toNat := by
  have below := byte.toNat_lt
  exact ⟨Int.natCast_nonneg _, show (byte.toNat : Int) ≤ 255 by omega⟩

theorem driverValue_admits (raw : List UInt8) :
    ∀ entry ∈ gamepadAxes, entry.2.Admits (driverValue raw (.axis entry.1)) := by
  have sticks := Input.signedAt_bounds raw
  have hat : AbsInfo.Admits ⟨0, -1, 1, 0, 0, 0⟩ 0 := by decide
  simp only [gamepadAxes, List.forall_mem_cons]
  exact ⟨sticks 8, sticks 10, byte_admits _, sticks 12, sticks 14, byte_admits _, hat, hat,
    List.forall_mem_nil _⟩

theorem filled_declared : ∀ control ∈ filled, control ∈ createUinputGamepad := by decide

theorem map_padWrites (raw : List UInt8) :
    (padWrites raw).map Prod.fst = if 16 ≤ raw.length then filled else [] := by
  rw [padWrites]
  split
  · rw [List.map_map]
    exact List.map_id' filled
  · rfl

/-- A long enough report sets every control that is filled in. -/
theorem sets_filled {control : Control} (covered : control ∈ filled) :
    Sets padWrites (fun raw => 16 ≤ raw.length) (driverValue · control) control := by
  constructor
  · intro raw long state
    have filledIn := of_decide_eq_true long
    apply apply_once
    · rw [map_padWrites, if_pos filledIn]
      exact nodup_filled
    · rw [padWrites, if_pos filledIn]
      exact List.mem_map.mpr ⟨control, covered, rfl⟩
  · intro raw short state
    apply apply_unwritten
    rw [map_padWrites, if_neg (of_decide_eq_false short)]
    exact List.not_mem_nil

/-- **The gamepad shows the last report.** -/
theorem apply_padWrites (packets : List (List UInt8)) {control : Control}
    (declared : control ∈ createUinputGamepad) :
    apply Input.blank ((packets.filter isInput).flatMap padWrites) control =
      driverShown packets control := by
  have reports : (packets.filter isInput).filter (fun raw => 16 ≤ raw.length) =
      packets.filter isReport := by
    rw [List.filter_filter]
    refine List.filter_congr fun raw _ => ?_
    simp [isReport, isInput, Bool.and_comm]
  rcases declared_cases control declared with covered | hat
  · rw [apply_batches (sets_filled covered), reports]
    rfl
  · have zero : driverShown packets control = 0 := by
      rw [driverShown]
      cases (packets.filter isReport).getLast? with
      | none => rfl
      | some raw => rcases hat with rfl | rfl <;> rfl
    rw [zero, apply_unwritten]
    · rfl
    · rw [List.map_flatMap, List.mem_flatMap]
      rintro ⟨raw, -, written⟩
      rw [map_padWrites] at written
      split at written
      · exact hat_not_filled hat written
      · cases written

/-- **Every value that is shown is within its declared range.** -/
theorem driverShown_admits (packets : List (List UInt8)) :
    ∀ entry ∈ gamepadAxes, entry.2.Admits (driverShown packets (.axis entry.1)) := by
  intro entry declared
  rw [driverShown]
  cases (packets.filter isReport).getLast? with
  | none => exact zero_admits entry declared
  | some raw => exact driverValue_admits raw entry declared

end Shown

/-- **The devices behind a session.** Where the thread has survived, no call into the devices has
raised, and on the gamepad and the keyboard only declared controls are written. The gamepad shows
what the last INPUT report of 16 bytes or more says in the layout of the driver, and every axis is
within its declared range, whatever the reports hold. The volume reports do what they do in the
port, where they reach its `forward_media` one after the other. -/
theorem driver_devices {absolute ui : Bool} (present : absolute = true ∨ ui = true) (seqRef : Nat)
    (reads : List Read) (last : Monitor)
    (survived : run (monitorStep true) { seqRef, actions := [] } reads = .ok last) :
    ∃ devices, run (Devices.act absolute ui) .start last.actions = .ok devices ∧
      (∀ event ∈ devices.gamepad, event.write.1 ∈ createUinputGamepad) ∧
      Declared devices.commands ∧
      (∀ control ∈ createUinputGamepad,
        apply Input.blank (devices.gamepad.map InputEvent.write) control =
          driverShown (packetsRead reads) control) ∧
      (∀ entry ∈ gamepadAxes, entry.2.Admits
        (apply Input.blank (devices.gamepad.map InputEvent.write) (.axis entry.1))) ∧
      ∃ after commands, (Uinput.create (portMode absolute)).forwardReports
        ((packetsRead reads).filter isVolume) = .ok (after, commands) ∧
          devices.commands = commands.flatten := by
  obtain ⟨pad, media⟩ := run_forwards reads survived
  obtain ⟨devices, ran, gamepad, commands⟩ := act_run present last.actions [] .start rfl
  rw [pad] at gamepad
  rw [media] at commands
  have writes : devices.gamepad.map InputEvent.write =
      ((packetsRead reads).filter isInput).flatMap padWrites := gamepad
  have shows : ∀ control ∈ createUinputGamepad,
      apply Input.blank (devices.gamepad.map InputEvent.write) control =
        driverShown (packetsRead reads) control := by
    intro control declared
    rw [writes]
    exact apply_padWrites (packetsRead reads) declared
  refine ⟨devices, ran, fun event emitted => ?_, run_declared ran, shows, fun entry declared => ?_,
    _, _, Input.forwardReports_ok (portMode absolute) ((packetsRead reads).filter isVolume),
    commands⟩
  · have written := @List.mem_map_of_mem _ _ _ _ InputEvent.write emitted
    rw [writes] at written
    obtain ⟨raw, -, here⟩ := List.mem_flatMap.mp written
    have filledIn := @List.mem_map_of_mem _ _ _ _ Prod.fst here
    rw [map_padWrites] at filledIn
    split at filledIn
    · exact filled_declared _ filledIn
    · cases filledIn
  · rw [shows _ (List.mem_append_right _ (List.mem_map.mpr ⟨entry, declared, rfl⟩))]
    exact driverShown_admits (packetsRead reads) entry declared

/-- A report with A pressed, of 16 bytes. -/
def pressedA : List UInt8 := [0x20, 0, 1, 12, 0x08, 0, 0, 0, 0, 0, 0, 0, 0, 0, 0, 0]

/-- A session of one report. -/
theorem driver_devices_pressed :
    ∃ devices, run (Devices.act true false) .start [.parseAndForwardGamepad pressedA] =
        .ok devices ∧
      apply Input.blank (devices.gamepad.map InputEvent.write) (.key .btnSouth) = 1 := by
  obtain ⟨devices, ran, -, -, shows, -⟩ := @driver_devices true false (.inl rfl) 4
    [.data pressedA] ⟨4, [.parseAndForwardGamepad pressedA]⟩ rfl
  exact ⟨devices, ran, (shows _ (by decide)).trans (by decide)⟩

end Wolverine.Python
