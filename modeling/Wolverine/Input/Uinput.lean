/-
**The input devices of `input.rs`: gamepad reports and media buttons.**

Each `forward_*` function turns a received packet into what it emits on a virtual device or hands to
`wpctl`, and into the state it compares the next report with. Indexing is checked; each function
looks at the length first, and never indexes past the packet (`forwardGamepad_ok`,
`forwardMedia_ok`).
-/

import Wolverine.Rust.Slice

namespace Wolverine.Input

open Wolverine.Rust

/-! ### Events -/

/-- How media buttons are surfaced. -/
inductive MediaMode
  | absolute
  | keys
  deriving DecidableEq, Repr

inductive Key
  | btnStart
  | btnSelect
  | btnSouth
  | btnEast
  | btnWest
  | btnNorth
  | btnTl
  | btnTr
  | btnThumbl
  | btnThumbr
  | btnMode
  | keyVolumeup
  | keyVolumedown
  | keyMicmute
  deriving DecidableEq, Repr

inductive AbsoluteAxis
  | absX
  | absY
  | absZ
  | absRx
  | absRy
  | absRz
  | absHat0x
  | absHat0y
  deriving DecidableEq, Repr

inductive InputEvent
  | key (key : Key) (value : Int)
  | absolute (axis : AbsoluteAxis) (value : Int)
  deriving DecidableEq, Repr

/-- What `forward_media` does: a `wpctl` command, or a batch of events on the keyboard. -/
inductive MediaCommand
  | wpctl (args : List String)
  | emit (events : List InputEvent)
  deriving DecidableEq, Repr

/-- Gamepad buttons in report-bit order. -/
def btnMap : List (UInt16 × Key) :=
  [(0x0004, .btnStart), (0x0008, .btnSelect), (0x0010, .btnSouth), (0x0020, .btnEast),
    (0x0040, .btnWest), (0x0080, .btnNorth), (0x1000, .btnTl), (0x2000, .btnTr),
    (0x4000, .btnThumbl), (0x8000, .btnThumbr)]

-- D-pad bit masks.
def dpadUp : UInt16 := 0x0100
def dpadDown : UInt16 := 0x0200
def dpadLeft : UInt16 := 0x0400
def dpadRight : UInt16 := 0x0800

/-- The state that reports are compared with. -/
structure Uinput where
  mode : MediaMode
  lastMute : Option UInt8
  lastVol : Option UInt8
  lastButtons : Option UInt16
  deriving DecidableEq, Repr

/-- The state that `create` builds. -/
def Uinput.create (mode : MediaMode) : Uinput where
  mode
  lastMute := none
  lastVol := none
  lastButtons := none

/-! ### Gamepad reports -/

/-- `u16::from_le_bytes([p[i], p[i + 1]])`. -/
def readU16 (p : List UInt8) (i : Nat) : Except IndexPanic UInt16 := do
  let low ← index p i
  let high ← index p (i + 1)
  return low.toUInt16 ||| high.toUInt16 <<< 8

/-- `i16::from_le_bytes([p[i], p[i + 1]])`. -/
def readI16 (p : List UInt8) (i : Nat) : Except IndexPanic Int16 := do
  let bits ← readU16 p i
  return bits.toInt16

def hatX (buttons : UInt16) : Int :=
  if buttons &&& dpadLeft ≠ 0 then -1 else if buttons &&& dpadRight ≠ 0 then 1 else 0

def hatY (buttons : UInt16) : Int :=
  if buttons &&& dpadUp ≠ 0 then -1 else if buttons &&& dpadDown ≠ 0 then 1 else 0

/-- The events of a report, in the order they are emitted. -/
def gamepadEvents (buttons : UInt16) (lx ly lt rx ry rt : Int) : List InputEvent :=
  btnMap.map (fun entry => .key entry.2 (if buttons &&& entry.1 ≠ 0 then 1 else 0)) ++
    [.absolute .absX lx, .absolute .absY ly, .absolute .absZ lt, .absolute .absRx rx,
      .absolute .absRy ry, .absolute .absRz rt, .absolute .absHat0x (hatX buttons),
      .absolute .absHat0y (hatY buttons)]

/-- Translate a GIP INPUT report; returned is also what is emitted on the gamepad, if anything. The
payload is `data[4..18]`. -/
def Uinput.forwardGamepad (ui : Uinput) (data : List UInt8) :
    Except IndexPanic (Uinput × Option (List InputEvent)) :=
  if data.length < 18 then .ok (ui, none)
  else do
    let p ← sliceFrom data 4
    let buttons ← readU16 p 0
    let lt ← readU16 p 2
    let rt ← readU16 p 4
    let lx ← readI16 p 6
    let ly ← readI16 p 8
    let rx ← readI16 p 10
    let ry ← readI16 p 12
    -- Xbox reports Y up-positive; evdev wants up-negative
    return ({ ui with lastButtons := some buttons },
      some (gamepadEvents buttons lx.toInt (~~~ly).toInt lt.toNat rx.toInt (~~~ry).toInt rt.toNat))

/-- The Guide button. -/
def forwardGuide (pressed : Bool) : List InputEvent := [.key .btnMode (if pressed then 1 else 0)]

theorem readU16_ok {p : List UInt8} {i : Nat} (inside : i + 1 < p.length) :
    readU16 p i = .ok ((p.getD i 0).toUInt16 ||| (p.getD (i + 1) 0).toUInt16 <<< 8) := by
  rw [readU16, index_ok (Nat.lt_of_succ_lt inside) 0, index_ok inside 0]
  rfl

theorem readI16_ok {p : List UInt8} {i : Nat} (inside : i + 1 < p.length) :
    readI16 p i = .ok ((p.getD i 0).toUInt16 ||| (p.getD (i + 1) 0).toUInt16 <<< 8).toInt16 := by
  rw [readI16, readU16_ok inside]
  rfl

/-- **A gamepad report of any length is handled** without an access past its end. -/
theorem forwardGamepad_ok (ui : Uinput) (data : List UInt8) :
    ∃ result, ui.forwardGamepad data = .ok result := by
  unfold Uinput.forwardGamepad
  by_cases short : data.length < 18
  · exact ⟨_, if_pos short⟩
  · have long : 14 ≤ (data.drop 4).length := by
      rw [List.length_drop]
      omega
    rw [if_neg short, sliceFrom_ok (by omega)]
    simp only [bind, Except.bind]
    rw [readU16_ok (by omega), readU16_ok (by omega), readU16_ok (by omega), readI16_ok (by omega),
      readI16_ok (by omega), readI16_ok (by omega), readI16_ok (by omega)]
    exact ⟨_, rfl⟩

/-! ### Media buttons -/

/-- `format!("{:.2}", vol as f32 / 100.0)`. -/
def volumeText (vol : UInt8) : String :=
  let hundredths := vol.toNat % 100
  toString (vol.toNat / 100) ++ "." ++ toString (hundredths / 10) ++ toString (hundredths % 10)

/-- Press and release a key. -/
def tapKey (key : Key) : List MediaCommand := [.emit [.key key 1], .emit [.key key 0]]

/-- What a change of the mute state does. -/
def muteCommands (mode : MediaMode) (muted : Bool) : List MediaCommand :=
  match mode with
  | .absolute => [.wpctl ["set-mute", "@DEFAULT_AUDIO_SOURCE@", if muted then "1" else "0"]]
  | .keys => tapKey .keyMicmute

/-- What a change of the volume does. -/
def volumeCommands (mode : MediaMode) (prev vol : UInt8) : List MediaCommand :=
  match mode with
  | .absolute => [.wpctl ["set-volume", "-l", "1.0", "@DEFAULT_AUDIO_SINK@", volumeText vol]]
  | .keys => tapKey (if vol > prev then .keyVolumeup else .keyVolumedown)

/-- The commands of a report, given the last one. -/
def onChange (last : Option UInt8) (value : UInt8) (commands : UInt8 → List MediaCommand) :
    List MediaCommand :=
  match last with
  | some prev => if value ≠ prev then commands prev else []
  | none => []

/-- Handle a report of the media buttons; returned are also the commands it issues. It acts on
changes only. -/
def Uinput.forwardMedia (ui : Uinput) (data : List UInt8) :
    Except IndexPanic (Uinput × List MediaCommand) :=
  if data.length < 7 then .ok (ui, [])
  else do
    let mute ← index data 5
    let vol ← index data 6
    let muted := mute = 0x05
    let muting := onChange ui.lastMute mute fun _ => muteCommands ui.mode muted
    let leveling := onChange ui.lastVol vol fun prev => volumeCommands ui.mode prev vol
    return ({ ui with lastMute := some mute, lastVol := some vol }, muting ++ leveling)

/-- **A media report of any length is handled** without an access past its end. -/
theorem forwardMedia_ok (ui : Uinput) (data : List UInt8) :
    ∃ result, ui.forwardMedia data = .ok result := by
  unfold Uinput.forwardMedia
  by_cases short : data.length < 7
  · exact ⟨_, if_pos short⟩
  · rw [if_neg short, index_ok (by omega) 0, index_ok (by omega) 0]
    exact ⟨_, rfl⟩

end Wolverine.Input
