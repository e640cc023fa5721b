/-
**Media reports over time.**

`forward_media` compares every report with the last one it accepted, one of seven bytes or more, and
acts on changes of the mute byte and of the volume byte.

* `forwardReports_ok` — the state after a run, and the commands of each of its reports, from the
  accepted reports alone.
* `mute_channel`, `volume_channel` — the commands of either channel are those of the changes of its
  byte.
* `absolute_mirrors` — with absolute levels, the last command of a channel is the one of the last
  accepted report.
* `keys_parity` — with keys, mute taps follow the raw byte, so they are in step with the mute state
  exactly when an even number of changes are between two bytes that both mean unmuted.
-/

import Wolverine.Base.Edges
import Wolverine.Base.Machine
import Wolverine.Input.Uinput

namespace Wolverine.Input

open Wolverine.Rust Wolverine.Machine Wolverine.Edges

/-- The run of `forward_media` over a list of reports; returned are also the commands of each. -/
def Uinput.forwardReports : Uinput → List (List UInt8) →
    Except IndexPanic (Uinput × List (List MediaCommand))
  | ui, [] => .ok (ui, [])
  | ui, data :: rest => do
    let (ui, commands) ← ui.forwardMedia data
    let (ui, later) ← ui.forwardReports rest
    return (ui, commands :: later)

/-! ### Accepted reports -/

def muteByte (data : List UInt8) : UInt8 := data.getD 5 0
def volByte (data : List UInt8) : UInt8 := data.getD 6 0

/-- What the mute byte means. -/
def means (mute : UInt8) : Bool := mute = 0x05

def muted (data : List UInt8) : Bool := means (muteByte data)

/-- The reports that are long enough to be looked at. -/
def accepted (reports : List (List UInt8)) : List (List UInt8) :=
  reports.filter fun data => 7 ≤ data.length

/-- The state after a list of reports. -/
def heard (mode : MediaMode) (reports : List (List UInt8)) : Uinput where
  mode
  lastMute := ((accepted reports).map muteByte).getLast?
  lastVol := ((accepted reports).map volByte).getLast?
  lastButtons := none

/-- The commands of a report that comes after others. -/
def commandsAfter (mode : MediaMode) (before : List (List UInt8)) (data : List UInt8) :
    List MediaCommand :=
  if data.length < 7 then []
  else
    onChange ((accepted before).map muteByte).getLast? (muteByte data)
        (fun _ => muteCommands mode (muted data)) ++
      onChange ((accepted before).map volByte).getLast? (volByte data)
        (fun prev => volumeCommands mode prev (volByte data))

theorem accepted_concat (reports : List (List UInt8)) (data : List UInt8) :
    accepted (reports ++ [data]) =
      accepted reports ++ if 7 ≤ data.length then [data] else [] := by
  rw [accepted, List.filter_append, List.filter_singleton]
  by_cases long : 7 ≤ data.length
  · rw [decide_eq_true long, if_pos long]
    rfl
  · rw [decide_eq_false long, if_neg long]
    rfl

/-- **One report**, after any others. -/
theorem forwardMedia_heard (mode : MediaMode) (before : List (List UInt8)) (data : List UInt8) :
    (heard mode before).forwardMedia data =
      .ok (heard mode (before ++ [data]), commandsAfter mode before data) := by
  by_cases short : data.length < 7
  · rw [Uinput.forwardMedia, if_pos short, commandsAfter, if_pos short, heard, heard,
      accepted_concat, if_neg (Nat.not_le.mpr short), List.append_nil]
  · rw [Uinput.forwardMedia, if_neg short, commandsAfter, if_neg short,
      index_ok (by omega) 0, index_ok (by omega) 0, heard, heard, accepted_concat,
      if_pos (Nat.not_lt.mp short), List.map_append, List.map_append, List.map_singleton,
      List.map_singleton, List.getLast?_concat, List.getLast?_concat]
    rfl

/-- The commands of each report of a list that comes after others. -/
def issued (mode : MediaMode) : List (List UInt8) → List (List UInt8) → List (List MediaCommand)
  | _, [] => []
  | before, data :: rest => commandsAfter mode before data :: issued mode (before ++ [data]) rest

theorem forwardReports_heard (mode : MediaMode) (reports : List (List UInt8)) : ∀ before,
    (heard mode before).forwardReports reports =
      .ok (heard mode (before ++ reports), issued mode before reports) := by
  induction reports with
  | nil =>
    intro before
    rw [List.append_nil]
    rfl
  | cons data rest ih =>
    intro before
    rw [Uinput.forwardReports, bind_of_ok (forwardMedia_heard mode before data)]
    simp only
    rw [bind_of_ok (ih (before ++ [data])), List.append_assoc]
    rfl

/-- **A run of reports**: the state after it, and the commands of each report. -/
theorem forwardReports_ok (mode : MediaMode) (reports : List (List UInt8)) :
    (Uinput.create mode).forwardReports reports =
      .ok (heard mode reports, issued mode [] reports) :=
  forwardReports_heard mode reports []

theorem length_issued (mode : MediaMode) (reports : List (List UInt8)) : ∀ before,
    (issued mode before reports).length = reports.length := by
  induction reports with
  | nil => exact fun _ => rfl
  | cons data rest ih => exact fun before => congrArg Nat.succ (ih (before ++ [data]))

theorem getElem?_issued (mode : MediaMode) (reports : List (List UInt8)) :
    ∀ before i data, reports[i]? = some data →
      (issued mode before reports)[i]? =
        some (commandsAfter mode (before ++ reports.take i) data) := by
  induction reports with
  | nil => exact fun _ _ _ absent => by cases absent
  | cons first rest ih =>
    intro before i data there
    cases i with
    | zero =>
      cases there
      rw [List.take_zero, List.append_nil]
      rfl
    | succ i =>
      have later := ih (before ++ [first]) i data there
      rw [List.append_assoc] at later
      exact later

/-! ### Channels -/

section Channels

variable {mode : MediaMode} {byte : List UInt8 → UInt8} {keep : MediaCommand → Bool}
  {commands : UInt8 × UInt8 → List MediaCommand}

/-- **The commands of a channel.** Where the kept commands of a report are those of a change of a
byte, the kept commands of a run are those of the changes of it. -/
theorem channel_commands
    (selects : ∀ before data, 7 ≤ data.length → (commandsAfter mode before data).filter keep =
      (change ((accepted before).map byte).getLast? (byte data)).flatMap commands)
    (reports : List (List UInt8)) : ∀ before,
    (changes ((accepted (before ++ reports)).map byte)).flatMap commands =
      (changes ((accepted before).map byte)).flatMap commands ++
        (issued mode before reports).flatten.filter keep := by
  induction reports with
  | nil =>
    intro before
    rw [List.append_nil]
    exact (List.append_nil _).symm
  | cons data rest ih =>
    intro before
    have step : (changes ((accepted (before ++ [data])).map byte)).flatMap commands =
        (changes ((accepted before).map byte)).flatMap commands ++
          (commandsAfter mode before data).filter keep := by
      rw [accepted_concat]
      by_cases long : 7 ≤ data.length
      · rw [if_pos long, List.map_append, List.map_singleton, changes_concat, List.flatMap_append,
          selects before data long]
      · rw [if_neg long, List.append_nil, commandsAfter, if_pos (Nat.not_le.mp long)]
        exact (List.append_nil _).symm
    rw [issued, List.flatten_cons, List.filter_append, ← List.append_assoc, ← step, ← ih,
      List.append_assoc, List.singleton_append]

end Channels

/-- A command of the mute channel: for the source, or a press or release of the mute key. -/
def MediaCommand.isMute : MediaCommand → Bool
  | .wpctl args => args.head? = some "set-mute"
  | .emit events => events = [.key .keyMicmute 1] ∨ events = [.key .keyMicmute 0]

/-- The commands of a change of the mute byte. -/
def onMute (mode : MediaMode) (pair : UInt8 × UInt8) : List MediaCommand :=
  muteCommands mode (means pair.2)

/-- The commands of a change of the volume byte. -/
def onVolume (mode : MediaMode) (pair : UInt8 × UInt8) : List MediaCommand :=
  volumeCommands mode pair.1 pair.2

theorem isMute_muteCommands {mode : MediaMode} {muted : Bool} :
    ∀ command ∈ muteCommands mode muted, command.isMute = true := by
  cases mode <;> cases muted <;> decide

theorem isMute_volumeCommands {mode : MediaMode} {prev vol : UInt8} :
    ∀ command ∈ volumeCommands mode prev vol, command.isMute = false := by
  cases mode with
  | absolute =>
    intro command member
    rw [List.mem_singleton.mp member]
    rfl
  | keys =>
    intro command member
    have taps : ∀ key ∈ [Key.keyVolumeup, Key.keyVolumedown], ∀ command ∈ tapKey key,
        command.isMute = false := by decide
    refine taps (if vol > prev then .keyVolumeup else .keyVolumedown) ?_ command member
    split <;> decide

theorem onChange_eq {last : Option UInt8} {value : UInt8} {own : UInt8 → List MediaCommand}
    {commands : UInt8 × UInt8 → List MediaCommand}
    (same : ∀ prev, own prev = commands (prev, value)) :
    onChange last value own = (change last value).flatMap commands := by
  cases last with
  | none => rfl
  | some prev =>
    by_cases differ : value ≠ prev
    · rw [onChange, change, if_pos differ, if_pos differ, List.flatMap_singleton, same]
    · rw [onChange, change, if_neg differ, if_neg differ]
      rfl

/-- The commands of a report, channel by channel. -/
theorem commandsAfter_channels (mode : MediaMode) (before : List (List UInt8)) {data : List UInt8}
    (long : 7 ≤ data.length) : commandsAfter mode before data =
      (change ((accepted before).map muteByte).getLast? (muteByte data)).flatMap (onMute mode) ++
      (change ((accepted before).map volByte).getLast? (volByte data)).flatMap (onVolume mode) := by
  rw [commandsAfter, if_neg (Nat.not_lt.mpr long)]
  exact congrArg₂ _ (onChange_eq fun _ => rfl) (onChange_eq fun _ => rfl)

/-- Commands that are all kept. -/
theorem filter_kept {keep : MediaCommand → Bool} {commands : UInt8 × UInt8 → List MediaCommand}
    (kept : ∀ pair, ∀ command ∈ commands pair, keep command = true)
    (pairs : List (UInt8 × UInt8)) :
    (pairs.flatMap commands).filter keep = pairs.flatMap commands := by
  refine List.filter_eq_self.mpr fun command member => ?_
  obtain ⟨pair, -, caused⟩ := List.mem_flatMap.mp member
  exact kept pair command caused

/-- Commands of which none is kept. -/
theorem filter_dropped {keep : MediaCommand → Bool} {commands : UInt8 × UInt8 → List MediaCommand}
    (dropped : ∀ pair, ∀ command ∈ commands pair, keep command = false)
    (pairs : List (UInt8 × UInt8)) : (pairs.flatMap commands).filter keep = [] := by
  refine List.filter_eq_nil_iff.mpr fun command member => ?_
  obtain ⟨pair, -, caused⟩ := List.mem_flatMap.mp member
  rw [dropped pair command caused]
  exact Bool.false_ne_true

/-- The mute channel of a run. -/
theorem mute_channel (mode : MediaMode) (reports : List (List UInt8)) :
    (issued mode [] reports).flatten.filter MediaCommand.isMute =
      (changes ((accepted reports).map muteByte)).flatMap (onMute mode) := by
  refine (channel_commands (fun before data long => ?_) reports []).symm
  rw [commandsAfter_channels mode before long, List.filter_append, filter_kept, filter_dropped,
    List.append_nil]
  · exact fun pair => isMute_volumeCommands
  · exact fun pair => isMute_muteCommands

/-- The volume channel of a run. -/
theorem volume_channel (mode : MediaMode) (reports : List (List UInt8)) :
    (issued mode [] reports).flatten.filter (fun command => !command.isMute) =
      (changes ((accepted reports).map volByte)).flatMap (onVolume mode) := by
  refine (channel_commands (fun before data long => ?_) reports []).symm
  rw [commandsAfter_channels mode before long, List.filter_append, filter_dropped, filter_kept,
    List.nil_append]
  · intro pair command caused
    rw [isMute_volumeCommands command caused]
    rfl
  · intro pair command caused
    rw [isMute_muteCommands command caused]
    rfl

/-! ### Absolute levels -/

def setMute (muted : Bool) : MediaCommand :=
  .wpctl ["set-mute", "@DEFAULT_AUDIO_SOURCE@", if muted then "1" else "0"]

/-- The text of a level, a percentage: its three digits, with a point behind the first. -/
def levelText (vol : UInt8) : String :=
  .ofList [Nat.digitChar (vol.toNat / 100), '.', Nat.digitChar (vol.toNat / 10 % 10),
    Nat.digitChar (vol.toNat % 10)]

example : levelText 0 = "0.00" ∧ levelText 7 = "0.07" ∧ levelText 100 = "1.00" := by decide

/-- The percentage that a text names. -/
def levelOf (text : String) : Nat := Nat.ofDigitChars 10 (text.toList.filter Char.isDigit) 0

def setVolume (vol : UInt8) : MediaCommand :=
  .wpctl ["set-volume", "-l", "1.0", "@DEFAULT_AUDIO_SINK@", levelText vol]

/-- A text names its level. -/
theorem levelOf_levelText (vol : UInt8) : levelOf (levelText vol) = vol.toNat := by
  have below : vol.toNat < 256 := vol.toNat_lt
  have digits : (levelText vol).toList.filter Char.isDigit =
      [Nat.digitChar (vol.toNat / 100), Nat.digitChar (vol.toNat / 10 % 10),
        Nat.digitChar (vol.toNat % 10)] := by
    have units : vol.toNat / 100 < 10 := by omega
    have tenths : vol.toNat / 10 % 10 < 10 := by omega
    have last : vol.toNat % 10 < 10 := by omega
    simp [levelText, Nat.isDigit_digitChar, units, tenths, last]
  rw [levelOf, digits, Nat.ofDigitChars_cons_digitChar_of_lt_ten (by omega),
    Nat.ofDigitChars_cons_digitChar_of_lt_ten (by omega),
    Nat.ofDigitChars_cons_digitChar_of_lt_ten (by omega), Nat.ofDigitChars_nil]
  omega

/-- **Different levels have different commands.** -/
theorem setVolume_injective : Function.Injective setVolume := by
  intro first second same
  have texts : levelText first = levelText second := by
    injection same with same
    simpa using same
  apply UInt8.toNat_inj.mp
  rw [← levelOf_levelText, texts, levelOf_levelText]

theorem toString_digit {digit : Nat} (small : digit < 10) :
    toString digit = .ofList [Nat.digitChar digit] := by
  interval_cases digit <;> rfl

/-- **The code formats a level as its digits.** -/
theorem volumeText_eq (vol : UInt8) : volumeText vol = levelText vol := by
  have below : vol.toNat < 256 := vol.toNat_lt
  have tenths : vol.toNat % 100 / 10 = vol.toNat / 10 % 10 := by omega
  have last : vol.toNat % 100 % 10 = vol.toNat % 10 := by omega
  simp only [volumeText, tenths, last]
  rw [toString_digit (by omega), toString_digit (by omega), toString_digit (by omega),
    ← String.toList_inj]
  simp [levelText]

/-- A change of the level, in this mode. -/
theorem onVolume_absolute :
    onVolume .absolute = fun pair : UInt8 × UInt8 => [setVolume pair.2] := by
  funext pair
  rw [onVolume, volumeCommands, volumeText_eq]
  rfl

/-- What a report does, by the last accepted report before it. -/
def absoluteCommands (before : List (List UInt8)) (data : List UInt8) : List MediaCommand :=
  match (accepted before).getLast? with
  | none => []
  | some prev =>
    if data.length < 7 then []
    else
      (if muteByte data ≠ muteByte prev then [setMute (muted data)] else []) ++
        if volByte data ≠ volByte prev then [setVolume (volByte data)] else []

theorem commandsAfter_absolute (before : List (List UInt8)) (data : List UInt8) :
    commandsAfter .absolute before data = absoluteCommands before data := by
  unfold commandsAfter absoluteCommands
  rw [List.getLast?_map, List.getLast?_map]
  cases (accepted before).getLast? with
  | none =>
    split <;> rfl
  | some prev =>
    have level : ∀ old, volumeCommands .absolute old (volByte data) = [setVolume (volByte data)] :=
      fun old => congrFun onVolume_absolute (old, volByte data)
    simp only [Option.map_some, level]
    rfl

/-- What a channel comes to: its last command is the one of the last accepted report, and without
commands all accepted reports carry the same byte. -/
structure Follows (byte : List UInt8 → UInt8) (command : UInt8 → MediaCommand)
    (reports : List (List UInt8)) (channel : List MediaCommand) : Prop where
  last : ∀ issued, channel.getLast? = some issued →
    ∃ data, (accepted reports).getLast? = some data ∧ issued = command (byte data)
  none : channel = [] → ∀ first ∈ accepted reports, ∀ second ∈ accepted reports,
    byte first = byte second

theorem follows_changes (byte : List UInt8 → UInt8) (command : UInt8 → MediaCommand)
    (reports : List (List UInt8)) : Follows byte command reports
      ((changes ((accepted reports).map byte)).flatMap fun pair => [command pair.2]) := by
  rw [← List.map_eq_flatMap]
  refine ⟨fun issued last => ?_, fun none first member second there => ?_⟩
  · rw [List.getLast?_map] at last
    obtain ⟨pair, latest, rfl⟩ := Option.map_eq_some_iff.mp last
    have final := last_change _ latest
    rw [List.getLast?_map] at final
    obtain ⟨data, accepted, same⟩ := Option.map_eq_some_iff.mp final
    exact ⟨data, accepted, congrArg command same.symm⟩
  · exact (changes_eq_nil _).mp (List.map_eq_nil_iff.mp none) _ (List.mem_map_of_mem member) _
      (List.mem_map_of_mem there)

/-- **Absolute levels mirror the controller.** Reports below seven bytes issue nothing and leave
the state as it is. In a run from the initial state, the first other report issues nothing, and each
later one a set-mute (set-volume) exactly when its mute (volume) byte is not that of the last
accepted report before it. The last set-mute (set-volume) is the one of the last accepted report,
and without one all accepted reports carry the same byte. The text of a set-volume names its level,
so different levels have different commands. -/
theorem absolute_mirrors (reports : List (List UInt8)) :
    (∀ (ui : Uinput) (data : List UInt8), data.length < 7 →
      ui.forwardMedia data = .ok (ui, [])) ∧
    ∃ ui outputs, (Uinput.create .absolute).forwardReports reports = .ok (ui, outputs) ∧
      outputs.length = reports.length ∧
      (∀ i data, reports[i]? = some data →
        outputs[i]? = some (absoluteCommands (reports.take i) data)) ∧
      Follows muteByte (fun mute => setMute (means mute)) reports
        (outputs.flatten.filter MediaCommand.isMute) ∧
      Follows volByte setVolume reports
        (outputs.flatten.filter fun command => !command.isMute) ∧
      (∀ vol, levelOf (levelText vol) = vol.toNat) ∧ Function.Injective setVolume := by
  refine ⟨fun ui data short => if_pos short, heard .absolute reports, issued .absolute [] reports,
    forwardReports_ok .absolute reports, length_issued .absolute reports [],
    fun i data there => ?_, ?_, ?_, levelOf_levelText, setVolume_injective⟩
  · rw [← commandsAfter_absolute]
    exact getElem?_issued .absolute reports [] i data there
  · rw [mute_channel]
    exact follows_changes muteByte (fun mute => setMute (means mute)) reports
  · rw [volume_channel, onVolume_absolute]
    exact follows_changes volByte setVolume reports

/-! ### Media keys -/

/-- The taps of the mute key: its presses. -/
def muteTaps (commands : List MediaCommand) : Nat := commands.count (.emit [.key .keyMicmute 1])

theorem muteTaps_isMute (commands : List MediaCommand) :
    muteTaps (commands.filter MediaCommand.isMute) = muteTaps commands := List.count_filter rfl

/-- Every change of the mute byte is one tap. -/
theorem muteTaps_changes (pairs : List (UInt8 × UInt8)) :
    muteTaps (pairs.flatMap (onMute .keys)) = pairs.length := by
  induction pairs with
  | nil => rfl
  | cons pair rest ih =>
    have tapped : muteTaps (onMute .keys pair) = 1 := rfl
    rw [List.flatMap_cons, muteTaps, List.count_append]
    show muteTaps (onMute .keys pair) + muteTaps (rest.flatMap (onMute .keys)) = _
    rw [tapped, ih, List.length_cons, Nat.add_comm]

/-- **Keys keep mute parity exactly when the quiet changes are even in number.** In a run of
reports of seven bytes or more from the initial state, the number of mute taps is odd exactly when
the first and the last report differ in their mute state if and only if an even number of changes of
the mute byte leave the mute state alone: changes from one byte to another with neither at 0x05. -/
theorem keys_parity (reports : List (List UInt8)) (long : ∀ data ∈ reports, 7 ≤ data.length) :
    ∃ ui outputs, (Uinput.create .keys).forwardReports reports = .ok (ui, outputs) ∧
      ((Odd (muteTaps outputs.flatten) ↔ reports.head?.map muted ≠ reports.getLast?.map muted) ↔
        Even (quiet means (reports.map muteByte))) := by
  refine ⟨heard .keys reports, issued .keys [] reports, forwardReports_ok .keys reports, ?_⟩
  have all : accepted reports = reports :=
    List.filter_eq_self.mpr fun data member => decide_eq_true (long data member)
  have parity := odd_changes means (reports.map muteByte)
  rw [List.head?_map, List.getLast?_map, Option.map_map, Option.map_map] at parity
  rw [← muteTaps_isMute, mute_channel, all, muteTaps_changes]
  exact parity

/-- From muted to unmuted and back. -/
def muteAndBack : List (List UInt8) :=
  [[0x08, 0x20, 0x01, 0x09, 0x00, 0x04, 0x32], [0x08, 0x20, 0x02, 0x09, 0x00, 0x05, 0x32],
    [0x08, 0x20, 0x03, 0x09, 0x00, 0x04, 0x32]]

theorem keys_parity_muteAndBack :
    (∀ data ∈ muteAndBack, 7 ≤ data.length) ∧ ∃ ui outputs,
      (Uinput.create .keys).forwardReports muteAndBack = .ok (ui, outputs) ∧
      ((Odd (muteTaps outputs.flatten) ↔
          muteAndBack.head?.map muted ≠ muteAndBack.getLast?.map muted) ↔
        Even (quiet means (muteAndBack.map muteByte))) :=
  ⟨by decide, keys_parity muteAndBack (by decide)⟩

/-- Two reports that both mean unmuted, with different bytes. -/
def twiceUnmuted : List (List UInt8) :=
  [[0x08, 0x20, 0x01, 0x09, 0x00, 0x04, 0x32], [0x08, 0x20, 0x02, 0x09, 0x00, 0x06, 0x32]]

/-- A tap between two reports that mean the same. -/
theorem not_keys_parity : ¬ ∀ reports : List (List UInt8), (∀ data ∈ reports, 7 ≤ data.length) →
    ∀ ui outputs, (Uinput.create .keys).forwardReports reports = .ok (ui, outputs) →
      (Odd (muteTaps outputs.flatten) ↔
        reports.head?.map muted ≠ reports.getLast?.map muted) := by
  intro all
  have toggled := all twiceUnmuted (by decide) _ _ (forwardReports_ok .keys twiceUnmuted)
  exact absurd (toggled.mp (by decide)) (by decide)

end Wolverine.Input
