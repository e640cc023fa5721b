/-
**The fields of a received packet, by fixed offsets and by the decoder.**

The event loop reads byte `i` of a payload at `raw[4 + i]`, and guards the access by the size of the
packet alone. `decode` finds the payload behind a header of any length, and cuts it to the declared
length.

* `payloadReads` — the indices of the payload that the loop acts on; `handle_congr`: beside these
  bytes it depends on the first three and the size of the packet only.
* `fields_decoded` — every byte it acts on is a payload byte exactly when none is, or when the
  header has four bytes and the declared length covers them.
-/

import Wolverine.Base.Machine
import Wolverine.Gip.Decode
import Wolverine.Input.Gamepad
import Wolverine.Usb.Robust

namespace Wolverine.Usb

open Wolverine.Rust Wolverine.Gip Wolverine.Input

/-- The indices of the payload that the loop acts on, read at `raw[4 + i]`: the report of the
gamepad, the guide bit, the status value, or the subcommand and the media bytes. -/
def payloadReads (raw : List UInt8) : List Nat :=
  let cmd := raw.getD 0 0
  if cmd = Cmd.input then if 18 ≤ raw.length then List.range 14 else []
  else if cmd = Cmd.virtualKey ∨ cmd = Cmd.status then if 5 ≤ raw.length then [0] else []
  else if cmd = Cmd.audioControl then
    if raw.getD 4 0xff = audioCtrlVolumeChat ∧ 9 ≤ raw.length then [0, 1, 2]
    else if 5 ≤ raw.length then [0] else []
  else []

/-! ### What the loop depends on -/

/-- The effect without the packet it was called with. -/
def Effect.outcome : Effect → Effect
  | .forwardGamepad _ emitted => .forwardGamepad [] emitted
  | .forwardMedia _ commands => .forwardMedia [] commands
  | effect => effect

/-- What comes of a packet. -/
def outcome (result : Except IndexPanic (Monitor × List Effect)) :
    Except IndexPanic (Monitor × List Effect) :=
  result.map fun handled => (handled.1, handled.2.map Effect.outcome)

/-- Two packets of one size that agree in the first three bytes and in the bytes that are read. -/
structure Agree (raw other : List UInt8) : Prop where
  length : raw.length = other.length
  head : ∀ i < 3, raw[i]? = other[i]?
  fields : ∀ i ∈ payloadReads raw, raw[4 + i]? = other[4 + i]?

namespace Agree

variable {raw other : List UInt8}

theorem getD_head (agree : Agree raw other) {i : Nat} (first : i < 3) (default : UInt8) :
    raw.getD i default = other.getD i default := by
  rw [List.getD_eq_getElem?_getD, List.getD_eq_getElem?_getD, agree.head i first]

theorem getD_field (agree : Agree raw other) {i : Nat} (read : i ∈ payloadReads raw)
    (default : UInt8) : raw.getD (4 + i) default = other.getD (4 + i) default := by
  rw [List.getD_eq_getElem?_getD, List.getD_eq_getElem?_getD, agree.fields i read]

/-- The first byte of the payload, where it is read if there is one. -/
theorem getD_first (agree : Agree raw other) (read : 5 ≤ raw.length → 0 ∈ payloadReads raw)
    (default : UInt8) : raw.getD 4 default = other.getD 4 default := by
  by_cases long : 5 ≤ raw.length
  · exact agree.getD_field (read long) default
  · rw [List.getD_eq_default _ _ (by omega), List.getD_eq_default _ _ (by
      rw [← agree.length]
      omega)]

end Agree

/-- The gamepad depends on the 14 bytes of the report. -/
theorem forwardGamepad_congr (ui : Uinput) {raw other : List UInt8}
    (length : raw.length = other.length)
    (report : 18 ≤ raw.length → ∀ i < 14, raw[4 + i]? = other[4 + i]?) :
    ui.forwardGamepad raw = ui.forwardGamepad other := by
  by_cases short : raw.length < 18
  · rw [Uinput.forwardGamepad, if_pos short, Uinput.forwardGamepad, if_pos (length ▸ short)]
  · have long := Nat.not_lt.mp short
    have word : ∀ i, i + 1 < 14 → payloadWord raw i = payloadWord other i := by
      intro i inside
      have low := report long i (by omega)
      have high := report long (i + 1) inside
      rw [payloadWord, payloadWord]
      simp only [List.getD_eq_getElem?_getD, List.getElem?_drop, low, high]
    rw [forwardGamepad_long ui long, forwardGamepad_long ui (length ▸ long), word 0 (by decide),
      word 2 (by decide), word 4 (by decide), word 6 (by decide), word 8 (by decide),
      word 10 (by decide), word 12 (by decide)]

/-- The media keys depend on bytes 5 and 6. -/
theorem forwardMedia_congr (ui : Uinput) {raw other : List UInt8}
    (length : raw.length = other.length) (mute : raw[5]? = other[5]?)
    (vol : raw[6]? = other[6]?) : ui.forwardMedia raw = ui.forwardMedia other := by
  by_cases short : raw.length < 7
  · rw [Uinput.forwardMedia, if_pos short, Uinput.forwardMedia, if_pos (length ▸ short)]
  · rw [Uinput.forwardMedia, if_neg short, Uinput.forwardMedia, if_neg (length ▸ short),
      index_ok (by omega) 0, index_ok (by omega) 0, index_ok (by omega) 0, index_ok (by omega) 0]
    simp only [List.getD_eq_getElem?_getD, mute, vol]

theorem mem_reads_input {raw : List UInt8} (input : raw.getD 0 0 = Cmd.input)
    (long : 18 ≤ raw.length) {i : Nat} (inside : i < 14) : i ∈ payloadReads raw := by
  rw [payloadReads, if_pos input, if_pos long]
  exact List.mem_range.mpr inside

theorem mem_reads_first {raw : List UInt8} (guideOrStatus : raw.getD 0 0 = Cmd.virtualKey ∨
    raw.getD 0 0 = Cmd.status) (long : 5 ≤ raw.length) : 0 ∈ payloadReads raw := by
  have other : raw.getD 0 0 ≠ Cmd.input := by
    rcases guideOrStatus with same | same <;> rw [same] <;> decide
  rw [payloadReads, if_neg other, if_pos guideOrStatus, if_pos long]
  exact List.mem_singleton.mpr rfl

theorem reads_audio {raw : List UInt8} (audio : raw.getD 0 0 = Cmd.audioControl) :
    payloadReads raw =
      if raw.getD 4 0xff = audioCtrlVolumeChat ∧ 9 ≤ raw.length then [0, 1, 2]
      else if 5 ≤ raw.length then [0] else [] := by
  rw [payloadReads, if_neg (by rw [audio]; decide), if_neg (by rw [audio]; decide), if_pos audio]

theorem mem_reads_sub {raw : List UInt8} (audio : raw.getD 0 0 = Cmd.audioControl)
    (long : 5 ≤ raw.length) : 0 ∈ payloadReads raw := by
  rw [reads_audio audio, if_pos long]
  split <;> decide

/-- The volume reply and the media keys. -/
theorem handleVolumeChat_congr (monitor : Monitor) {raw other : List UInt8}
    (agree : Agree raw other) (audio : raw.getD 0 0 = Cmd.audioControl) :
    outcome (handleVolumeChat monitor raw) = outcome (handleVolumeChat monitor other) := by
  have sub := agree.getD_first (mem_reads_sub audio) 0xff
  by_cases chat : raw.getD 4 0xff = audioCtrlVolumeChat ∧ 9 ≤ raw.length
  · have reads : payloadReads raw = [0, 1, 2] := (reads_audio audio).trans (if_pos chat)
    have mute : raw[5]? = other[5]? := agree.fields 1 (by rw [reads]; decide)
    have vol : raw[6]? = other[6]? := agree.fields 2 (by rw [reads]; decide)
    have state : raw.getD 5 0 = other.getD 5 0 := by
      rw [List.getD_eq_getElem?_getD, List.getD_eq_getElem?_getD, mute]
    have long := chat.2
    have forwarded := forwardMedia_congr monitor.ui agree.length mute vol
    rw [handleVolumeChat, if_pos chat, handleVolumeChat, if_pos (by rwa [← sub, ← agree.length]),
      index_ok (by omega) 0, index_ok (by rw [← agree.length]; omega) 0, ← forwarded, state]
    cases monitor.ui.forwardMedia raw <;> rfl
  · rw [handleVolumeChat, if_neg chat, handleVolumeChat, if_neg (by rwa [← sub, ← agree.length])]

theorem handleAudioControl_congr (monitor : Monitor) (cmd opts seq : UInt8)
    {raw other : List UInt8} (agree : Agree raw other)
    (audio : raw.getD 0 0 = Cmd.audioControl) :
    outcome (handleAudioControl monitor cmd opts seq raw) =
      outcome (handleAudioControl monitor cmd opts seq other) := by
  have replied := handleVolumeChat_congr monitor agree audio
  rw [handleAudioControl, handleAudioControl]
  generalize handleVolumeChat monitor raw = first at replied ⊢
  generalize handleVolumeChat monitor other = second at replied ⊢
  rcases first with panic | ⟨after, volume⟩ <;> rcases second with panic' | ⟨after', volume'⟩
  · exact replied
  · cases replied
  · cases replied
  · obtain ⟨same, volumes⟩ := Prod.mk.inj (Except.ok.inj replied)
    simp only at same volumes
    rw [same]
    simp only [outcome, bind, Except.bind, pure, Except.pure, Except.map, List.map_append, volumes]

/-- **What the loop depends on.** Packets of one size that agree in the first three bytes and in the
payload bytes that are read have the same effects. -/
theorem handle_congr (monitor : Monitor) {raw other : List UInt8} (agree : Agree raw other)
    (nonempty : raw ≠ []) : outcome (handle monitor raw) = outcome (handle monitor other) := by
  have some : 0 < raw.length := List.length_pos_iff.mpr nonempty
  have cmd := agree.getD_head (show 0 < 3 by decide) 0
  rw [handle, handle, index_ok some 0, index_ok (agree.length ▸ some) 0, ← cmd,
    ← agree.getD_head (show 1 < 3 by decide) 0, ← agree.getD_head (show 2 < 3 by decide) 0]
  simp only [bind, Except.bind]
  by_cases input : raw.getD 0 0 = Cmd.input
  · have report : 18 ≤ raw.length → ∀ i < 14, raw[4 + i]? = other[4 + i]? :=
      fun long i inside => agree.fields i (mem_reads_input input long inside)
    rw [if_pos input, if_pos input, forwardGamepad_congr monitor.ui agree.length report]
    cases monitor.ui.forwardGamepad other <;> rfl
  rw [if_neg input, if_neg input]
  by_cases guide : raw.getD 0 0 = Cmd.virtualKey
  · rw [if_pos guide, if_pos guide, agree.getD_first (mem_reads_first (.inl guide)) 0]
  rw [if_neg guide, if_neg guide]
  by_cases status : raw.getD 0 0 = Cmd.status
  · rw [if_pos status, if_pos status, agree.getD_first (mem_reads_first (.inr status)) 0x80]
  rw [if_neg status, if_neg status]
  by_cases audio : raw.getD 0 0 = Cmd.audioControl
  · rw [if_pos audio, if_pos audio]
    exact handleAudioControl_congr monitor _ _ _ agree audio
  · rw [if_neg audio, if_neg audio, sliceTo_ok (Nat.min_le_left _ _),
      sliceTo_ok (Nat.min_le_left _ _)]

/-! ### The header -/

theorem readVarintLoop_pos {profile : Profile} (bytes : List UInt8) :
    ∀ {value shift consumed result count : Nat},
    readVarintLoop profile value shift consumed bytes = .ok (some (result, count)) →
      0 < count := by
  induction bytes with
  | nil => exact fun absent => by cases absent
  | cons byte rest ih =>
    intro value shift consumed result count read
    rw [readVarintLoop] at read
    obtain ⟨bits, -, read⟩ := Machine.ok_of_bind read
    simp only at read
    split at read
    · cases read
      exact Nat.succ_pos consumed
    · exact ih read

/-- The header of an accepted packet takes four bytes or more. -/
theorem four_le_hdrLen {profile : Profile} {buf : List UInt8} {packet : Packet}
    (accepted : decode profile buf = .ok (some packet)) : 4 ≤ packet.hdrLen := by
  by_cases long : 4 ≤ buf.length
  · rw [decode_long profile long] at accepted
    obtain ⟨length, read, accepted⟩ := Machine.ok_of_bind accepted
    rcases length with - | ⟨pktLen, consumed⟩
    · cases accepted
    · obtain ⟨offset, -, accepted⟩ := Machine.ok_of_bind accepted
      rcases offset with - | ⟨chunkOffset, c⟩
      · cases accepted
      · obtain ⟨payload, -, rfl⟩ := Option.map_eq_some_iff.mp (Except.ok.inj accepted)
        have taken := readVarintLoop_pos _ read
        show 4 ≤ 3 + consumed + c
        omega
  · rw [decode_short profile (not_le.mp long)] at accepted
    cases accepted

/-! ### Agreement with the decoder -/

/-- A byte that is read lies inside the packet. -/
theorem mem_reads_lt {raw : List UInt8} {i : Nat} (read : i ∈ payloadReads raw) :
    4 + i < raw.length := by
  unfold payloadReads at read
  simp only at read
  split at read
  · split at read
    · have inside := List.mem_range.mp read
      omega
    · cases read
  · split at read
    · split at read
      · rw [List.mem_singleton.mp read]
        omega
      · cases read
    · split at read
      · split at read
        · have inside : i ≤ 2 := by
            revert i
            decide
          omega
        · split at read
          · rw [List.mem_singleton.mp read]
            omega
          · cases read
      · cases read

/-- Where any payload byte is read, the first one is. -/
theorem zero_mem_reads {raw : List UInt8} (some : payloadReads raw ≠ []) :
    0 ∈ payloadReads raw := by
  unfold payloadReads at some ⊢
  simp only at some ⊢
  split_ifs at some ⊢ <;> first | decide | exact absurd rfl some

/-- **The fields of a received packet.** For a packet that the decoder accepts: every payload byte
that the loop acts on lies behind the header and within the declared length exactly when none is
read, or when the header has four bytes and the declared length covers the indices read. Then each
of these bytes is the byte of the decoded payload at its index. And beside these bytes, what the
loop does depends on the first three bytes and the size of the packet only. -/
theorem fields_decoded (profile : Profile) (raw : List UInt8) (packet : Packet)
    (accepted : decode profile raw = .ok (some packet)) :
    ((∀ i ∈ payloadReads raw,
        packet.hdrLen ≤ 4 + i ∧ 4 + i < packet.hdrLen + packet.pktLen) ↔
      payloadReads raw = [] ∨
        packet.hdrLen = 4 ∧ ∀ i ∈ payloadReads raw, i < packet.pktLen) ∧
    (packet.hdrLen = 4 → (∀ i ∈ payloadReads raw, i < packet.pktLen) →
      ∀ i ∈ payloadReads raw, ∃ byte, raw[4 + i]? = some byte ∧ packet.payload[i]? = some byte) ∧
    ∀ (monitor : Monitor) (other : List UInt8), Agree raw other →
      outcome (handle monitor raw) = outcome (handle monitor other) := by
  refine ⟨⟨fun within => ?_, fun covered i read => ?_⟩, fun four covered i read => ?_,
    fun monitor other agree => ?_⟩
  · by_cases none : payloadReads raw = []
    · exact .inl none
    · have four : packet.hdrLen = 4 :=
        le_antisymm (within 0 (zero_mem_reads none)).1 (four_le_hdrLen accepted)
      refine .inr ⟨four, fun i read => ?_⟩
      have behind := (within i read).2
      rw [four] at behind
      exact Nat.lt_of_add_lt_add_left behind
  · rcases covered with none | ⟨four, covered⟩
    · rw [none] at read
      cases read
    · rw [four]
      exact ⟨Nat.le_add_right 4 i, Nat.add_lt_add_left (covered i read) 4⟩
  · have inside := mem_reads_lt read
    have declared := covered i read
    rw [(decode_fixed accepted).2.2.2, four, List.getElem?_drop,
      List.getElem?_take_of_lt (by omega)]
    exact ⟨raw[4 + i], List.getElem?_eq_getElem inside, List.getElem?_eq_getElem inside⟩
  · refine handle_congr monitor agree ?_
    rintro rfl
    cases accepted

/-- A VOLUME_CHAT report. -/
def volumeChat : List UInt8 := [0x08, 0x20, 0x01, 0x05, 0x00, 0x04, 0x32, 0x32, 0x32]

theorem fields_decoded_volumeChat : ∃ packet,
    decode .debug volumeChat = .ok (some packet) ∧ payloadReads volumeChat = [0, 1, 2] ∧
    ((∀ i ∈ payloadReads volumeChat,
        packet.hdrLen ≤ 4 + i ∧ 4 + i < packet.hdrLen + packet.pktLen) ↔
      payloadReads volumeChat = [] ∨
        packet.hdrLen = 4 ∧ ∀ i ∈ payloadReads volumeChat, i < packet.pktLen) ∧
    (packet.hdrLen = 4 → (∀ i ∈ payloadReads volumeChat, i < packet.pktLen) →
      ∀ i ∈ payloadReads volumeChat,
        ∃ byte, volumeChat[4 + i]? = some byte ∧ packet.payload[i]? = some byte) ∧
    ∀ (monitor : Monitor) (other : List UInt8), Agree volumeChat other →
      outcome (handle monitor volumeChat) = outcome (handle monitor other) :=
  ⟨_, rfl, by decide, fields_decoded .debug volumeChat _ rfl⟩

/-- A guide packet whose length varint takes two bytes, with the bit set in its payload. -/
def longGuide : List UInt8 := [0x07, 0x20, 0x01, 0x81, 0x00, 0x01]

/-- The guide bit is read from the header. -/
theorem not_fields_decoded : ¬ ∀ (raw : List UInt8) (packet : Packet), raw.length ≤ 64 →
    decode .debug raw = .ok (some packet) → packet.isChunked = false →
    ∀ i ∈ payloadReads raw, packet.payload[i]? = raw[4 + i]? := by
  intro all
  have same := all longGuide _ (by decide) rfl (by decide) 0 (by decide)
  cases same

end Wolverine.Usb
