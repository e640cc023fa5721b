/-
**The microphone in the three programs.**

`_on_in` of `iso_audio.py`, `monitor_audio` of `gip_init.py` and `on_in` of `iso.rs` each take the
PCM out of the packets of EP3 IN. `_on_in` sees the packets of completed transfers, `monitor_audio`
the data of synchronous reads.

* `pcm_agree` — on a packet that fits, `parse_in` and the Python text take the same PCM, also where
  the header is cut: `gip::decode` rejects the packet, `decode_gip_header` leaves no payload.
* `microphone_agrees` — in every run over such packets, the three push the same PCM in the same
  order.
-/

import Wolverine.Iso.In
import Wolverine.Python.Stream

namespace Wolverine.Python

open Wolverine.Gip (lengthVarint offsetVarint offsetLength chunked HeaderComplete headerPacket)
open Wolverine.Iso Wolverine.Machine Wolverine.Rust

/-! ### The programs -/

/-- `data[start:stop]`. -/
def pySlice (data : List UInt8) (start stop : Nat) : List UInt8 := (data.take stop).drop start

/-- The PCM of a packet, as `_on_in` and `monitor_audio` take it; empty when they push nothing. -/
def pcmOf (data : List UInt8) : List UInt8 :=
  match data with
  | cmd :: _ :: _ :: _ :: _ =>
    if cmd.toNat ≠ gipCmdAudioSamples then []
    else
      match decodeGipHeader data with
      | none => []
      | some hdr => (pySlice data hdr.hdrLen (hdr.hdrLen + hdr.pktLen)).drop 2   -- sub-header
  | _ => []   -- `len(data) < 4`

/-- The fields of `IsoAudio` for the IN direction, and as history the calls of
`wpw_write_capture`. -/
structure IsoMic where
  running : Bool
  inBytes : Nat
  pushed : List (List UInt8)

namespace IsoMic

def start : IsoMic := ⟨true, 0, []⟩

/-- One iteration of the loop of `_on_in`. -/
def onInPacket (mic : IsoMic) (packet : InPacket) : IsoMic :=
  let data := packet.data.getD []
  if packet.status ≠ .completed ∨ data = [] then mic
  else
    let pcm := pcmOf data
    if pcm = [] then mic
    else { mic with inBytes := mic.inBytes + pcm.length, pushed := mic.pushed ++ [pcm] }

/-- `_on_in`. -/
def onIn (mic : IsoMic) (status : TransferStatus) (packets : List InPacket) : IsoMic :=
  if mic.running = false then mic
  else if status = .noDevice ∨ status = .cancelled then mic
  else packets.foldl onInPacket mic

end IsoMic

inductive MicEvent
  | onIn (status : TransferStatus) (packets : List InPacket)
  /-- The periodic diagnostic. -/
  | diagnostics
  | stop

def IsoMic.step (mic : IsoMic) : MicEvent → IsoMic
  | .onIn status packets => mic.onIn status packets
  | .diagnostics => { mic with inBytes := 0 }
  | .stop => { mic with running := false }

/-- The IN direction of `iso.rs`. -/
structure PortMic where
  running : Bool
  capture : Capture

def PortMic.start : PortMic := ⟨true, Capture.new⟩

def PortMic.step (profile : Profile) (mic : PortMic) : MicEvent → Except Panic PortMic
  | .onIn status packets => do
    return { mic with capture := ← mic.capture.onIn profile mic.running status packets }
  | .diagnostics => .ok { mic with capture := { mic.capture with inBytes := 0 } }
  | .stop => .ok { mic with running := false }

/-- What `dev.read` returns to `monitor_audio`; the last is any other `USBError`. -/
inductive AudioRead
  | data (bytes : List UInt8)
  | timeout
  | usbError

/-- `monitor_audio`: the calls of `wpw_write_capture`. -/
def monitorAudio : List AudioRead → List (List UInt8)
  | [] => []
  | .data bytes :: rest =>
    let pcm := pcmOf bytes
    if pcm = [] then monitorAudio rest else pcm :: monitorAudio rest
  | .timeout :: rest => monitorAudio rest
  | .usbError :: rest => monitorAudio rest

/-- The reads of the data that a transfer of the engine delivers. -/
def readsOf (packets : List InPacket) : List AudioRead :=
  (packets.filter fun packet => packet.status = .completed).map fun packet =>
    .data (packet.data.getD [])

/-- The reads of the data that the engine gets until it is stopped. -/
def readsUntilStop : List MicEvent → List AudioRead
  | [] => []
  | .onIn status packets :: rest =>
    if status = .noDevice ∨ status = .cancelled then readsUntilStop rest
    else readsOf packets ++ readsUntilStop rest
  | .diagnostics :: rest => readsUntilStop rest
  | .stop :: _ => []

/-- Every packet that is received fits the decoders. -/
def MicEvent.Fits : MicEvent → Prop
  | .onIn _ packets => ∀ packet ∈ packets, ∀ data ∈ packet.data, Iso.Fits data
  | .diagnostics | .stop => True

/-! ### One packet -/

/-- Behind a cut header there is nothing. -/
theorem hdrLen_of_cut {data : List UInt8} (long : 4 ≤ data.length)
    (cut : ¬ HeaderComplete data) :
    3 + (lengthVarint data).length + offsetLength data = data.length := by
  by_cases ends : Leb128.ends (data.drop 3) = true
  · have chunk : chunked data ∧
        ¬ Leb128.ends (data.drop (3 + (lengthVarint data).length)) = true := by
      by_contra whole
      exact cut ⟨long, ends, fun chunk => not_not.mp fun open_ => whole ⟨chunk, open_⟩⟩
    have inside : (lengthVarint data).length ≤ (data.drop 3).length := Leb128.run_length_le _
    rw [List.length_drop] at inside
    have all : offsetVarint data = data.drop (3 + (lengthVarint data).length) :=
      Leb128.run_eq_self chunk.2
    rw [offsetLength, if_pos chunk.1, all, List.length_drop]
    omega
  · have all : lengthVarint data = data.drop 3 := Leb128.run_eq_self ends
    have size : 3 + (lengthVarint data).length = data.length := by
      rw [all, List.length_drop]
      omega
    have rest : offsetVarint data = [] := by
      rw [offsetVarint, size, List.drop_length]
      rfl
    rw [offsetLength, rest]
    split <;> exact size

/-- What the Python text takes out of a packet of audio samples. -/
theorem pcmOf_audio {data : List UInt8} (long : 4 ≤ data.length)
    (audio : (data.getD 0 0).toNat = gipCmdAudioSamples) :
    pcmOf data = (pySlice data (3 + (lengthVarint data).length + offsetLength data)
      (3 + (lengthVarint data).length + offsetLength data +
        Leb128.value (lengthVarint data))).drop 2 := by
  have decoded := decodeGipHeader_eq long
  match data, long with
  | cmd :: opts :: seq :: first :: rest, _ =>
    have here : cmd.toNat = gipCmdAudioSamples := audio
    rw [pcmOf, if_neg (not_not.mpr here), decoded]

/-- Nothing is taken out of other packets. -/
theorem pcmOf_other {data : List UInt8} (other : (data.getD 0 0).toNat ≠ gipCmdAudioSamples) :
    pcmOf data = [] := by
  unfold pcmOf
  split
  · exact if_pos other
  · rfl

theorem pcmOf_short {data : List UInt8} (short : data.length < 4) : pcmOf data = [] := by
  unfold pcmOf
  split
  · rw [List.length_cons, List.length_cons, List.length_cons, List.length_cons] at short
    omega
  · rfl

/-- **The PCM of a packet is the same.** -/
theorem pcm_agree (profile : Profile) {data : List UInt8} (fits : Iso.Fits data) :
    (parseIn profile data).map (·.getD []) = .ok (pcmOf data) := by
  have decoded := Gip.decode_eq profile fits.1
  rw [parseIn_of_ok decoded, Except.map]
  refine congrArg Except.ok ?_
  have command : (data.getD 0 0).toNat = gipCmdAudioSamples ↔
      data.getD 0 0 = Gip.Cmd.audioSamples :=
    UInt8.toNat_inj (a := data.getD 0 0) (b := Gip.Cmd.audioSamples)
  by_cases complete : HeaderComplete data
  · rw [if_pos complete, Option.bind_some]
    by_cases audio : (data.getD 0 0).toNat = gipCmdAudioSamples
    · have small := (fits.2 complete).1
      rw [leb128Sum_eq] at small
      have payload : (headerPacket data).payload =
          pySlice data (3 + (lengthVarint data).length + offsetLength data)
            (3 + (lengthVarint data).length + offsetLength data +
              Leb128.value (lengthVarint data)) := by
        unfold headerPacket pySlice
        simp only [Nat.mod_eq_of_lt (show _ < u32Size from small)]
        rw [← List.take_eq_take_min]
      rw [pcmOf_audio complete.1 audio, ← payload]
      by_cases whole : 2 ≤ (headerPacket data).payload.length
      · rw [if_pos ⟨command.mp audio, whole⟩, Option.getD_some]
      · rw [if_neg fun both => whole both.2, List.drop_eq_nil_of_le (by omega), Option.getD_none]
    · rw [pcmOf_other audio, if_neg fun both => audio (command.mpr both.1), Option.getD_none]
  · rw [if_neg complete, Option.bind_none, Option.getD_none]
    by_cases long : 4 ≤ data.length
    · by_cases audio : (data.getD 0 0).toNat = gipCmdAudioSamples
      · rw [pcmOf_audio long audio, hdrLen_of_cut long complete, pySlice, List.drop_eq_nil_of_le
          (List.length_take_le' _ _), List.drop_nil]
      · exact (pcmOf_other audio).symm
    · exact (pcmOf_short (not_le.mp long)).symm

/-! ### Runs -/

/-- The two engines have taken the same PCM. -/
structure SameMic (rust : PortMic) (py : IsoMic) : Prop where
  running : rust.running = py.running
  inBytes : rust.capture.inBytes = py.inBytes
  pushed : rust.capture.packets = py.pushed

/-- A packet that is skipped before it is looked at. -/
theorem pcmOf_idle (profile : Profile) {packet : InPacket}
    (idle : packet.status ≠ .completed ∨ packet.data.getD [] = []) :
    Iso.pcmOf profile packet = .ok [] := by
  unfold Iso.pcmOf
  split
  · rfl
  · rename_i data present
    refine if_pos (idle.imp_right fun empty => ?_)
    rw [present, Option.getD_some] at empty
    rw [empty, List.length_nil]

/-- A packet that is looked at. -/
theorem pcmOf_present (profile : Profile) {packet : InPacket}
    (looked : ¬ (packet.status ≠ .completed ∨ packet.data.getD [] = []))
    (fits : ∀ data ∈ packet.data, Iso.Fits data) :
    Iso.pcmOf profile packet = .ok (pcmOf (packet.data.getD [])) := by
  obtain ⟨completed, nonempty⟩ := not_or.mp looked
  cases present : packet.data with
  | none =>
    rw [present] at nonempty
    exact absurd rfl nonempty
  | some data =>
    rw [present, Option.getD_some] at nonempty
    rw [pcmOf_completed profile present (not_not.mp completed)
      fun empty => nonempty (List.length_eq_zero_iff.mp empty), Option.getD_some]
    exact pcm_agree profile (fits data present)

theorem SameMic.onInPacket (profile : Profile) {running : Bool} {capture : Capture} {py : IsoMic}
    (same : SameMic ⟨running, capture⟩ py) {packet : InPacket}
    (fits : ∀ data ∈ packet.data, Iso.Fits data) :
    ∃ next, capture.onInPacket profile packet = .ok next ∧
      SameMic ⟨running, next⟩ (py.onInPacket packet) := by
  unfold Capture.onInPacket IsoMic.onInPacket
  by_cases idle : packet.status ≠ .completed ∨ packet.data.getD [] = []
  · rw [bind_of_ok (pcmOf_idle profile idle)]
    dsimp only
    rw [if_pos idle]
    exact ⟨capture, rfl, same⟩
  · rw [bind_of_ok (pcmOf_present profile idle fits)]
    dsimp only
    rw [if_neg idle]
    by_cases empty : pcmOf (packet.data.getD []) = []
    · rw [if_pos empty, if_pos (List.length_eq_zero_iff.mpr empty)]
      exact ⟨capture, rfl, same⟩
    · rw [if_neg empty, if_neg fun none_ => empty (List.length_eq_zero_iff.mp none_)]
      exact ⟨_, rfl, same.running, congrArg (· + _) same.inBytes, congrArg (· ++ [_]) same.pushed⟩

theorem SameMic.onIn (profile : Profile) {rust : PortMic} {py : IsoMic} (same : SameMic rust py)
    (status : TransferStatus) {packets : List InPacket}
    (fits : ∀ packet ∈ packets, ∀ data ∈ packet.data, Iso.Fits data) :
    ∃ next, rust.capture.onIn profile rust.running status packets = .ok next ∧
      SameMic ⟨rust.running, next⟩ (py.onIn status packets) := by
  obtain ⟨running, capture⟩ := rust
  unfold Capture.onIn IsoMic.onIn
  have same_ : running = py.running := same.running
  rw [same_]
  by_cases stopped : py.running = false
  · rw [if_pos stopped, if_pos stopped]
    exact ⟨capture, rfl, same_ ▸ same⟩
  · rw [if_neg stopped, if_neg stopped]
    by_cases gone : status = .noDevice ∨ status = .cancelled
    · rw [if_pos gone, if_pos gone]
      exact ⟨capture, rfl, same_ ▸ same⟩
    · rw [if_neg gone, if_neg gone, ← same_]
      clear gone stopped same_
      induction packets generalizing capture py with
      | nil => exact ⟨capture, rfl, same⟩
      | cons packet rest ih =>
        obtain ⟨next, stepped, same⟩ :=
          same.onInPacket profile (fits packet List.mem_cons_self)
        obtain ⟨last, ran, same⟩ := ih
          (fun other member => fits other (List.mem_cons_of_mem _ member)) next same
        exact ⟨last, (run_cons stepped _).trans ran, same⟩

/-- **One event.** -/
theorem SameMic.step (profile : Profile) {rust : PortMic} {py : IsoMic} (same : SameMic rust py)
    {event : MicEvent} (fits : event.Fits) :
    ∃ next, rust.step profile event = .ok next ∧ SameMic next (py.step event) := by
  cases event with
  | onIn status packets =>
    obtain ⟨next, received, same⟩ := same.onIn profile status fits
    exact ⟨_, bind_of_ok received _, same⟩
  | diagnostics => exact ⟨_, rfl, same.running, rfl, same.pushed⟩
  | stop => exact ⟨_, rfl, rfl, same.inBytes, same.pushed⟩

/-! ### The synchronous reader -/

theorem monitorAudio_append (first second : List AudioRead) :
    monitorAudio (first ++ second) = monitorAudio first ++ monitorAudio second := by
  induction first with
  | nil => rfl
  | cons read rest ih =>
    cases read with
    | data bytes =>
      show (if pcmOf bytes = [] then monitorAudio (rest ++ second)
          else pcmOf bytes :: monitorAudio (rest ++ second)) =
        (if pcmOf bytes = [] then monitorAudio rest else pcmOf bytes :: monitorAudio rest) ++
          monitorAudio second
      rw [ih]
      split <;> rfl
    | timeout => exact ih
    | usbError => exact ih

theorem readsOf_cons (packet : InPacket) (rest : List InPacket) :
    readsOf (packet :: rest) = readsOf [packet] ++ readsOf rest := by
  unfold readsOf
  rw [List.filter_cons]
  by_cases completed : packet.status = .completed
  · simp [completed]
  · simp [completed]

/-- One packet, read synchronously. -/
theorem pushed_packet (mic : IsoMic) (packet : InPacket) :
    (mic.onInPacket packet).pushed = mic.pushed ++ monitorAudio (readsOf [packet]) ∧
      (mic.onInPacket packet).running = mic.running := by
  unfold IsoMic.onInPacket readsOf
  by_cases completed : packet.status = .completed
  · have reads : monitorAudio ([packet].filter (fun packet => packet.status = .completed) |>.map
        fun packet => .data (packet.data.getD [])) =
        if pcmOf (packet.data.getD []) = [] then [] else [pcmOf (packet.data.getD [])] := by
      rw [List.filter_singleton, decide_eq_true completed]
      rfl
    rw [reads]
    dsimp only
    by_cases empty : packet.data.getD [] = []
    · rw [if_pos (Or.inr empty), empty, if_pos (pcmOf_short (by decide)), List.append_nil]
      exact ⟨rfl, rfl⟩
    · rw [if_neg (not_or.mpr ⟨not_not.mpr completed, empty⟩)]
      split
      · exact ⟨(List.append_nil _).symm, rfl⟩
      · exact ⟨rfl, rfl⟩
  · dsimp only
    rw [if_pos (Or.inl completed), List.filter_singleton, decide_eq_false completed]
    exact ⟨(List.append_nil _).symm, rfl⟩

/-- One transfer, read synchronously. -/
theorem pushed_packets (mic : IsoMic) (packets : List InPacket) :
    (packets.foldl IsoMic.onInPacket mic).pushed = mic.pushed ++ monitorAudio (readsOf packets) ∧
      (packets.foldl IsoMic.onInPacket mic).running = mic.running := by
  induction packets generalizing mic with
  | nil => exact ⟨(List.append_nil _).symm, rfl⟩
  | cons packet rest ih =>
    obtain ⟨pushed, running⟩ := ih (mic.onInPacket packet)
    obtain ⟨first, same⟩ := pushed_packet mic packet
    rw [List.foldl_cons, pushed, running, first, same, readsOf_cons packet rest,
      monitorAudio_append, List.append_assoc]
    exact ⟨rfl, rfl⟩

/-- A stopped engine takes nothing more. -/
theorem pushed_stopped (mic : IsoMic) (stopped : mic.running = false) (events : List MicEvent) :
    (events.foldl IsoMic.step mic).pushed = mic.pushed := by
  induction events generalizing mic with
  | nil => rfl
  | cons event rest ih =>
    cases event with
    | onIn status packets =>
      have same : mic.step (.onIn status packets) = mic := if_pos stopped
      rw [List.foldl_cons, same, ih mic stopped]
    | diagnostics => exact ih _ stopped
    | stop => exact ih _ rfl

/-- The data that the engine gets, read synchronously. -/
theorem pushed_run (mic : IsoMic) (running : mic.running = true) (events : List MicEvent) :
    (events.foldl IsoMic.step mic).pushed =
      mic.pushed ++ monitorAudio (readsUntilStop events) := by
  induction events generalizing mic with
  | nil => exact (List.append_nil _).symm
  | cons event rest ih =>
    cases event with
    | onIn status packets =>
      have alive : ¬ mic.running = false := by
        rw [running]
        decide
      rw [List.foldl_cons, readsUntilStop]
      by_cases gone : status = .noDevice ∨ status = .cancelled
      · have same : mic.step (.onIn status packets) = mic := (if_neg alive).trans (if_pos gone)
        rw [same, if_pos gone, ih mic running]
      · have same : mic.step (.onIn status packets) = packets.foldl IsoMic.onInPacket mic :=
          (if_neg alive).trans (if_neg gone)
        obtain ⟨pushed, still⟩ := pushed_packets mic packets
        rw [same, if_neg gone, ih _ (still.trans running), pushed, monitorAudio_append,
          List.append_assoc]
    | diagnostics => exact ih _ running
    | stop => exact (pushed_stopped _ rfl rest).trans (List.append_nil _).symm

/-- **The microphone is the same in the three programs.** Whatever transfers complete, in which
state and with which packets that fit the decoders, the port does not panic and pushes the PCM that
`iso_audio.py` pushes, and that `monitor_audio` pushes when it reads the same data. -/
theorem microphone_agrees (profile : Profile) {events : List MicEvent}
    (fits : ∀ event ∈ events, event.Fits) :
    ∃ last, Machine.run (PortMic.step profile) PortMic.start events = .ok last ∧
      last.capture.packets = (events.foldl IsoMic.step IsoMic.start).pushed ∧
      last.capture.inBytes = (events.foldl IsoMic.step IsoMic.start).inBytes ∧
      monitorAudio (readsUntilStop events) = (events.foldl IsoMic.step IsoMic.start).pushed := by
  have run : ∀ (events : List MicEvent) (rust : PortMic) (py : IsoMic), SameMic rust py →
      (∀ event ∈ events, event.Fits) →
      ∃ last, Machine.run (PortMic.step profile) rust events = .ok last ∧
        SameMic last (events.foldl IsoMic.step py) := by
    intro events
    induction events with
    | nil => exact fun rust py same _ => ⟨rust, rfl, same⟩
    | cons event rest ih =>
      intro rust py same fits
      obtain ⟨next, stepped, same⟩ := same.step profile (fits event List.mem_cons_self)
      obtain ⟨last, ran, same⟩ :=
        ih next _ same fun other member => fits other (List.mem_cons_of_mem _ member)
      exact ⟨last, (run_cons stepped _).trans ran, same⟩
  obtain ⟨last, ran, same⟩ := run events PortMic.start IsoMic.start ⟨rfl, rfl, rfl⟩ fits
  exact ⟨last, ran, same.pushed, same.inBytes, (pushed_run IsoMic.start rfl events).symm⟩

/-- Varints of one word fit the decoders. -/
theorem WordVarints.fits {buf : List UInt8} (words : WordVarints buf) : Iso.Fits buf := by
  refine ⟨words.short, fun _ => ?_⟩
  rw [leb128Sum_eq, leb128Sum_eq]
  exact ⟨words.2.1, fun chunk => (words.2.2 chunk).2⟩

/-- A transfer with a packet of one sample and a packet whose header is cut, and the stop. -/
theorem microphone_agrees_cut :
    let events : List MicEvent :=
      [.onIn .completed [samplePacket, ⟨.completed, some [0x60, 0x21, 0x02, 0x80], by decide⟩],
        .stop]
    ∃ last, Machine.run (PortMic.step .debug) PortMic.start events = .ok last ∧
      last.capture.packets = (events.foldl IsoMic.step IsoMic.start).pushed ∧
      last.capture.inBytes = (events.foldl IsoMic.step IsoMic.start).inBytes ∧
      monitorAudio (readsUntilStop events) = (events.foldl IsoMic.step IsoMic.start).pushed := by
  refine microphone_agrees .debug ?_
  intro event member
  rcases List.mem_pair.mp member with rfl | rfl
  · intro packet received data present
    rcases List.mem_pair.mp received with rfl | rfl
    · obtain rfl := Option.mem_some.mp present
      exact WordVarints.fits (by decide)
    · obtain rfl := Option.mem_some.mp present
      exact WordVarints.fits (by decide)
  · trivial

end Wolverine.Python
