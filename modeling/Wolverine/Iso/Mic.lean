/-
**The microphone as a system: `on_in` and the source callback, interleaved.**

Packets may be pushed between any two ring operations of the source callback; `PacketArrivals` says
which ones come where. A run takes any list of events, received packets and source callbacks; a
panic ends it. Every callback logs what it served and what had been received by then.

`sourceProcess_cases` and `step_onIn` say once what a step can do.
-/

import Wolverine.Audio.Fill
import Wolverine.Iso.In

namespace Wolverine.Iso

open Wolverine.Rust Wolverine.Audio Wolverine.Frames

/-- What a source callback serves: ring bytes, then silence up to `want`; with the stream received
before its read as history. -/
structure Serve where
  want : Nat
  got : List MicByte
  silence : Nat
  received : List MicByte

/-- The packets that `on_in` goes through between the ring operations of one source callback. -/
structure PacketArrivals where
  beforeSkip : List InPacket
  beforeRead : List InPacket

structure Mic where
  capture : Capture
  served : List Serve

inductive MicEvent
  | onIn (packet : InPacket)
  | source (buffer : Option SourceBuffer) (arrivals : PacketArrivals)

/-- Drop the oldest bytes. -/
def Capture.trim (capture : Capture) (excess : Option Nat) : Capture :=
  match excess with
  | some excess => { capture with cap := (capture.cap.skip excess).2 }
  | none => capture

namespace Mic

def start : Mic := { capture := Capture.new, served := [] }

/-- Read `want` bytes and log them. -/
def serve (mic : Mic) (want : Nat) : Mic :=
  let (got, cap) := mic.capture.cap.read want
  { capture := { mic.capture with cap }
    served := mic.served ++
      [{ want, got, silence := want - got.length, received := mic.capture.received }] }

/-- The source process callback. -/
def sourceProcess (profile : Profile) (config : SourceConfig) (mic : Mic)
    (buffer : Option SourceBuffer) (arrivals : PacketArrivals) : Except Panic Mic :=
  match buffer with
  | none => .ok mic   -- nothing to dequeue
  | some buffer =>
    match buffer.datas with
    | [] => .ok mic
    | none :: _ => .ok (mic.serve 0)   -- no mapped memory: an empty chunk
    | some len :: _ => do
      let want ← sourceWant config profile buffer.requested len
      let excess := sourceTrim config want mic.capture.cap.avail
      let capture ← Machine.run (Capture.onInPacket profile) mic.capture arrivals.beforeSkip
      let capture := capture.trim excess
      let capture ← Machine.run (Capture.onInPacket profile) capture arrivals.beforeRead
      return { mic with capture }.serve want

def step (profile : Profile) (config : SourceConfig) (mic : Mic) : MicEvent → Except Panic Mic
  | .onIn packet => do
    let capture ← mic.capture.onInPacket profile packet
    return { mic with capture }
  | .source buffer arrivals => sourceProcess profile config mic buffer arrivals

/-- The run of a list of events. -/
def run (profile : Profile) (config : SourceConfig) (events : List MicEvent) : Except Panic Mic :=
  Machine.run (step profile config) start events

variable {profile : Profile} {config : SourceConfig}

/-- The callback gets to its read, and wants this many bytes. -/
def Reads (profile : Profile) (config : SourceConfig) (buffer : Option SourceBuffer)
    (want : Nat) : Prop :=
  ∃ requested len rest, buffer = some ⟨requested, some len :: rest⟩ ∧
    sourceWant config profile requested len = .ok want

/-- What a source callback can do: nothing, serve an empty chunk, or trim and read. -/
theorem sourceProcess_cases {mic next : Mic} {buffer : Option SourceBuffer}
    {arrivals : PacketArrivals}
    (stepped : mic.sourceProcess profile config buffer arrivals = .ok next) :
    next = mic ∨ next = mic.serve 0 ∨ ∃ want before after,
      Reads profile config buffer want ∧
      Machine.run (Capture.onInPacket profile) mic.capture arrivals.beforeSkip = .ok before ∧
      Machine.run (Capture.onInPacket profile)
        (before.trim (sourceTrim config want mic.capture.cap.avail)) arrivals.beforeRead =
        .ok after ∧
      next = { mic with capture := after }.serve want := by
  unfold sourceProcess at stepped
  split at stepped
  · cases stepped
    exact Or.inl rfl
  · rename_i buffer
    split at stepped
    · cases stepped
      exact Or.inl rfl
    · cases stepped
      exact Or.inr (Or.inl rfl)
    · rename_i len rest datas
      obtain ⟨want, wanted, stepped⟩ := Machine.ok_of_bind stepped
      obtain ⟨before, ranBefore, stepped⟩ := Machine.ok_of_bind stepped
      obtain ⟨after, ranAfter, stepped⟩ := Machine.ok_of_bind stepped
      cases stepped
      refine Or.inr (Or.inr ⟨want, before, after, ⟨buffer.requested, len, rest, ?_, wanted⟩,
        ranBefore, ranAfter, rfl⟩)
      rw [← datas]

theorem step_onIn {mic next : Mic} {packet : InPacket}
    (stepped : mic.step profile config (.onIn packet) = .ok next) :
    ∃ capture, mic.capture.onInPacket profile packet = .ok capture ∧
      next = { mic with capture } := by
  obtain ⟨capture, pushed, stepped⟩ := Machine.ok_of_bind stepped
  cases stepped
  exact ⟨capture, pushed, rfl⟩

/-- One completion of a live transfer is a run of its packets. -/
theorem onIn_eq_run (mic : Mic) {status : TransferStatus}
    (live : ¬ (status = .noDevice ∨ status = .cancelled)) (packets : List InPacket) :
    (mic.capture.onIn profile true status packets).map (fun capture => { mic with capture }) =
      Machine.run (step profile config) mic (packets.map .onIn) := by
  rw [Capture.onIn, if_neg (by decide), if_neg live]
  induction packets generalizing mic with
  | nil => rfl
  | cons packet rest ih =>
    rw [List.map_cons, Machine.run, Machine.run]
    simp only [step, bind, Except.bind]
    cases mic.capture.onInPacket profile packet with
    | error panic => rfl
    | ok capture => exact ih { mic with capture }

/-! ### What the callback writes -/

/-- The bytes in the capture ring, without their history. -/
def capValues (mic : Mic) : Ring ringCapacity UInt8 :=
  ⟨mic.capture.cap.items.map MicByte.value, by
    rw [List.length_map]
    exact mic.capture.cap.fits⟩

/-- **The served bytes are the written ones.** With no packet in between, the callback writes what
it logs as served to the mapped memory, and leaves the same ring. -/
theorem sourceProcess_fill (mic : Mic) {requested want : Nat} {slice : List UInt8}
    (wanted : sourceWant config profile requested slice.length = .ok want)
    (inside : want ≤ slice.length) (rest : List (Option (List UInt8))) :
    ∃ next serve after,
      mic.sourceProcess profile config
        (some ⟨requested, (some slice :: rest).map (Option.map List.length)⟩) ⟨[], []⟩ = .ok next ∧
      next.served = mic.served ++ [serve] ∧
      Audio.sourceProcess profile config (some ⟨requested, some slice :: rest⟩) mic.capValues =
        .ok (some ⟨some (serve.got.map MicByte.value ++ List.replicate serve.silence 0 ++
          slice.drop want), sourceChunk config want⟩, after) ∧
      after.items = next.capture.cap.items.map MicByte.value := by
  have depth : mic.capValues.avail = mic.capture.cap.avail := List.length_map _
  generalize trimmedEq : mic.capture.trim (sourceTrim config want mic.capture.cap.avail) = capture
  have left : capture.cap.items =
      mic.capture.cap.items.drop (discarded config want mic.capture.cap.avail) := by
    rw [← trimmedEq, discarded]
    cases sourceTrim config want mic.capture.cap.avail with
    | none => rfl
    | some excess => exact Ring.skip_items _ _
  have got : (capture.cap.read want).1.map MicByte.value =
      (mic.capValues.items.drop (discarded config want mic.capture.cap.avail)).take want := by
    rw [Ring.read_fst, left, List.map_take, List.map_drop]
    rfl
  have silence : (capture.cap.read want).1.length = min mic.capture.cap.avail want := by
    rw [Ring.read_fst, left, List.length_take, List.length_drop, Nat.min_comm]
    exact sourceTrim_spares want mic.capture.cap.avail
  refine ⟨{ mic with capture }.serve want,
    { want, got := (capture.cap.read want).1, silence := want - (capture.cap.read want).1.length
      received := capture.received },
    (fillSlice config want slice mic.capValues).2, ?_, rfl, ?_, ?_⟩
  · simp only [sourceProcess, List.map_cons, Option.map_some, wanted, bind, Except.bind,
      Machine.run, trimmedEq]
    rfl
  · rw [got, silence, ← depth, ← fillSlice_memory inside]
    simp only [Audio.sourceProcess, wanted, bind, Except.bind]
    rfl
  · rw [fillSlice_cap, depth]
    show _ = (capture.cap.read want).2.items.map MicByte.value
    rw [Ring.read_items, left, List.map_drop, List.map_drop]
    rfl

end Mic

end Wolverine.Iso
