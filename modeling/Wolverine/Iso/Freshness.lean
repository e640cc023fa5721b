/-
**Microphone freshness.**

A byte served is fresh when it is among the last `max (2 * capLow) (2 * want)` bytes received before
the read.

* `served_fresh` — while the ring drops nothing and does not grow past the window during a
  callback, only fresh bytes are served.
* `stale_after_idle` — after an idle period in which the ring overflows by a whole window, the next
  callback serves stale bytes: the ring has dropped the newest ones, and the trim drops the oldest
  of what is left.
-/

import Wolverine.Iso.Mic

namespace Wolverine.Iso

open Wolverine.Rust Wolverine.Audio

/-- Every byte served is among the last `max (2 * capLow) (2 * want)` bytes received before the
read. -/
def Serve.Fresh (config : SourceConfig) (serve : Serve) : Prop :=
  ∀ byte ∈ serve.got,
    byte ∈ serve.received.drop (serve.received.length - max (2 * config.capLow) (2 * serve.want))

/-- How many PCM bytes some packets carry. -/
def total (profile : Profile) (packets : List InPacket) : Nat :=
  (packets.flatMap (carried profile)).length

namespace Capture

variable {profile : Profile} {config : SourceConfig}

/-- A packet whose PCM fits. -/
theorem onInPacket_newest {capture next : Capture} {packet : InPacket} (newest : capture.Newest)
    (room : (carried profile packet).length ≤ capture.cap.space)
    (stepped : capture.onInPacket profile packet = .ok next) :
    next.Newest ∧ next.cap.avail = capture.cap.avail + (carried profile packet).length := by
  rcases onInPacket_cases stepped with ⟨rfl, empty⟩ | rfl
  · rw [empty]
    exact ⟨newest, rfl⟩
  · refine ⟨push_newest newest room, ?_⟩
    rw [push, Ring.avail, Ring.write_items_of_fits (by rwa [length_tag]), List.length_append,
      length_tag]
    rfl

/-- Packets whose PCM fits all together. -/
theorem run_newest (packets : List InPacket) {capture last : Capture} (newest : capture.Newest)
    (room : capture.cap.avail + total profile packets ≤ ringCapacity)
    (ran : Machine.run (onInPacket profile) capture packets = .ok last) :
    last.Newest ∧ last.cap.avail = capture.cap.avail + total profile packets := by
  induction packets generalizing capture with
  | nil =>
    cases ran
    exact ⟨newest, rfl⟩
  | cons packet rest ih =>
    obtain ⟨next, stepped, ranRest⟩ := Machine.run_cons_ok ran
    have split : total profile (packet :: rest) =
        (carried profile packet).length + total profile rest := by
      rw [total, List.flatMap_cons, List.length_append]
      rfl
    rw [split] at room ⊢
    have fits : (carried profile packet).length ≤ capture.cap.space := by
      show _ ≤ ringCapacity - capture.cap.avail
      omega
    obtain ⟨nextNewest, nextAvail⟩ := onInPacket_newest newest fits stepped
    obtain ⟨lastNewest, lastAvail⟩ := ih nextNewest (by omega) ranRest
    exact ⟨lastNewest, by omega⟩

theorem trim_items (capture : Capture) (excess : Option Nat) :
    (capture.trim excess).cap.items = capture.cap.items.drop (excess.getD 0) := by
  cases excess with
  | none => rfl
  | some excess => exact Ring.skip_items _ _

theorem received_trim (capture : Capture) (excess : Option Nat) :
    (capture.trim excess).received = capture.received := by
  cases excess <;> rfl

/-- The trim keeps the newest bytes. -/
theorem Newest.trim {capture : Capture} (newest : capture.Newest) (excess : Option Nat) :
    (capture.trim excess).Newest := by
  rw [Newest, trim_items, received_trim]
  exact (List.drop_suffix _ _).trans newest

theorem avail_trim (capture : Capture) (excess : Option Nat) :
    (capture.trim excess).cap.avail = capture.cap.avail - excess.getD 0 := by
  rw [Ring.avail, trim_items, List.length_drop]
  rfl

end Capture

namespace Mic

variable {profile : Profile} {config : SourceConfig}

/-- Nothing is dropped for lack of room, and what arrives during a callback does not push the ring
past the freshness window of its read. -/
def Roomy (profile : Profile) (config : SourceConfig) (mic : Mic) : MicEvent → Prop
  | .onIn packet => (carried profile packet).length ≤ mic.capture.cap.space
  | .source buffer arrivals => ∀ want, Reads profile config buffer want →
      mic.capture.cap.avail + total profile arrivals.beforeSkip ≤ ringCapacity ∧
      trimmed config want mic.capture.cap.avail + total profile arrivals.beforeSkip +
        total profile arrivals.beforeRead ≤ min ringCapacity (sourceHigh config want)

/-- A callback during which nothing arrives is roomy. -/
theorem roomy_quiet (mic : Mic) (buffer : Option SourceBuffer) :
    Roomy profile config mic (.source buffer ⟨[], []⟩) := by
  intro want _
  have depth := mic.capture.cap.avail_le
  have window := trimmed_le config want mic.capture.cap.avail
  have trim := avail_after_trim config want mic.capture.cap.avail
  show mic.capture.cap.avail + 0 ≤ ringCapacity ∧
    trimmed config want mic.capture.cap.avail + 0 + 0 ≤ min ringCapacity (sourceHigh config want)
  omega

/-- The ring holds the newest bytes, and all that was served was fresh. -/
structure AllFresh (config : SourceConfig) (mic : Mic) : Prop where
  newest : mic.capture.Newest
  fresh : ∀ serve ∈ mic.served, serve.Fresh config

theorem AllFresh.serve {mic : Mic} (all : AllFresh config mic) {want : Nat}
    (shallow : mic.capture.cap.avail ≤ sourceHigh config want ∨ want = 0) :
    AllFresh config (mic.serve want) := by
  refine ⟨?_, fun serve member => ?_⟩
  · show (mic.capture.cap.read want).2.items <:+ mic.capture.received
    rw [Ring.read_items]
    exact (List.drop_suffix _ _).trans all.newest
  · rcases List.mem_append.mp member with earlier | here
    · exact all.fresh serve earlier
    · rw [List.mem_singleton.mp here]
      intro byte taken
      rcases shallow with shallow | none
      · rw [sourceHigh, SourceConfig.capHigh, Nat.mul_comm, Nat.mul_comm want] at shallow
        exact all.newest.fresh shallow (List.mem_of_mem_take taken)
      · rw [none] at taken
        cases taken

/-- A callback during which the ring stays roomy. -/
theorem AllFresh.source {mic next : Mic} (all : AllFresh config mic) {buffer : Option SourceBuffer}
    {arrivals : PacketArrivals} (roomy : Roomy profile config mic (.source buffer arrivals))
    (stepped : mic.sourceProcess profile config buffer arrivals = .ok next) :
    AllFresh config next := by
  rcases sourceProcess_cases stepped with
    rfl | rfl | ⟨want, before, after, reads, ranBefore, ranAfter, rfl⟩
  · exact all
  · exact all.serve (Or.inr rfl)
  · obtain ⟨roomBefore, roomAfter⟩ := roomy want reads
    obtain ⟨beforeNewest, beforeAvail⟩ :=
      Capture.run_newest arrivals.beforeSkip all.newest roomBefore ranBefore
    have trim := avail_after_trim config want mic.capture.cap.avail
    have trimAvail := before.avail_trim (sourceTrim config want mic.capture.cap.avail)
    obtain ⟨afterNewest, afterAvail⟩ :=
      Capture.run_newest arrivals.beforeRead (beforeNewest.trim _) (by omega) ranAfter
    have read : AllFresh config { mic with capture := after } := ⟨afterNewest, all.fresh⟩
    refine read.serve (Or.inl ?_)
    show after.cap.avail ≤ _
    omega

/-- **Microphone freshness.** In every run in which the ring drops nothing and does not grow past
the window during a callback, only fresh bytes are served. -/
theorem served_fresh (profile : Profile) (config : SourceConfig) (events : List MicEvent)
    (mic : Mic) (roomy : Machine.Meets (Roomy profile config) (step profile config) start events)
    (ran : run profile config events = .ok mic) : ∀ serve ∈ mic.served, serve.Fresh config := by
  have kept : ∀ mic event next, AllFresh config mic → Roomy profile config mic event →
      step profile config mic event = .ok next → AllFresh config next := by
    intro mic event next all room stepped
    cases event with
    | onIn packet =>
      obtain ⟨capture, pushed, rfl⟩ := step_onIn stepped
      exact ⟨(Capture.onInPacket_newest all.newest room pushed).1, all.fresh⟩
    | source buffer arrivals => exact all.source room stepped
  have initial : AllFresh config start := ⟨List.suffix_refl _, nofun⟩
  exact (Machine.run_invariant kept events start mic initial roomy ran).fresh

/-- One packet, one callback. -/
theorem served_fresh_once : ∃ mic,
    run .debug SourceConfig.shipped
      [.onIn samplePacket, .source (some ⟨0, [some 512]⟩) ⟨[], []⟩] = .ok mic ∧
    mic.served ≠ [] ∧ ∀ serve ∈ mic.served, serve.Fresh SourceConfig.shipped :=
  ⟨_, rfl, List.cons_ne_nil _ _, served_fresh .debug SourceConfig.shipped
    [.onIn samplePacket, .source (some ⟨0, [some 512]⟩) ⟨[], []⟩] _
    ⟨show (carried .debug samplePacket).length ≤ start.capture.cap.space by decide,
      fun next _ => ⟨roomy_quiet next _, fun _ _ => trivial⟩⟩ rfl⟩

/-! ### After an idle period -/

/-- A callback during which nothing arrives trims and reads. -/
theorem source_quiet (mic : Mic) {buffer : Option SourceBuffer} {want : Nat}
    (reads : Reads profile config buffer want) :
    mic.sourceProcess profile config buffer ⟨[], []⟩ = .ok
      ({ mic with capture := mic.capture.trim (sourceTrim config want mic.capture.cap.avail) }.serve
        want) := by
  obtain ⟨requested, len, rest, rfl, wanted⟩ := reads
  simp only [sourceProcess, wanted, bind, Except.bind, Machine.run]
  rfl

/-- Packets arrive and no source callback runs. -/
theorem run_idle {packet : InPacket} {pcm : List UInt8} (carries : pcmOf profile packet = .ok pcm)
    (nonempty : pcm.length ≠ 0) (count : Nat) {mic : Mic} (oldest : mic.capture.Oldest) :
    ∃ last, Machine.run (step profile config) mic (List.replicate count (.onIn packet)) = .ok last ∧
      last.capture.Oldest ∧
      last.capture.received.length = mic.capture.received.length + count * pcm.length := by
  induction count generalizing mic with
  | zero => exact ⟨mic, rfl, oldest, by rw [Nat.zero_mul, Nat.add_zero]⟩
  | succ count ih =>
    have stepped : step profile config mic (.onIn packet) =
        .ok { mic with capture := mic.capture.push pcm } := by
      simp only [step, Capture.onInPacket, carries, bind, Except.bind, if_neg nonempty]
      rfl
    have pushed : ({ mic with capture := mic.capture.push pcm } : Mic).capture.Oldest :=
      Capture.push_oldest oldest pcm
    obtain ⟨last, ran, lastOldest, grown⟩ := ih pushed
    refine ⟨last, ?_, lastOldest, ?_⟩
    · rw [List.replicate_succ, Machine.run_cons stepped]
      exact ran
    · rw [grown]
      show (mic.capture.push pcm).received.length + _ = _
      rw [Capture.received_push, List.length_append, length_tag, Nat.succ_mul]
      omega

/-- **After an idle period in which the ring overflows by a whole window, the next callback serves
nothing fresh.** -/
theorem stale_after_idle {mic : Mic} (oldest : mic.capture.Oldest) {buffer : Option SourceBuffer}
    {want : Nat} (reads : Reads profile config buffer want) (positive : 0 < want)
    (long : ringCapacity + max (2 * config.capLow) (2 * want) ≤ mic.capture.received.length) :
    ∃ next serve, mic.sourceProcess profile config buffer ⟨[], []⟩ = .ok next ∧
      serve ∈ next.served ∧ ¬ serve.Fresh config := by
  have depth : mic.capture.cap.avail = ringCapacity := by
    rw [Ring.avail, oldest, List.length_take]
    omega
  have kept : 0 < trimmed config want mic.capture.cap.avail := by
    have stride := config.inStride_pos
    have low : config.inStride ≤ config.capLow := config.lowFits
    unfold trimmed
    split
    · omega
    · rw [depth]
      decide
  have trim := avail_after_trim config want mic.capture.cap.avail
  refine ⟨_, _, source_quiet mic reads, List.mem_append_right _ List.mem_cons_self, fun fresh => ?_⟩
  have some_ : ((mic.capture.trim (sourceTrim config want mic.capture.cap.avail)).cap.items.take
      want) ≠ [] := by
    rw [← List.length_pos_iff, List.length_take, Capture.trim_items, List.length_drop]
    show 0 < min want (mic.capture.cap.avail - _)
    omega
  obtain ⟨byte, member⟩ := List.exists_mem_of_ne_nil _ some_
  have recent := fresh byte member
  rw [Capture.trim_items] at member
  have old := List.mem_of_mem_drop (List.mem_of_mem_take member)
  exact oldest.stale long old (by rwa [Capture.received_trim] at recent)

/-- A packet of 200 PCM bytes. -/
def idlePacket : InPacket where
  status := .completed
  data := some (Gip.buildHeader Gip.Cmd.audioSamples Gip.optsInternal 1 202 ++ List.replicate 202 0)
  short := by
    intro bytes member
    cases member
    have varint : (Gip.headerVarint 202).length ≤ 5 := Gip.length_headerVarint_le (by decide)
    rw [Gip.buildHeader_eq, List.length_append, List.length_append, List.length_replicate]
    show 3 + (Gip.headerVarint 202).length + 202 ≤ 228
    omega

theorem pcmOf_idlePacket : pcmOf .debug idlePacket = .ok (List.replicate 200 0) := by
  have built := Gip.decode_built .debug Gip.Cmd.audioSamples 1
    (show Gip.optsInternal &&& Gip.Opt.chunk = 0 by decide)
    (show (List.replicate 202 (0 : UInt8)).length < u32Size by
      rw [List.length_replicate]
      decide) []
  rw [List.length_replicate, List.append_nil] at built
  have nonempty : (Gip.buildHeader Gip.Cmd.audioSamples Gip.optsInternal 1 202 ++
      List.replicate 202 0).length ≠ 0 := by
    rw [List.length_append, List.length_replicate]
    omega
  rw [pcmOf_completed .debug rfl rfl nonempty, parseIn_of_ok built, Option.bind_some,
    if_pos ⟨rfl, by rw [List.length_replicate]; decide⟩, List.drop_replicate]
  rfl

/-- The shipped microphone, idle for 1359 packets of 200 bytes, is opened. -/
theorem not_served_fresh :
    ∃ mic, run .debug SourceConfig.shipped
        (List.replicate 1359 (.onIn idlePacket) ++ [.source (some ⟨0, [some 512]⟩) ⟨[], []⟩]) =
        .ok mic ∧ ¬ ∀ serve ∈ mic.served, serve.Fresh SourceConfig.shipped := by
  have reads : Reads .debug SourceConfig.shipped (some ⟨0, [some 512]⟩) 512 :=
    ⟨0, 512, [], rfl, rfl⟩
  obtain ⟨last, ran, oldest, grown⟩ := @run_idle .debug SourceConfig.shipped idlePacket
    (List.replicate 200 0) pcmOf_idlePacket (by rw [List.length_replicate]; decide) 1359 start
    Capture.oldest_new
  rw [List.length_replicate] at grown
  have long : ringCapacity + max (2 * SourceConfig.shipped.capLow) (2 * 512) ≤
      last.capture.received.length := by
    rw [grown]
    decide
  obtain ⟨next, serve, stepped, member, stale⟩ :=
    stale_after_idle oldest reads (by decide) long
  refine ⟨next, ?_, fun fresh => stale (fresh serve member)⟩
  rw [run, Machine.run_append ran]
  exact Machine.run_cons stepped []

end Mic

end Wolverine.Iso
