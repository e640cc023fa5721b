/-
**Microphone sample alignment.**

Nothing between `parse_in` and the ring rounds to whole samples, so a packet that carries an odd
number of PCM bytes shifts the phase of everything after it. `served_samples` is the other side:
while every packet carries whole samples, only whole samples are served, whatever the ring drops.
-/

import Wolverine.Iso.Mic

namespace Wolverine.Iso

open Wolverine.Rust Wolverine.Audio Wolverine.Frames

/-- Every packet of the event carries whole samples. -/
def MicEvent.Even (profile : Profile) : MicEvent → Prop
  | .onIn packet => 2 ∣ (carried profile packet).length
  | .source _ arrivals => (∀ packet ∈ arrivals.beforeSkip, 2 ∣ (carried profile packet).length) ∧
      ∀ packet ∈ arrivals.beforeRead, 2 ∣ (carried profile packet).length

namespace Mic

variable {profile : Profile} {config : SourceConfig}

/-- The ring content and all that was served are cut into samples. -/
structure AllSamples (mic : Mic) : Prop where
  sampled : mic.capture.Sampled
  served : ∀ serve ∈ mic.served, Framed 2 (Capture.IsSample mic.capture.packets) serve.got

theorem AllSamples.onInPacket {mic : Mic} (all : mic.AllSamples) {packet : InPacket}
    (even : 2 ∣ (carried profile packet).length) {capture : Capture}
    (stepped : mic.capture.onInPacket profile packet = .ok capture) :
    ({ mic with capture } : Mic).AllSamples := by
  rcases Capture.onInPacket_cases stepped with ⟨rfl, -⟩ | rfl
  · exact all
  · exact ⟨Capture.push_samples all.sampled even,
      fun serve member => (all.served serve member).mono fun _ sample => sample.later _⟩

theorem AllSamples.packets {mic : Mic} (all : mic.AllSamples) {packets : List InPacket}
    (even : ∀ packet ∈ packets, 2 ∣ (carried profile packet).length) {last : Capture}
    (ran : Machine.run (Capture.onInPacket profile) mic.capture packets = .ok last) :
    ({ mic with capture := last } : Mic).AllSamples := by
  have kept : ∀ (capture : Capture) packet next, ({ mic with capture } : Mic).AllSamples →
      2 ∣ (carried profile packet).length → capture.onInPacket profile packet = .ok next →
      ({ mic with capture := next } : Mic).AllSamples :=
    fun _ _ _ inv whole stepped => inv.onInPacket whole stepped
  exact Machine.run_invariant kept packets mic.capture last all
    (Machine.meets_of_forall even mic.capture) ran

theorem AllSamples.trim {mic : Mic} (all : mic.AllSamples) {excess : Option Nat}
    (aligned : ∀ count, excess = some count → 2 ∣ count) :
    ({ mic with capture := mic.capture.trim excess } : Mic).AllSamples := by
  cases excess with
  | none => exact all
  | some count =>
    refine ⟨?_, all.served⟩
    show Framed 2 _ (mic.capture.cap.skip count).2.items
    rw [Ring.skip_items]
    exact Framed.drop all.sampled (aligned count rfl)

theorem AllSamples.serve {mic : Mic} (all : mic.AllSamples) {want : Nat} (even : 2 ∣ want) :
    (mic.serve want).AllSamples := by
  refine ⟨Framed.drop all.sampled even, fun serve member => ?_⟩
  rcases List.mem_append.mp member with earlier | here
  · exact all.served serve earlier
  · rw [List.mem_singleton.mp here]
    exact Framed.take all.sampled even

/-- **Microphone sample alignment.** In every run in which every packet carries whole samples, only
whole samples are served. -/
theorem served_samples (profile : Profile) (config : SourceConfig) (events : List MicEvent)
    (mic : Mic) (even : ∀ event ∈ events, event.Even profile)
    (ran : run profile config events = .ok mic) :
    ∀ serve ∈ mic.served, Framed 2 (Capture.IsSample mic.capture.packets) serve.got := by
  have kept : ∀ mic event next, AllSamples mic → MicEvent.Even profile event →
      step profile config mic event = .ok next → AllSamples next := by
    intro mic event next all whole stepped
    cases event with
    | onIn packet =>
      obtain ⟨capture, pushed, rfl⟩ := step_onIn stepped
      exact all.onInPacket whole pushed
    | source buffer arrivals =>
      rcases sourceProcess_cases stepped with
        rfl | rfl | ⟨want, before, after, reads, ranBefore, ranAfter, rfl⟩
      · exact all
      · exact all.serve (dvd_zero 2)
      · obtain ⟨requested, len, rest, -, wanted⟩ := reads
        have dropped : ∀ count,
            sourceTrim config want mic.capture.cap.avail = some count → 2 ∣ count :=
          fun _ trims => sourceTrim_aligned trims
        have trimmed := (all.packets whole.1 ranBefore).trim dropped
        exact (trimmed.packets whole.2 ranAfter).serve (sourceWant_aligned wanted)
  have initial : AllSamples start := ⟨Framed.nil, nofun⟩
  exact (Machine.run_invariant kept events start mic initial
    (Machine.meets_of_forall even start) ran).served

/-- One packet, one callback. -/
theorem served_samples_once : ∃ mic,
    run .debug SourceConfig.shipped
      [.onIn samplePacket, .source (some ⟨0, [some 512]⟩) ⟨[], []⟩] = .ok mic ∧
    mic.served ≠ [] ∧
    ∀ serve ∈ mic.served, Framed 2 (Capture.IsSample mic.capture.packets) serve.got :=
  ⟨_, rfl, List.cons_ne_nil _ _, served_samples .debug SourceConfig.shipped
    [.onIn samplePacket, .source (some ⟨0, [some 512]⟩) ⟨[], []⟩] _ (by
      intro event member
      fin_cases member
      · show 2 ∣ (carried .debug samplePacket).length
        decide
      · exact ⟨nofun, nofun⟩) rfl⟩

/-- A packet whose payload is cut after one PCM byte. -/
def cutPacket : InPacket :=
  ⟨.completed, some [0x60, 0x21, 0x01, 0x04, 0x00, 0x00, 0x07], by decide⟩

/-- After the cut packet, the first sample served pairs bytes of two packets. -/
theorem not_served_samples : ∃ mic,
    run .debug SourceConfig.shipped
      [.onIn cutPacket, .onIn samplePacket, .source (some ⟨0, [some 2]⟩) ⟨[], []⟩] = .ok mic ∧
    ¬ ∀ serve ∈ mic.served, Framed 2 (Capture.IsSample mic.capture.packets) serve.got := by
  refine ⟨_, rfl, fun all => ?_⟩
  have framed := (all _ List.mem_cons_self).first (List.cons_ne_nil _ _)
  obtain ⟨packet, offset, low, high, _, frame, -⟩ := framed
  have bytes : [(⟨0x07, 0, 0⟩ : MicByte), ⟨0x05, 1, 0⟩] =
      [⟨low, packet, 2 * offset⟩, ⟨high, packet, 2 * offset + 1⟩] := frame
  injection bytes with first rest
  injection rest with second _
  have one := congrArg MicByte.packet second
  have zero := congrArg MicByte.packet first
  exact absurd (zero.trans one.symm) (by decide)

end Mic

end Wolverine.Iso
