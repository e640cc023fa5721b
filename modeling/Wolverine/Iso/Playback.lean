/-
**Playback as a system: `start`, `on_out` and the sink callbacks, interleaved.**

Sink callbacks run on the PipeWire thread and may come between any two ring operations of `on_out`;
`Arrivals` says which ones come where. A run starts with the transfers that `start` submits and
takes any list of events: sink callbacks, completions, diagnostics, the stop signal. The state
keeps, as history, the bytes the sink callbacks delivered, the ring bytes of every refilled packet
and every submitted transfer buffer.

* `refill_numbered` — one refill loop: its packets carry consecutive sequence numbers, and fill
  the transfer buffer from its start.
* `onOut_streamed` — one completion neither reorders nor splits a frame of the stream.
* `playback_integrity` — both over whole runs.
-/

import Wolverine.Iso.Out

namespace Wolverine.Iso

open Wolverine.Rust Wolverine.Gip Wolverine.Audio Wolverine.Frames

/-! ### The engine with its producer -/

/-- The engine, and every byte that the sink callbacks have delivered so far. -/
structure Feed where
  out : OutState
  delivered : List UInt8

/-- The sink callbacks that run between the ring operations of one `on_out`. -/
structure Arrivals where
  beforePrime : List Dequeued
  beforeTrim : List Dequeued
  beforeSkip : List Dequeued
  beforeRead : Nat → List Dequeued

/-- Every callback delivers a whole number of stereo frames. -/
structure Arrivals.Whole (arrivals : Arrivals) : Prop where
  beforePrime : ∀ buffer ∈ arrivals.beforePrime, WholeFrames buffer
  beforeTrim : ∀ buffer ∈ arrivals.beforeTrim, WholeFrames buffer
  beforeSkip : ∀ buffer ∈ arrivals.beforeSkip, WholeFrames buffer
  beforeRead : ∀ i, ∀ buffer ∈ arrivals.beforeRead i, WholeFrames buffer

/-- A refill: the engine after it, the transfer buffer, and the ring bytes of each packet. -/
structure Refill where
  feed : Feed
  base : List UInt8
  pcm : List (List UInt8)

namespace Feed

/-- One sink callback. -/
def sink (feed : Feed) (buffer : Dequeued) : Feed where
  out := { feed.out with play := sinkProcess buffer feed.out.play }
  delivered := feed.delivered ++ sinkBytes buffer

/-- Sink callbacks, in order. -/
def arrive (feed : Feed) (buffers : List Dequeued) : Feed := buffers.foldl sink feed

/-- The refill loop of `on_out` over its first `count` packets. -/
def refill (beforeRead : Nat → List Dequeued) (hlen : Nat) (feed : Feed) (base : List UInt8) :
    Nat → Refill
  | 0 => { feed, base, pcm := [] }
  | i + 1 =>
    let before := refill beforeRead hlen feed base i
    let feed := before.feed.arrive (beforeRead i)
    let (out, base, pcm) := feed.out.refillPacket hlen i before.base
    { feed := { feed with out }, base, pcm := before.pcm ++ [pcm] }

/-- `on_out` on the transfer buffer `base`; nothing is returned when it does not resubmit. -/
def onOut (feed : Feed) (status : TransferStatus) (arrivals : Arrivals) (base : List UInt8) :
    Option Refill :=
  if feed.out.running = false then none
  else if status = .noDevice ∨ status = .cancelled then none
  else
    let feed := feed.arrive arrivals.beforePrime
    let feed := { feed with out := feed.out.prime }
    let feed := feed.arrive arrivals.beforeTrim
    let excess := feed.out.trimExcess
    let feed := feed.arrive arrivals.beforeSkip
    let feed := { feed with out := feed.out.trim excess }
    some (feed.refill arrivals.beforeRead feed.out.outHdr.length base feed.out.outPktsPerXfer)

/-! ### The points of a call -/

/-- The call returns before it touches the engine. -/
def Guarded (feed : Feed) (status : TransferStatus) : Prop :=
  feed.out.running = false ∨ status = .noDevice ∨ status = .cancelled

instance (feed : Feed) (status : TransferStatus) : Decidable (feed.Guarded status) :=
  inferInstanceAs (Decidable (_ ∨ _))

/-- The engine when `on_out` considers the trim. -/
def entered (feed : Feed) (arrivals : Arrivals) : Feed :=
  let feed := feed.arrive arrivals.beforePrime
  let feed := { feed with out := feed.out.prime }
  feed.arrive arrivals.beforeTrim

/-- The engine when the refill loop of `on_out` starts. -/
def trimmed (feed : Feed) (arrivals : Arrivals) : Feed :=
  let excess := (feed.entered arrivals).out.trimExcess
  let feed := (feed.entered arrivals).arrive arrivals.beforeSkip
  { feed with out := feed.out.trim excess }

/-- The refill of a call that is not guarded. -/
def refilled (feed : Feed) (arrivals : Arrivals) (base : List UInt8) : Refill :=
  (feed.trimmed arrivals).refill arrivals.beforeRead (feed.trimmed arrivals).out.outHdr.length base
    (feed.trimmed arrivals).out.outPktsPerXfer

theorem onOut_eq (feed : Feed) (status : TransferStatus) (arrivals : Arrivals)
    (base : List UInt8) :
    feed.onOut status arrivals base =
      if feed.Guarded status then none else some (feed.refilled arrivals base) := by
  by_cases guarded : feed.Guarded status
  · rw [if_pos guarded, onOut]
    rcases guarded with stopped | gone
    · rw [if_pos stopped]
    · rw [if_pos gone]
      split <;> rfl
  · rw [if_neg guarded, onOut, if_neg fun stopped => guarded (Or.inl stopped),
      if_neg fun gone => guarded (Or.inr gone)]
    rfl

end Feed

/-! ### Runs -/

/-- Which of the two code paths submitted a transfer. -/
inductive Origin
  | start
  | onOut
  deriving DecidableEq, Repr

/-- A transfer buffer at the moment `libusb_submit_transfer` is called on it. -/
structure Submission where
  origin : Origin
  buffer : List UInt8
  deriving DecidableEq, Repr

structure Playback where
  feed : Feed
  /-- The buffers of the OUT transfers. -/
  bufs : List (List UInt8)
  submitted : List Submission
  /-- The ring bytes of every packet that `on_out` refilled. -/
  pcm : List (List UInt8)

inductive Event
  | sink (buffer : Dequeued)
  | onOut (xfer : Nat) (status : TransferStatus) (arrivals : Arrivals)
  | diagnostics
  | stop

/-- Every callback of the event delivers a whole number of stereo frames. -/
def Event.Whole : Event → Prop
  | .sink buffer => WholeFrames buffer
  | .onOut _ _ arrivals => arrivals.Whole
  | .diagnostics | .stop => True

namespace Playback

/-- `IsoAudio::start`: every OUT transfer is submitted as silence. -/
def start (config : OutConfig) : Playback :=
  let out := OutState.init config
  let outTotal := out.outPktSize * out.outPktsPerXfer
  let bufs := List.replicate config.outNumXfers (List.replicate outTotal 0)
  { feed := { out, delivered := [] }
    bufs
    submitted := bufs.map fun buffer => { origin := .start, buffer }
    pcm := [] }

/-- A refilled transfer is submitted again. -/
def resubmit (playback : Playback) (xfer : Nat) (refill : Refill) : Playback where
  feed := refill.feed
  bufs := playback.bufs.set xfer refill.base
  submitted := playback.submitted ++ [{ origin := .onOut, buffer := refill.base }]
  pcm := playback.pcm ++ refill.pcm

def step (playback : Playback) : Event → Playback
  | .sink buffer => { playback with feed := playback.feed.sink buffer }
  | .onOut xfer status arrivals =>
    match playback.bufs[xfer]? with
    | none => playback   -- there is no such transfer
    | some base =>
      match playback.feed.onOut status arrivals base with
      | none => playback
      | some refill => playback.resubmit xfer refill
  | .diagnostics =>
    { playback with feed := { playback.feed with out := playback.feed.out.diagnostics } }
  | .stop =>
    { playback with
      feed := { playback.feed with out := { playback.feed.out with running := false } } }

/-- `start` followed by any events. -/
def run (config : OutConfig) (events : List Event) : Playback := events.foldl step (start config)

/-- The iso packets of a submitted transfer. -/
def packets (playback : Playback) (submission : Submission) : List (List UInt8) :=
  pieces playback.feed.out.outPktSize playback.feed.out.outPktsPerXfer submission.buffer

/-- Every packet that `on_out` refilled, in order. -/
def refilled (playback : Playback) : List (List UInt8) :=
  (playback.submitted.filter (·.origin = .onOut)).flatMap playback.packets

end Playback

/-! ### One completion -/

namespace Feed

variable {pkts count : Nat}

theorem ready_arrive {feed : Feed} (ready : feed.out.Ready pkts count) (buffers : List Dequeued) :
    (feed.arrive buffers).out.Ready pkts count :=
  List.foldlRecOn (motive := fun feed => feed.out.Ready pkts count) buffers sink ready
    fun _ ready _ _ => ready.play _

/-- What one refill loop does to the engine, the buffer and the ring bytes. -/
structure Numbered (pkts count filled : Nat) (base : List UInt8) (refill : Refill) : Prop where
  ready : refill.feed.out.Ready pkts (count + filled)
  pcmLength : refill.pcm.length = filled
  fits : ∀ pcm ∈ refill.pcm, pcm.length ≤ outPcmBytes
  base : refill.base =
    (refill.pcm.mapIdx fun i pcm => outPacket (seqAt (count + i)) pcm).flatten ++
      base.drop (filled * outStride)

/-- The packets of a refill loop have one stride each. -/
theorem length_of_mem_packets {pcms : List (List UInt8)}
    (fits : ∀ pcm ∈ pcms, pcm.length ≤ outPcmBytes) (count : Nat) :
    ∀ packet ∈ pcms.mapIdx fun i pcm => outPacket (seqAt (count + i)) pcm,
      packet.length = outStride := by
  intro packet member
  obtain ⟨i, inside, rfl⟩ := List.mem_mapIdx.mp member
  exact length_outPacket _ (fits _ (List.getElem_mem inside))

/-- **The packets of one refill loop are numbered consecutively** and fill the buffer from its
start. -/
theorem refill_numbered (beforeRead : Nat → List Dequeued) {feed : Feed} {base : List UInt8}
    (ready : feed.out.Ready pkts count) (filled : Nat) (room : filled * outStride ≤ base.length) :
    Numbered pkts count filled base
      (refill beforeRead (outHeader 1).length feed base filled) := by
  induction filled with
  | zero =>
    refine ⟨ready, rfl, nofun, ?_⟩
    rw [Nat.zero_mul, List.drop_zero]
    rfl
  | succ i ih =>
    have space : (i + 1) * outStride = i * outStride + outStride := Nat.succ_mul i outStride
    have before := ih (by omega)
    rw [refill]
    generalize refill beforeRead (outHeader 1).length feed base i = prior at before ⊢
    have next := ready_arrive before.ready (beforeRead i)
    generalize prior.feed.arrive (beforeRead i) = fed at next ⊢
    have filledSoFar := before.base
    have framedLength := length_flatten (length_of_mem_packets before.fits count)
    rw [List.length_mapIdx, before.pcmLength] at framedLength
    generalize framedEq : prior.pcm.mapIdx (fun i pcm => outPacket (seqAt (count + i)) pcm) = framed
      at filledSoFar framedLength
    have written := OutState.refillPacket_base next framed.flatten (base.drop (i * outStride))
      framedLength (by rw [List.length_drop]; omega)
    rw [← filledSoFar, next.number, List.drop_drop, ← space] at written
    refine ⟨next.refillPacket (outHeader 1).length i prior.base, ?_, fun pcm member => ?_, ?_⟩
    · rw [List.length_append, before.pcmLength]
      rfl
    · rcases List.mem_append.mp member with earlier | here
      · exact before.fits pcm earlier
      · rw [List.mem_singleton.mp here]
        exact fed.out.length_refillPacket_pcm _ _ _
    · show (fed.out.refillPacket (outHeader 1).length i prior.base).2.1 = _
      rw [written, List.mapIdx_concat, framedEq, List.flatten_concat, before.pcmLength]

/-- **One completion.** The packets that `on_out` refills continue the numbering and fill the
transfer buffer. -/
theorem onOut_numbered {feed : Feed} {status : TransferStatus} {arrivals : Arrivals}
    {base : List UInt8} {refill : Refill} (ready : feed.out.Ready pkts count)
    (room : pkts * outStride = base.length)
    (resubmits : feed.onOut status arrivals base = some refill) :
    Numbered pkts count pkts base refill := by
  rw [onOut_eq] at resubmits
  split at resubmits
  · cases resubmits
  · have primed := (ready_arrive ready arrivals.beforePrime).prime
    have entered : (feed.entered arrivals).out.Ready pkts count :=
      ready_arrive primed arrivals.beforeTrim
    have trimmed : (feed.trimmed arrivals).out.Ready pkts count :=
      (ready_arrive entered arrivals.beforeSkip).trim _
    cases resubmits
    rw [refilled, trimmed.hlen, trimmed.pkts]
    exact refill_numbered arrivals.beforeRead trimmed pkts room.le

/-! ### The stream -/

/-- The bytes taken from the ring, followed by its content, are the delivered bytes with only
whole stereo frames removed. -/
def Streamed (feed : Feed) (taken : List UInt8) : Prop :=
  Ring.Flow 4 (Ring.new ringCapacity UInt8) feed.delivered taken feed.out.play

variable {taken : List UInt8}

theorem Streamed.sink {feed : Feed} (streamed : feed.Streamed taken) {buffer : Dequeued}
    (whole : WholeFrames buffer) : (feed.sink buffer).Streamed taken := by
  have written := Ring.Flow.trans (by decide) streamed
    (sinkProcess_flow (by decide) (by decide) streamed.aligned whole)
  rwa [List.append_nil] at written

theorem Streamed.arrive {feed : Feed} (streamed : feed.Streamed taken) {buffers : List Dequeued}
    (whole : ∀ buffer ∈ buffers, WholeFrames buffer) : (feed.arrive buffers).Streamed taken :=
  List.foldlRecOn (motive := fun feed => feed.Streamed taken) buffers Feed.sink streamed
    fun _ streamed buffer member => streamed.sink (whole buffer member)

theorem Streamed.prime {feed : Feed} (streamed : feed.Streamed taken) :
    { feed with out := feed.out.prime }.Streamed taken := by
  show Ring.Flow 4 (Ring.new ringCapacity UInt8) feed.delivered taken feed.out.prime.play
  rw [OutState.prime_play]
  exact streamed

/-- The trim removes whole frames. -/
theorem Streamed.trim {feed : Feed} (streamed : feed.Streamed taken) {excess : Option Nat}
    (aligned : ∀ count, excess = some count → 4 ∣ count) :
    { feed with out := feed.out.trim excess }.Streamed taken := by
  cases excess with
  | none => exact streamed
  | some count =>
    have skipped := Ring.Flow.trans (by decide) streamed
      (Ring.Flow.skip (by decide) streamed.aligned (aligned count rfl))
    rwa [List.append_nil, List.append_nil] at skipped

/-- A refill takes the next bytes of the stream. -/
theorem Streamed.refillPacket {feed : Feed} (streamed : feed.Streamed taken) (hlen i : Nat)
    (base : List UInt8) :
    { feed with out := (feed.out.refillPacket hlen i base).1 }.Streamed
      (taken ++ (feed.out.refillPacket hlen i base).2.2) := by
  have moved : Ring.Flow 4 feed.out.play [] (feed.out.refillPacket hlen i base).2.2
      (feed.out.refillPacket hlen i base).1.play := by
    cases primed : feed.out.primed with
    | true =>
      obtain ⟨pcm, rest⟩ := OutState.refillPacket_read primed hlen i base
      rw [pcm, rest]
      exact Ring.Flow.read (by decide) streamed.aligned (by decide)
    | false =>
      obtain ⟨pcm, rest⟩ := OutState.refillPacket_waiting primed hlen i base
      rw [pcm, rest]
      exact Ring.Flow.refl (by decide) streamed.aligned
  have joined := Ring.Flow.trans (by decide) streamed moved
  rwa [List.append_nil] at joined

theorem refill_streamed {beforeRead : Nat → List Dequeued} {feed : Feed}
    (whole : ∀ i, ∀ buffer ∈ beforeRead i, WholeFrames buffer) (streamed : feed.Streamed taken)
    (hlen : Nat) (base : List UInt8) (filled : Nat) :
    (refill beforeRead hlen feed base filled).feed.Streamed
      (taken ++ (refill beforeRead hlen feed base filled).pcm.flatten) := by
  induction filled with
  | zero =>
    show feed.Streamed (taken ++ [])
    rwa [List.append_nil]
  | succ i ih =>
    have next := (ih.arrive (whole i)).refillPacket hlen i
      (refill beforeRead hlen feed base i).base
    rw [List.append_assoc] at next
    rw [refill, List.flatten_concat]
    exact next

/-- **One completion neither reorders nor splits a frame of the stream.** -/
theorem onOut_streamed {feed : Feed} {status : TransferStatus} {arrivals : Arrivals}
    {base : List UInt8} {refill : Refill} (whole : arrivals.Whole) (streamed : feed.Streamed taken)
    (resubmits : feed.onOut status arrivals base = some refill) :
    refill.feed.Streamed (taken ++ refill.pcm.flatten) := by
  rw [onOut_eq] at resubmits
  split at resubmits
  · cases resubmits
  · have primed := (streamed.arrive whole.beforePrime).prime
    have entered : (feed.entered arrivals).Streamed taken := primed.arrive whole.beforeTrim
    have trimmed : (feed.trimmed arrivals).Streamed taken :=
      (entered.arrive whole.beforeSkip).trim fun count trims => OutState.trimExcess_aligned trims
    cases resubmits
    exact refill_streamed whole.beforeRead trimmed _ base _

end Feed

/-! ### Whole runs -/

/-- The packets that a refill leaves in the transfer buffer. -/
theorem Feed.Numbered.pieces {pkts count : Nat} {base : List UInt8} {refill : Refill}
    (numbered : Feed.Numbered pkts count pkts base refill) :
    pieces outStride pkts refill.base =
      refill.pcm.mapIdx fun i pcm => outPacket (seqAt (count + i)) pcm := by
  have sizes := Feed.length_of_mem_packets numbered.fits count
  have cut := pieces_flatten sizes (base.drop (pkts * outStride))
  rwa [List.length_mapIdx, numbered.pcmLength, ← numbered.base] at cut

theorem Feed.Numbered.length_base {pkts count : Nat} {base : List UInt8} {refill : Refill}
    (numbered : Feed.Numbered pkts count pkts base refill)
    (room : pkts * outStride = base.length) : pkts * outStride = refill.base.length := by
  rw [numbered.base, List.length_append, List.length_drop, ← room, Nat.sub_self, Nat.add_zero,
    length_flatten (Feed.length_of_mem_packets numbered.fits count), List.length_mapIdx,
    numbered.pcmLength]

namespace Playback

/-- What every step keeps. -/
structure Steady (config : OutConfig) (playback : Playback) : Prop where
  ready : playback.feed.out.Ready config.outPktsPerXfer playback.pcm.length
  bufs : ∀ base ∈ playback.bufs, config.outPktsPerXfer * outStride = base.length
  fits : ∀ pcm ∈ playback.pcm, pcm.length ≤ outPcmBytes
  refilled : playback.refilled = playback.pcm.mapIdx fun i pcm => outPacket (seqAt i) pcm
  silent : ∀ submission ∈ playback.submitted, submission.origin = .start →
    submission.buffer = List.replicate (outStride * config.outPktsPerXfer) 0
  started : ∃ submission ∈ playback.submitted, submission.origin = .start

theorem packets_eq {playback : Playback} {pkts count : Nat}
    (ready : playback.feed.out.Ready pkts count) :
    playback.packets = fun submission => pieces outStride pkts submission.buffer := by
  funext submission
  rw [packets, ready.stride, ready.pkts]

theorem steady_start (config : OutConfig) : Steady config (start config) := by
  refine ⟨OutState.Ready.init config, fun base member => ?_, nofun, ?_, ?_, ?_⟩
  · rw [List.eq_of_mem_replicate member, List.length_replicate]
    exact Nat.mul_comm _ _
  · show ((start config).submitted.filter (·.origin = .onOut)).flatMap _ = []
    rw [List.filter_eq_nil_iff.mpr, List.flatMap_nil]
    intro submission member
    obtain ⟨buffer, -, rfl⟩ := List.mem_map.mp member
    exact (of_decide_eq_false rfl : ¬ Origin.start = Origin.onOut) ∘ of_decide_eq_true
  · intro submission member _
    obtain ⟨buffer, inside, rfl⟩ := List.mem_map.mp member
    exact List.eq_of_mem_replicate inside
  · refine ⟨_, List.mem_map_of_mem (List.mem_replicate.mpr ⟨?_, rfl⟩), rfl⟩
    exact config.xfersPositive.ne'

/-- What a completion can do: nothing, or resubmit what `on_out` refilled. -/
theorem step_onOut (playback : Playback) (xfer : Nat) (status : TransferStatus)
    (arrivals : Arrivals) :
    playback.step (.onOut xfer status arrivals) = playback ∨
      ∃ base refill, base ∈ playback.bufs ∧
        playback.feed.onOut status arrivals base = some refill ∧
        playback.step (.onOut xfer status arrivals) = playback.resubmit xfer refill := by
  simp only [step]
  split
  · exact Or.inl rfl
  · rename_i base found
    split
    · exact Or.inl rfl
    · rename_i refill returned
      exact Or.inr ⟨base, refill, List.mem_of_getElem? found, returned, rfl⟩

theorem steady_resubmit {config : OutConfig} {playback : Playback}
    (steady : Steady config playback) (xfer : Nat) {base : List UInt8} {refill : Refill}
    (room : config.outPktsPerXfer * outStride = base.length)
    (numbered : Feed.Numbered config.outPktsPerXfer playback.pcm.length config.outPktsPerXfer base
      refill) : Steady config (playback.resubmit xfer refill) := by
  have ready : (playback.resubmit xfer refill).feed.out.Ready config.outPktsPerXfer
      (playback.resubmit xfer refill).pcm.length := by
    show refill.feed.out.Ready _ (playback.pcm ++ refill.pcm).length
    rw [List.length_append, numbered.pcmLength]
    exact numbered.ready
  refine ⟨ready, fun other member => ?_, fun pcm member => ?_, ?_, fun submission member => ?_, ?_⟩
  · rcases List.mem_or_eq_of_mem_set member with old | rfl
    · exact steady.bufs other old
    · exact numbered.length_base room
  · rcases List.mem_append.mp member with earlier | here
    · exact steady.fits pcm earlier
    · exact numbered.fits pcm here
  · have old := steady.refilled
    rw [refilled, packets_eq steady.ready] at old
    rw [refilled, packets_eq ready]
    show ((playback.submitted ++ [(_ : Submission)]).filter (·.origin = .onOut)).flatMap _ =
      (playback.pcm ++ refill.pcm).mapIdx _
    rw [List.filter_append, List.flatMap_append, old, List.mapIdx_append]
    refine congrArg _ ?_
    show Frames.pieces outStride config.outPktsPerXfer refill.base ++ [] = _
    rw [List.append_nil, numbered.pieces]
    simp only [Nat.add_comm]
  · rcases List.mem_append.mp member with earlier | here
    · exact steady.silent submission earlier
    · rw [List.mem_singleton.mp here]
      nofun
  · obtain ⟨submission, member, origin⟩ := steady.started
    exact ⟨submission, List.mem_append_left _ member, origin⟩

theorem steady_step {config : OutConfig} {playback : Playback} (steady : Steady config playback)
    (event : Event) : Steady config (playback.step event) := by
  have ready := steady.ready
  cases event with
  | sink buffer =>
    exact ⟨ready.play _, steady.bufs, steady.fits, steady.refilled, steady.silent, steady.started⟩
  | diagnostics =>
    exact ⟨⟨ready.header, ready.stride, ready.pkts, ready.number⟩, steady.bufs, steady.fits,
      steady.refilled, steady.silent, steady.started⟩
  | stop =>
    exact ⟨⟨ready.header, ready.stride, ready.pkts, ready.number⟩, steady.bufs, steady.fits,
      steady.refilled, steady.silent, steady.started⟩
  | onOut xfer status arrivals =>
    rcases step_onOut playback xfer status arrivals with
      same | ⟨base, refill, member, returned, same⟩
    · rw [same]
      exact steady
    · rw [same]
      have room := steady.bufs base member
      exact steady_resubmit steady xfer room (Feed.onOut_numbered ready room returned)

theorem steady_run (config : OutConfig) (events : List Event) :
    Steady config (run config events) :=
  List.foldlRecOn (motive := Steady config) events step (steady_start config)
    fun _ steady event _ => steady_step steady event

/-! ### The stream on the bus -/

theorem streamed_step {playback : Playback} {event : Event} (whole : event.Whole)
    (streamed : playback.feed.Streamed playback.pcm.flatten) :
    (playback.step event).feed.Streamed (playback.step event).pcm.flatten := by
  cases event with
  | sink buffer => exact streamed.sink whole
  | diagnostics => exact streamed
  | stop => exact streamed
  | onOut xfer status arrivals =>
    rcases step_onOut playback xfer status arrivals with same | ⟨base, refill, -, returned, same⟩
    · rw [same]
      exact streamed
    · rw [same]
      show refill.feed.Streamed (playback.pcm ++ refill.pcm).flatten
      rw [List.flatten_append]
      exact Feed.onOut_streamed whole streamed returned

theorem streamed_run (config : OutConfig) {events : List Event}
    (whole : ∀ event ∈ events, event.Whole) :
    (run config events).feed.Streamed (run config events).pcm.flatten :=
  List.foldlRecOn (motive := fun playback => playback.feed.Streamed playback.pcm.flatten) events
    step (Ring.Flow.refl (by decide) (by decide))
    fun _ streamed event member => streamed_step (whole event member) streamed

/-- **Playback stream integrity.** In every run, packet `i` that `on_out` refills decodes to an
AUDIO_SAMPLES frame numbered 1 to 255 cyclically, with the bytes read from the ring and then
silence as its 192 bytes of payload; the ring bytes of all packets are the delivered stream with
only whole stereo frames removed. -/
theorem playback_integrity (profile : Profile) (config : OutConfig) (events : List Event)
    (whole : ∀ event ∈ events, event.Whole) :
    (run config events).refilled.length = (run config events).pcm.length ∧
    (∀ i packet pcm, (run config events).refilled[i]? = some packet →
      (run config events).pcm[i]? = some pcm →
      ∃ seq hdrLen payload, decode profile packet = .ok (some
          { cmd := Cmd.audioSamples, options := optsInternal, seq, hdrLen, pktLen := 192
            chunkOffset := 0, payload }) ∧
        seq.toNat = i % 255 + 1 ∧ payload.length = 192 ∧
        payload = pcm ++ List.replicate (192 - pcm.length) 0) ∧
    Thinned 4 (run config events).feed.delivered (run config events).pcm.flatten := by
  have steady := steady_run config events
  refine ⟨?_, fun i packet pcm here ring => ?_, ?_⟩
  · rw [steady.refilled, List.length_mapIdx]
  · have fits := steady.fits pcm (List.mem_of_getElem? ring)
    rw [steady.refilled, List.getElem?_mapIdx, ring] at here
    cases here
    refine ⟨seqAt i, _, _, decode_outPacket profile (seqAt i) fits, toNat_seqAt i, ?_, rfl⟩
    rw [List.length_append, List.length_replicate]
    exact Nat.add_sub_cancel' fits
  · exact Ring.Flow.sent (by decide) (streamed_run config whole)

/-- One packet of real audio: the sink delivers 192 bytes, one completion sends them. -/
theorem playback_integrity_once :
    let config : OutConfig := ⟨1, 1, 192, by decide, by decide⟩
    let events : List Event :=
      [.sink (some [⟨some (List.replicate 192 1), 192, 0⟩]),
        .onOut 0 .completed ⟨[], [], [], fun _ => []⟩]
    (run config events).refilled.length = (run config events).pcm.length ∧
    (∀ i packet pcm, (run config events).refilled[i]? = some packet →
      (run config events).pcm[i]? = some pcm →
      ∃ seq hdrLen payload, decode .debug packet = .ok (some
          { cmd := Cmd.audioSamples, options := optsInternal, seq, hdrLen, pktLen := 192
            chunkOffset := 0, payload }) ∧
        seq.toNat = i % 255 + 1 ∧ payload.length = 192 ∧
        payload = pcm ++ List.replicate (192 - pcm.length) 0) ∧
    Thinned 4 (run config events).feed.delivered (run config events).pcm.flatten :=
  playback_integrity .debug _ _ (by
    intro event member
    fin_cases member
    · show 4 ∣ (sinkBytes (some [⟨some (List.replicate 192 1), 192, 0⟩])).length
      decide +kernel
    · exact ⟨nofun, nofun, nofun, nofun⟩)

/-! ### What is submitted -/

/-- The packet decodes to an AUDIO_SAMPLES packet with options 0x21, a non-zero sequence number and
a 192-byte payload. -/
def IsAudioFrame (packet : List UInt8) : Prop :=
  ∀ profile, ∃ pkt, decode profile packet = .ok (some pkt) ∧ pkt.cmd = Cmd.audioSamples ∧
    pkt.options = 0x21 ∧ pkt.seq ≠ 0 ∧ pkt.payload.length = 192

/-- Every iso packet of the submitted transfer is framed. -/
def Framed (playback : Playback) (submission : Submission) : Prop :=
  ∀ packet ∈ playback.packets submission, IsAudioFrame packet

theorem isAudioFrame_outPacket (i : Nat) {pcm : List UInt8} (fits : pcm.length ≤ outPcmBytes) :
    IsAudioFrame (outPacket (seqAt i) pcm) := by
  intro profile
  refine ⟨_, decode_outPacket profile (seqAt i) fits, rfl, rfl, ?_, ?_⟩
  · intro zero
    have value := toNat_seqAt i
    rw [show seqAt i = 0 from zero] at value
    exact absurd value (by simp)
  · rw [List.length_append, List.length_replicate]
    exact Nat.add_sub_cancel' fits

/-- A packet of zeros is not framed. -/
theorem not_isAudioFrame_zeros (count : Nat) : ¬ IsAudioFrame (List.replicate count 0) := by
  intro framed
  obtain ⟨pkt, accepted, cmd, -⟩ := framed .debug
  have first := (decode_fixed accepted).1
  rw [cmd, List.getD_eq_getElem?_getD, List.getElem?_replicate] at first
  split at first
  · exact absurd first (by decide)
  · exact absurd first (by decide)

variable {config : OutConfig} {playback : Playback}

/-- What `on_out` submits is framed. -/
theorem framed_of_onOut (steady : Steady config playback) {submission : Submission}
    (member : submission ∈ playback.submitted) (origin : submission.origin = .onOut) :
    playback.Framed submission := by
  intro packet inside
  have sent : packet ∈ playback.refilled :=
    List.mem_flatMap.mpr ⟨submission, List.mem_filter.mpr ⟨member, decide_eq_true origin⟩, inside⟩
  rw [steady.refilled] at sent
  obtain ⟨i, bound, rfl⟩ := List.mem_mapIdx.mp sent
  exact isAudioFrame_outPacket i (steady.fits _ (List.getElem_mem bound))

/-- What `start` submits is not framed. -/
theorem not_framed_of_start (steady : Steady config playback) {submission : Submission}
    (member : submission ∈ playback.submitted) (origin : submission.origin = .start) :
    ¬ playback.Framed submission := by
  intro framed
  have first : (submission.buffer.drop (0 * outStride)).take outStride ∈
      playback.packets submission := by
    rw [packets_eq steady.ready]
    exact List.mem_map.mpr ⟨0, List.mem_range.mpr config.pktsPositive, rfl⟩
  rw [steady.silent submission member origin, Nat.zero_mul, List.drop_zero,
    List.take_replicate] at first
  exact not_isAudioFrame_zeros _ (framed _ first)

/-- **Which submissions are framed**: in every run, exactly those made by `on_out`. The transfers
of `start` are submitted as raw zeros, so no run has all its submissions framed. -/
theorem submitted_framed_iff (config : OutConfig) (events : List Event) :
    (∀ submission ∈ (run config events).submitted,
      (run config events).Framed submission ↔ submission.origin = .onOut) ∧
    ¬ ∀ submission ∈ (run config events).submitted, (run config events).Framed submission := by
  have steady := steady_run config events
  refine ⟨fun submission member => ⟨fun framed => ?_, framed_of_onOut steady member⟩, fun all => ?_⟩
  · cases origin : submission.origin with
    | start => exact absurd framed (not_framed_of_start steady member origin)
    | onOut => rfl
  · obtain ⟨submission, member, origin⟩ := steady.started
    exact not_framed_of_start steady member origin (all submission member)

/-- The default settings, right after `start`. -/
theorem start_not_framed :
    ¬ ∀ submission ∈ (run ⟨8, 6, 192 * 40, by decide, by decide⟩ []).submitted,
      (run ⟨8, 6, 192 * 40, by decide, by decide⟩ []).Framed submission := by
  intro all
  obtain ⟨submission, member, origin⟩ :=
    (steady_start ⟨8, 6, 192 * 40, by decide, by decide⟩).started
  exact not_framed_of_start (steady_start _) member origin (all submission member)

end Playback

end Wolverine.Iso
