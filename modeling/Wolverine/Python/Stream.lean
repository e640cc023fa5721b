/-
**The synchronous playback loop of `gip_init.py`.**

`stream_audio_out` runs where the asynchronous engine cannot: in each turn it makes a frame out of
the playback ring, or of silence, unless one is pending, and tries to write it. The PipeWire thread
fills the ring at any time: before the turn looks at the ring, and between the look and the read. A
turn is given these writes and the outcome of `dev.write`. The counters that are only printed are
left out.

* `Steady` — the invariant: the frames made so far are those written and then the pending one, their
  numbers are consecutive, and the payloads of those that are not silence are what left the ring.
* `Steady.prepare`, `Steady.write` — making a frame and trying to write it keep the invariant.
* `Made`, `refill_ok` — where a frame is read from the ring.
* `stream_exactly_once` — so without a USB error other than a timeout, a run loses and doubles
  nothing.
-/

import Wolverine.Bridge.Ring
import Wolverine.Python.Decode

namespace Wolverine.Python

open Wolverine.Bridge Wolverine.Machine

/-! ### The loop -/

def gipCmdAudioSamples : Nat := 0x60
def ep3OutPcm : Nat := 192
def playPrimeBytes : Nat := ep3OutPcm * 20

def silencePcm : List UInt8 := List.replicate ep3OutPcm 0

/-- `wpw_playback_avail`, while the bridge is running. -/
def wpwPlaybackAvail (ring : RingT) : Int32 := (ring.head - ring.tail).toInt32

/-- `wpw_read_playback`, while the bridge is running. -/
def wpwReadPlayback (ring : RingT) (dst : Nat → UInt8) (len : Int32) :
    Int32 × (Nat → UInt8) × RingT :=
  if len ≤ 0 then (0, dst, ring)
  else
    let (got, dst, ring) := ringRead ring dst len.toUInt32
    (got.toInt32, dst, ring)

/-- What PipeWire plays in one `on_process_playback`. -/
structure Played where
  data : Nat → UInt8
  size : UInt32

/-- `on_process_playback`, for each buffer in turn. -/
def onProcessPlayback (ring : RingT) (played : List Played) : RingT :=
  played.foldl (fun ring buffer => ringWrite ring buffer.data buffer.size) ring

/-- How `dev.write` ends: it returns, or raises `USBTimeoutError` or another `USBError`. -/
inductive Outcome
  | written
  | timeout
  | usbError
  deriving DecidableEq

/-- What `dev.write` is given, and whether it holds silence. -/
structure Frame where
  bytes : List UInt8
  silence : Bool
  deriving DecidableEq

/-- The payload, behind the six bytes of the header. -/
def Frame.pcm (frame : Frame) : List UInt8 := frame.bytes.drop 6

/-- One call of `dev.write`, and what had left the ring by then. -/
structure Attempt where
  frame : Frame
  outcome : Outcome
  drained : List UInt8

/-- The local variables of `stream_audio_out` and the playback ring; `drained` and `attempts` record
what left the ring and the calls of `dev.write`. -/
structure Stream where
  ring : RingT
  outSeq : Nat
  rbuf : Nat → UInt8
  errors : Nat
  primed : Bool
  pending : Option (List UInt8)
  isSil : Bool
  /-- The loop was left. -/
  stopped : Bool
  drained : List UInt8
  attempts : List Attempt

/-- The loop is entered with whatever the ring holds. -/
def Stream.start (ring : RingT) : Stream where
  ring := ring
  outSeq := 1
  rbuf := fun _ => 0
  errors := 0
  primed := false
  pending := none
  isSil := true
  stopped := false
  drained := []
  attempts := []

/-- `frame`: the packet, and the next sequence number. -/
def frame (outSeq : Nat) (pcm : List UInt8) : Except PyError (List UInt8 × Nat) := do
  let hdr ← buildGipHeader gipCmdAudioSamples (gipClientId ||| gipOptInternal) outSeq ep3OutPcm none
  return (hdr ++ pcm, if outSeq < 255 then outSeq + 1 else 1)

/-- `pending = frame(pcm)`, and `is_sil`. -/
def Stream.prepare (stream : Stream) (pcm : List UInt8) (isSil : Bool) :
    Except PyError Stream := do
  let (pending, outSeq) ← frame stream.outSeq pcm
  return { stream with pending := some pending, outSeq, isSil }

/-- What left a ring in a read. -/
def readFrom (before after : RingT) : List UInt8 :=
  before.content.take (before.used - after.used)

/-- Make the next frame. `late` is played between the look at the ring and the read. -/
def Stream.refill (pw : Bool) (stream : Stream) (late : List Played) : Except PyError Stream :=
  if pw then
    let avail := (wpwPlaybackAvail stream.ring).toInt
    if !stream.primed then
      { stream with primed := decide (avail ≥ playPrimeBytes) }.prepare silencePcm true
    else if avail ≥ ep3OutPcm then
      let before := onProcessPlayback stream.ring late
      let (_, rbuf, ring) := wpwReadPlayback before stream.rbuf (Int32.ofNat ep3OutPcm)
      { stream with ring, rbuf, drained := stream.drained ++ readFrom before ring }.prepare
        (bytesAt rbuf ep3OutPcm) false
    else
      -- transient underrun: a gap of one frame only
      stream.prepare silencePcm true
  else stream.prepare silencePcm true

/-- Try to write the pending frame. -/
def Stream.write (stream : Stream) (pending : List UInt8) (outcome : Outcome) : Stream :=
  let stream := { stream with
    attempts := stream.attempts ++ [⟨⟨pending, stream.isSil⟩, outcome, stream.drained⟩] }
  match outcome with
  | .written => { stream with pending := none, errors := 0 }
  | .timeout => stream
  | .usbError =>
    { stream with
      errors := stream.errors + 1, pending := none, stopped := decide (stream.errors + 1 > 100) }

/-- What a turn of the loop meets. -/
structure Turn where
  early : List Played
  late : List Played
  outcome : Outcome

/-- One turn of the loop. -/
def turn (pw : Bool) (stream : Stream) (turn : Turn) : Except PyError Stream := do
  if stream.stopped then return stream
  let stream := { stream with ring := onProcessPlayback stream.ring turn.early }
  let stream ← if stream.pending.isNone then stream.refill pw turn.late else pure stream
  match stream.pending with
  | some pending => return stream.write pending turn.outcome
  | none => return stream

/-! ### What a run has done -/

/-- The frames written, in order. -/
def Stream.written (stream : Stream) : List Frame :=
  (stream.attempts.filter (·.outcome = .written)).map (·.frame)

/-- The frame that is made and not yet written. -/
def Stream.waiting (stream : Stream) : List Frame :=
  (stream.pending.map fun bytes => ⟨bytes, stream.isSil⟩).toList

/-- The payloads of the frames that are not silence. -/
def sound (frames : List Frame) : List UInt8 :=
  (frames.filter fun frame => !frame.silence).flatMap Frame.pcm

/-- After a timeout, the next call writes the same frame, and nothing left the ring in between. -/
def Retried (attempt next : Attempt) : Prop :=
  attempt.outcome = .timeout → next.frame = attempt.frame ∧ next.drained = attempt.drained

/-- What one turn makes of the ring. A new frame is read from it exactly where the loop was primed
and the ring held a frame; a look at the depth of 20 frames primes the loop, for good. -/
def Made (pw : Bool) (stream : Stream) (event : Turn) (next : Stream) : Prop :=
  let depth := (onProcessPlayback stream.ring event.early).used
  ∃ attempt, next.attempts = stream.attempts ++ [attempt] ∧
    (stream.pending = none → (attempt.frame.silence = false ↔
      pw = true ∧ stream.primed = true ∧ ep3OutPcm ≤ depth)) ∧
    (next.primed = true ↔
      stream.primed = true ∨ stream.pending = none ∧ pw = true ∧ playPrimeBytes ≤ depth)

/-- The header of an audio frame. -/
def audioHeader (outSeq : Nat) : List UInt8 := [0x60, 0x21, UInt8.ofNat outSeq, 0xC0, 0x81, 0x00]

/-- The frame with index `i` of those made. -/
structure WellMade (i : Nat) (frame : Frame) : Prop where
  header : frame.bytes = audioHeader (i % 255 + 1) ++ frame.pcm
  size : frame.pcm.length = ep3OutPcm
  silent : frame.silence = true → frame.pcm = silencePcm

/-- The invariant of the loop, up to the retries. -/
structure Steady (stream : Stream) : Prop where
  fits : stream.ring.used ≤ ringCap.toNat
  running : stream.stopped = false
  numbered : ∀ i made, (stream.written ++ stream.waiting)[i]? = some made → WellMade i made
  counter : stream.outSeq = (stream.written ++ stream.waiting).length % 255 + 1
  payloads : stream.drained = sound (stream.written ++ stream.waiting)
  retries : stream.attempts.IsChain Retried
  last : ∀ attempt ∈ stream.attempts.getLast?, attempt.outcome = .timeout →
    stream.waiting = [attempt.frame] ∧ stream.drained = attempt.drained

theorem steady_start {ring : RingT} (fits : ring.used ≤ ringCap.toNat) :
    Steady (Stream.start ring) where
  fits := fits
  running := rfl
  numbered := nofun
  counter := rfl
  payloads := rfl
  retries := List.isChain_nil
  last := nofun

/-! ### The ring -/

theorem used_onProcessPlayback {ring : RingT} (fits : ring.used ≤ ringCap.toNat)
    (played : List Played) :
    ring.used ≤ (onProcessPlayback ring played).used ∧
      (onProcessPlayback ring played).used ≤ ringCap.toNat := by
  induction played generalizing ring with
  | nil => exact ⟨le_rfl, fits⟩
  | cons buffer rest ih =>
    obtain ⟨grows, still⟩ := used_ringWrite fits buffer.data buffer.size
    obtain ⟨growsRest, stillRest⟩ := ih still
    exact ⟨grows.trans growsRest, stillRest⟩

/-- The depth is far below the range of an `int`. -/
theorem toInt_wpwPlaybackAvail {ring : RingT} (fits : ring.used ≤ ringCap.toNat) :
    (wpwPlaybackAvail ring).toInt = ring.used := by
  have small : (ring.head - ring.tail).toNat < 2 ^ 31 := lt_of_le_of_lt fits (by decide)
  show (ring.head - ring.tail).toBitVec.toInt = _
  rw [BitVec.toInt_eq_toNat_of_lt (by
    show 2 * (ring.head - ring.tail).toNat < 2 ^ 32
    omega)]
  rfl

/-- A full read: `rbuf` holds just what left the ring. -/
theorem wpwReadPlayback_full {ring : RingT} (enough : ep3OutPcm ≤ ring.used)
    (rbuf : Nat → UInt8) :
    bytesAt (wpwReadPlayback ring rbuf (Int32.ofNat ep3OutPcm)).2.1 ep3OutPcm =
        readFrom ring (wpwReadPlayback ring rbuf (Int32.ofNat ep3OutPcm)).2.2 ∧
      (wpwReadPlayback ring rbuf (Int32.ofNat ep3OutPcm)).2.2.used ≤ ring.used := by
  have read : wpwReadPlayback ring rbuf (Int32.ofNat ep3OutPcm) =
      ((ringRead ring rbuf 192).1.toInt32, (ringRead ring rbuf 192).2) := by
    rw [wpwReadPlayback, if_neg (by decide)]
    rfl
  have count : (ringRead ring rbuf 192).1.toNat = ep3OutPcm := by
    rw [toNat_ringRead_count]
    exact Nat.min_eq_left enough
  have bytes := bytesAt_ringRead ring rbuf 192
  have left := ringRead_used ring rbuf 192
  rw [count] at bytes left
  rw [read, readFrom, left, bytes]
  refine ⟨?_, Nat.sub_le _ _⟩
  rw [show ring.used - (ring.used - ep3OutPcm) = ep3OutPcm by omega]

/-! ### The steps -/

/-- Every sequence number of the cycle makes a frame. -/
theorem frame_eq {outSeq : Nat} (seqByte : outSeq ≤ 255) (pcm : List UInt8) :
    frame outSeq pcm =
      .ok (audioHeader outSeq ++ pcm, if outSeq < 255 then outSeq + 1 else 1) := by
  have header : headerOf gipCmdAudioSamples (gipClientId ||| gipOptInternal) outSeq ep3OutPcm none =
      audioHeader outSeq := by
    rw [headerOf, show lengthField ep3OutPcm none = [0xC0, 0x81, 0x00] by decide +kernel]
    rfl
  rw [frame, buildGipHeader_of_le (by decide) (by decide) seqByte, header]
  rfl

theorem sound_append (frames more : List Frame) :
    sound (frames ++ more) = sound frames ++ sound more := by
  rw [sound, List.filter_append, List.flatMap_append]
  rfl

theorem sound_singleton (frame : Frame) :
    sound [frame] = if frame.silence then [] else frame.pcm := by
  unfold sound
  cases silence : frame.silence
  · rw [List.filter_cons_of_pos (by rw [silence]; rfl)]
    exact List.append_nil _
  · rw [List.filter_cons_of_neg (by rw [silence]; decide)]
    rfl

/-- A frame that is made is pending; the latch and the calls stay as they are. -/
theorem prepare_ok {stream next : Stream} {pcm : List UInt8} {isSil : Bool}
    (prepared : stream.prepare pcm isSil = .ok next) :
    next.isSil = isSil ∧ next.primed = stream.primed ∧ next.attempts = stream.attempts ∧
      next.pending ≠ none := by
  obtain ⟨⟨pending, outSeq⟩, -, returned⟩ := ok_of_bind prepared
  cases returned
  exact ⟨rfl, rfl, rfl, nofun⟩

/-- **Where a frame is read from the ring**, and where the loop is primed. -/
theorem refill_ok {pw : Bool} {stream next : Stream} {late : List Played}
    (fits : stream.ring.used ≤ ringCap.toNat) (refilled : stream.refill pw late = .ok next) :
    (next.isSil = false ↔ pw = true ∧ stream.primed = true ∧ ep3OutPcm ≤ stream.ring.used) ∧
      (next.primed = true ↔
        stream.primed = true ∨ pw = true ∧ playPrimeBytes ≤ stream.ring.used) ∧
      next.attempts = stream.attempts ∧ next.pending ≠ none := by
  unfold Stream.refill at refilled
  cases pw with
  | false =>
    obtain ⟨silence, primed, same⟩ := prepare_ok refilled
    rw [silence, primed]
    exact ⟨by simp, by simp, same⟩
  | true =>
    simp only [if_true, toInt_wpwPlaybackAvail fits] at refilled
    cases primed : stream.primed with
    | false =>
      rw [primed] at refilled
      obtain ⟨silence, latched, same⟩ := prepare_ok refilled
      rw [silence, latched]
      exact ⟨by simp, by simp, same⟩
    | true =>
      rw [primed] at refilled
      simp only [Bool.not_true, Bool.false_eq_true, if_false, ge_iff_le, Nat.cast_le] at refilled
      by_cases enough : ep3OutPcm ≤ stream.ring.used
      · rw [if_pos enough] at refilled
        obtain ⟨sounds, still, same⟩ := prepare_ok refilled
        rw [sounds, still]
        exact ⟨iff_of_true rfl ⟨rfl, rfl, enough⟩, by simp, same⟩
      · rw [if_neg enough] at refilled
        obtain ⟨silence, still, same⟩ := prepare_ok refilled
        rw [silence, still]
        exact ⟨by simp [enough], by simp [primed], same⟩

/-- A frame more, with the next index. -/
theorem wellMade_concat {frames : List Frame} {frame : Frame}
    (numbered : ∀ i made, frames[i]? = some made → WellMade i made)
    (wellMade : WellMade frames.length frame) (i : Nat) (made : Frame)
    (found : (frames ++ [frame])[i]? = some made) : WellMade i made := by
  rcases lt_or_ge i frames.length with before | after
  · rw [List.getElem?_append_left before] at found
    exact numbered i made found
  · have inside := (List.getElem?_eq_some_iff.mp found).1
    rw [List.length_append, List.length_singleton] at inside
    obtain rfl : i = frames.length := by omega
    rw [List.getElem?_concat_length] at found
    cases found
    exact wellMade

namespace Steady

variable {stream : Stream}

/-- What is played into the ring changes nothing else. -/
theorem play (steady : Steady stream) {ring : RingT} (fits : ring.used ≤ ringCap.toNat) :
    Steady { stream with ring } :=
  ⟨fits, steady.running, steady.numbered, steady.counter, steady.payloads, steady.retries,
    steady.last⟩

/-- Where nothing is pending, the next frame gets the next number. -/
theorem prepare (steady : Steady stream) (free : stream.pending = none) {ring : RingT}
    (fits : ring.used ≤ ringCap.toNat) (rbuf : Nat → UInt8) (primed : Bool) {pcm : List UInt8}
    (size : pcm.length = ep3OutPcm) (isSil : Bool) (silent : isSil = true → pcm = silencePcm)
    {drained : List UInt8} (data : drained = stream.drained ++ if isSil then [] else pcm) :
    ∃ next, { stream with ring, rbuf, primed, drained }.prepare pcm isSil = .ok next ∧
      Steady next ∧ next.pending ≠ none ∧ next.attempts = stream.attempts := by
  have counter := steady.counter
  have bound : stream.outSeq ≤ 255 := by omega
  have none : stream.waiting = [] := by rw [Stream.waiting, free]; rfl
  have numbered := steady.numbered
  have payloads := steady.payloads
  rw [none, List.append_nil] at counter numbered payloads
  let made : Frame := ⟨audioHeader stream.outSeq ++ pcm, isSil⟩
  have wellMade : WellMade stream.written.length made :=
    ⟨by rw [← counter]; rfl, size, silent⟩
  refine ⟨_, bind_of_ok (frame_eq bound pcm) _, ?_, nofun, rfl⟩
  refine ⟨fits, steady.running, wellMade_concat numbered wellMade, ?_, ?_, steady.retries,
    fun attempt end_ timedOut => ?_⟩
  · show (if stream.outSeq < 255 then stream.outSeq + 1 else 1) =
      (stream.written ++ [made]).length % 255 + 1
    rw [List.length_append, List.length_singleton]
    split <;> omega
  · show drained = sound (stream.written ++ [made])
    rw [sound_append, sound_singleton, data, payloads]
    rfl
  · -- a call that timed out would have left its frame pending
    have waiting := (steady.last attempt end_ timedOut).1
    rw [none] at waiting
    cases waiting

/-- A turn without a pending frame makes one. -/
theorem refill (steady : Steady stream) (free : stream.pending = none) (pw : Bool)
    (late : List Played) :
    ∃ next, stream.refill pw late = .ok next ∧ Steady next ∧ next.pending ≠ none ∧
      next.attempts = stream.attempts := by
  have silence : ∀ primed, ∃ next, { stream with primed }.prepare silencePcm true = .ok next ∧
      Steady next ∧ next.pending ≠ none ∧ next.attempts = stream.attempts := fun primed =>
    steady.prepare free steady.fits stream.rbuf primed List.length_replicate true
      (fun _ => rfl) (List.append_nil _).symm
  unfold Stream.refill
  cases pw
  · exact silence stream.primed
  · rw [if_pos rfl]
    dsimp only
    cases primed : stream.primed
    · exact silence _
    · rw [if_neg (by decide), toInt_wpwPlaybackAvail steady.fits]
      by_cases enough : (stream.ring.used : Int) ≥ ep3OutPcm
      · rw [if_pos enough]
        obtain ⟨grows, fits⟩ := used_onProcessPlayback steady.fits late
        obtain ⟨bytes, less⟩ := wpwReadPlayback_full
          (le_trans (Int.ofNat_le.mp enough) grows) stream.rbuf
        refine steady.prepare free (less.trans fits) _ _ (length_bytesAt _ _) false
          (fun silent => absurd silent Bool.false_ne_true) ?_
        rw [bytes]
        rfl
      · rw [if_neg enough]
        exact silence stream.primed

theorem waiting_held {pending : List UInt8} (held : stream.pending = some pending) :
    stream.waiting = [⟨pending, stream.isSil⟩] := by
  rw [Stream.waiting, held]
  rfl

/-- A call that writes or times out keeps the frames. -/
theorem frames_write {pending : List UInt8} (held : stream.pending = some pending)
    {outcome : Outcome} (noUsbError : outcome ≠ .usbError) :
    (stream.write pending outcome).written ++ (stream.write pending outcome).waiting =
      stream.written ++ stream.waiting := by
  cases outcome with
  | usbError => exact absurd rfl noUsbError
  | timeout =>
    refine congrArg (· ++ stream.waiting) ?_
    rw [Stream.written, Stream.write, List.filter_append]
    simp [Stream.written]
  | written =>
    rw [waiting_held held, Stream.written, Stream.write, List.filter_append]
    simp [Stream.written, Stream.waiting]

/-- A call of `dev.write` keeps the frame or marks it written. -/
theorem write (steady : Steady stream) {pending : List UInt8} (held : stream.pending = some pending)
    {outcome : Outcome} (noUsbError : outcome ≠ .usbError) :
    Steady (stream.write pending outcome) := by
  have chain : (stream.attempts ++
      [(⟨⟨pending, stream.isSil⟩, outcome, stream.drained⟩ : Attempt)]).IsChain Retried := by
    refine List.isChain_append.mpr ⟨steady.retries, List.isChain_singleton _, ?_⟩
    intro attempt end_ next head timedOut
    cases head
    obtain ⟨same, drained⟩ := steady.last attempt end_ timedOut
    rw [waiting_held held] at same
    exact ⟨List.head_eq_of_cons_eq same, drained⟩
  have numbered := steady.numbered
  have counter := steady.counter
  have payloads := steady.payloads
  rw [← frames_write held noUsbError] at numbered counter payloads
  cases outcome with
  | usbError => exact absurd rfl noUsbError
  | timeout =>
    refine ⟨steady.fits, steady.running, numbered, counter, payloads, chain,
      fun attempt end_ _ => ?_⟩
    rw [Stream.write, List.getLast?_concat] at end_
    cases end_
    exact ⟨waiting_held held, rfl⟩
  | written =>
    refine ⟨steady.fits, steady.running, numbered, counter, payloads, chain,
      fun attempt end_ timedOut => ?_⟩
    rw [Stream.write, List.getLast?_concat] at end_
    cases end_
    cases timedOut

theorem attempts_write (stream : Stream) (pending : List UInt8) (outcome : Outcome) :
    (stream.write pending outcome).attempts.map (·.outcome) =
      stream.attempts.map (·.outcome) ++ [outcome] := by
  cases outcome <;> exact List.map_append

/-- One turn: one call of `dev.write`. -/
theorem turn (steady : Steady stream) (pw : Bool) {event : Turn}
    (noUsbError : event.outcome ≠ .usbError) :
    ∃ next, Python.turn pw stream event = .ok next ∧ Steady next ∧
      next.attempts.map (·.outcome) = stream.attempts.map (·.outcome) ++ [event.outcome] := by
  have played := steady.play (used_onProcessPlayback steady.fits event.early).2
  unfold Python.turn
  rw [if_neg (by rw [steady.running]; decide)]
  dsimp only
  cases free : stream.pending with
  | none =>
    obtain ⟨next, refilled, kept, held, same⟩ := played.refill free pw event.late
    obtain ⟨pending, held⟩ := Option.ne_none_iff_exists'.mp held
    refine ⟨next.write pending event.outcome, ?_, kept.write held noUsbError, ?_⟩
    · refine (bind_of_ok refilled _).trans ?_
      rw [held]
      rfl
    · rw [attempts_write, same]
  | some pending =>
    refine ⟨_, ?_, played.write free noUsbError, attempts_write _ _ _⟩
    refine (bind_of_ok rfl _).trans ?_
    dsimp only
    rw [free]
    rfl

theorem write_ok (stream : Stream) (pending : List UInt8) (outcome : Outcome) :
    (stream.write pending outcome).attempts =
        stream.attempts ++ [⟨⟨pending, stream.isSil⟩, outcome, stream.drained⟩] ∧
      (stream.write pending outcome).primed = stream.primed := by
  cases outcome <;> exact ⟨rfl, rfl⟩

/-- What a turn makes of the ring. -/
theorem made (steady : Steady stream) (pw : Bool) {event : Turn} {next : Stream}
    (turned : Python.turn pw stream event = .ok next) : Made pw stream event next := by
  have played := steady.play (used_onProcessPlayback steady.fits event.early).2
  unfold Python.turn at turned
  rw [if_neg (by rw [steady.running]; decide)] at turned
  dsimp only at turned
  cases free : stream.pending with
  | none =>
    rw [free] at turned
    obtain ⟨made, refilled, returned⟩ := ok_of_bind turned
    obtain ⟨silence, primed, same, held⟩ := refill_ok played.fits refilled
    obtain ⟨pending, held⟩ := Option.ne_none_iff_exists'.mp held
    rw [held] at returned
    cases returned
    obtain ⟨attempts, still⟩ := write_ok made pending event.outcome
    rw [same] at attempts
    refine ⟨_, attempts, fun _ => silence, ?_⟩
    rw [still, primed, free]
    simp
  | some pending =>
    rw [free] at turned
    obtain ⟨made, kept, returned⟩ := ok_of_bind turned
    cases kept
    dsimp only at returned
    cases returned
    obtain ⟨attempts, still⟩ := write_ok
      { stream with ring := onProcessPlayback stream.ring event.early, pending := some pending }
      pending event.outcome
    refine ⟨_, attempts, fun absent => ?_, ?_⟩
    · rw [free] at absent
      cases absent
    · rw [still, free]
      simp

end Steady

/-- Any calls leave a ring within its bounds. -/
theorem used_produce (memory : Fin ringCap.toNat → UInt8) (calls : List Call) :
    (produce RingT.call (ringInit memory) calls).1.used ≤ ringCap.toNat := by
  have simulates : ∀ ring queue call, Represents ring queue →
      Represents (ring.call call).1 (queueCall queue call).1 ∧
        (ring.call call).2 = (queueCall queue call).2 := fun _ _ call holds => holds.call call
  exact (produce_simulates simulates calls _ _ (represents_init memory)).1.bounded

/-- **The fallback delivers the audio exactly once.** Whatever the ring has seen before and whatever
is played meanwhile, as long as a write only succeeds or times out: every turn calls `dev.write`; a
new frame is read from the ring exactly where the loop is primed and the ring holds one, and silence
elsewhere; the frames written have the headers of the numbers 1, 2, .., 255, 1, ..; a frame that times out is
written again before anything else leaves the ring; and what left the ring is the payloads of the
written frames that are not silence, and then that of the pending one. -/
theorem stream_exactly_once (memory : Fin ringCap.toNat → UInt8) (calls : List Call) (pw : Bool)
    (turns : List Turn) (noUsbError : ∀ event ∈ turns, event.outcome ≠ .usbError) :
    ∃ stream, run (turn pw) (Stream.start (produce RingT.call (ringInit memory) calls).1) turns =
        .ok stream ∧
      stream.attempts.map (·.outcome) = turns.map (·.outcome) ∧
      (∀ before event after here, turns = before ++ event :: after →
        run (turn pw) (Stream.start (produce RingT.call (ringInit memory) calls).1) before =
          .ok here →
        ∃ next, turn pw here event = .ok next ∧ Made pw here event next) ∧
      (∀ i written, stream.written[i]? = some written → WellMade i written) ∧
      stream.attempts.IsChain Retried ∧
      (∀ attempt ∈ stream.attempts.getLast?, attempt.outcome = .timeout →
        stream.waiting = [attempt.frame] ∧ stream.drained = attempt.drained) ∧
      stream.drained = sound stream.written ++ sound stream.waiting ∧
      stream.waiting.length ≤ 1 := by
  have total : ∀ (done : List Turn) stream (event : Turn),
      (Steady stream ∧ stream.attempts.map (·.outcome) = done.map (·.outcome)) →
      event.outcome ≠ .usbError →
      ∃ next, turn pw stream event = .ok next ∧ Steady next ∧
        next.attempts.map (·.outcome) = (done ++ [event]).map (·.outcome) := by
    intro done stream event inv noUsbError
    obtain ⟨next, turned, steady, outcomes⟩ := inv.1.turn pw noUsbError
    refine ⟨next, turned, steady, ?_⟩
    rw [outcomes, inv.2, List.map_append]
    rfl
  have start : Steady (Stream.start (produce RingT.call (ringInit memory) calls).1) :=
    steady_start (used_produce memory calls)
  obtain ⟨stream, ran, steady, outcomes⟩ := run_total total turns [] _ ⟨start, rfl⟩ noUsbError
  refine ⟨stream, ran, outcomes, fun before event after here cut reached => ?_,
    fun i written found => ?_, steady.retries, steady.last, ?_, ?_⟩
  · have each : ∀ turn ∈ before, turn.outcome ≠ .usbError := fun turn member =>
      noUsbError turn (by rw [cut]; exact List.mem_append_left _ member)
    obtain ⟨same, returned, steady, -⟩ := run_total total before [] _ ⟨start, rfl⟩ each
    cases reached.symm.trans returned
    obtain ⟨next, turned, -, -⟩ := steady.turn pw (noUsbError event (by rw [cut]; simp))
    exact ⟨next, turned, steady.made pw turned⟩
  · refine steady.numbered i written ?_
    rw [List.getElem?_append_left (List.getElem?_eq_some_iff.mp found).1]
    exact found
  · rw [steady.payloads, sound_append]
  · rw [Stream.waiting]
    cases stream.pending with
    | none => exact Nat.zero_le 1
    | some pending => exact le_rfl

/-- A timeout, its retry, and a frame behind it, with what is played in between. -/
def primedTurns : List Turn :=
  [⟨[], [], .written⟩, ⟨[], [], .timeout⟩, ⟨[⟨fun _ => 1, 960⟩], [], .written⟩,
    ⟨[], [⟨fun _ => 2, 960⟩], .written⟩]

/-- 22 frames in the ring prime the loop: behind a frame of silence it writes two of sound. -/
theorem stream_exactly_once_primed :
    ∃ stream, run (turn true) (Stream.start
        (produce RingT.call (ringInit fun _ => 0) [.write (fun i => UInt8.ofNat i) 4224]).1)
        primedTurns = .ok stream ∧
      stream.primed = true ∧ stream.written.map (·.silence) = [true, false, false] ∧
      stream.attempts.map (·.outcome) = [.written, .timeout, .written, .written] ∧
      stream.attempts.IsChain Retried ∧
      stream.drained = sound stream.written ++ sound stream.waiting := by
  obtain ⟨stream, ran, outcomes, _, _, retries, _, payloads, _⟩ := stream_exactly_once (fun _ => 0)
    [.write (fun i => UInt8.ofNat i) 4224] true primedTurns (by simp [primedTurns])
  have seen : (run (turn true) (Stream.start
      (produce RingT.call (ringInit fun _ => 0) [.write (fun i => UInt8.ofNat i) 4224]).1)
      primedTurns).map (fun stream => (stream.primed, stream.written.map (·.silence))) =
        .ok (true, [true, false, false]) := by decide +kernel
  rw [ran] at seen
  obtain ⟨primed, silence⟩ := Prod.mk.inj (Except.ok.inj seen)
  exact ⟨stream, ran, primed, silence, outcomes, retries, payloads⟩

end Wolverine.Python
