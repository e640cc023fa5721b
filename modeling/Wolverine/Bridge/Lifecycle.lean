/-
**The public API of `wolverine_pw.c`.**

The driver calls the bridge through one static record `g`: it starts and stops it, asks how much
is to be played, reads what is played and writes what is captured; while it is running, PipeWire
plays and records on its own thread. `wpw_start` clears the record before it allocates, and returns
at its first failure. A ledger counts what is alive of each kind.

* `Session` and `spec` — the bridge as its callers see it: nothing, or two bounded queues.
* `G.step_refines` — one call.
* `G.Accounted` — what is alive: the session, and what failed starts have left.
* `bridge_sessions` — every sequence of calls.
-/

import Wolverine.Bridge.Capture
import Wolverine.Python.Stream

namespace Wolverine.Bridge

open Wolverine.Cyclic Wolverine.Machine
open Wolverine.Python (Played onProcessPlayback wpwPlaybackAvail wpwReadPlayback)

/-! ### The record -/

/-- What `wpw_start` acquires. -/
inductive Kind
  | loop
  /-- The thread of a loop. -/
  | thread
  | context
  | core
  | stream
  /-- The memory of a ring. -/
  | ring
  deriving DecidableEq, Repr

/-- The static record, and how many objects of each kind are alive. A pointer is whether it is not
null. -/
structure G where
  loop : Bool
  context : Bool
  core : Bool
  playback : Bool
  capture : Bool
  format : Option InFormat
  playRing : Option RingT
  capRing : Option RingT
  running : Bool
  alive : Kind → Int

/-- The record of a program that has just started. -/
def G.zero : G where
  loop := false
  context := false
  core := false
  playback := false
  capture := false
  format := none
  playRing := none
  capRing := none
  running := false
  alive := fun _ => 0

namespace G

def acquire (g : G) (kind : Kind) : G :=
  { g with alive := Function.update g.alive kind (g.alive kind + 1) }

def release (g : G) (kind : Kind) : G :=
  { g with alive := Function.update g.alive kind (g.alive kind - 1) }

/-- Release what a pointer refers to, if it is not null. -/
def releaseIf (g : G) (pointer : Bool) (kind : Kind) : G := if pointer then g.release kind else g

end G

/-- What PipeWire answers to a start, and what `malloc` finds in memory. -/
structure StartAnswers where
  loop : Bool
  context : Bool
  loopStart : Bool
  core : Bool
  playMemory : Fin ringCap.toNat → UInt8
  capMemory : Fin ringCap.toNat → UInt8

/-- `memset` of the record, and `ring_init` of both rings. -/
def G.clear (g : G) (format : InFormat) (answers : StartAnswers) : G :=
  ({ G.zero with
    alive := g.alive
    format := some format
    playRing := some (ringInit answers.playMemory)
    capRing := some (ringInit answers.capMemory) }.acquire .ring).acquire .ring

/-- `wpw_start`. -/
def wpwStart (g : G) (format : InFormat) (answers : StartAnswers) : G × Int :=
  if g.running then (g, 0)
  else
    let g := g.clear format answers
    if answers.loop = false then (g, -1)
    else
      let g := { g with loop := true }.acquire .loop
      if answers.context = false then (g, -2)
      else
        let g := { g with context := true }.acquire .context
        if answers.loopStart = false then (g, -3)
        else
          let g := g.acquire .thread
          if answers.core = false then (g, -4)
          else
            let g := { g with core := true }.acquire .core
            let g := { g with playback := true }.acquire .stream
            let g := { g with capture := true }.acquire .stream
            ({ g with running := true }, 0)

/-- `wpw_stop`. -/
def wpwStop (g : G) : G :=
  if g.running = false then g
  else
    let g := g.releaseIf g.loop .thread
    let g := g.releaseIf g.playback .stream
    let g := g.releaseIf g.capture .stream
    let g := g.releaseIf g.core .core
    let g := g.releaseIf g.context .context
    let g := g.releaseIf g.loop .loop
    let g := ({ g with playRing := none }.release .ring)
    let g := ({ g with capRing := none }.release .ring)
    { g with running := false }

/-! ### Calls -/

inductive ApiCall
  | start (format : InFormat) (answers : StartAnswers)
  | stop
  | playbackAvail
  | readPlayback (dst : Nat → UInt8) (len : Int32)
  | writeCapture (src : Nat → UInt8) (len : Int32)
  /-- PipeWire plays a buffer. -/
  | processPlayback (buffer : Played)
  /-- PipeWire asks for a buffer. -/
  | processCapture (b : Option PwBuffer)

/-- What a call returns, and the bytes that it hands out. -/
structure Answer where
  code : Int
  bytes : List UInt8
  deriving DecidableEq, Repr

/-- There is nothing to hand out. -/
def Answer.code_ (code : Int) : Answer := ⟨code, []⟩

/-- The bytes of a filled buffer. -/
def Filled.bytes (filled : Option (PwBuffer × Filled)) : List UInt8 :=
  match filled with
  | some (_, filled) => bytesAt filled.data filled.size.toNat
  | none => []

/-- A call, or a callback of a stream that was connected. -/
def G.step (g : G) : ApiCall → G × Answer
  | .start format answers =>
    let (g, code) := wpwStart g format answers
    (g, .code_ code)
  | .stop => (wpwStop g, .code_ 0)
  | .playbackAvail =>
    match g.running, g.playRing with
    | true, some ring => (g, .code_ (wpwPlaybackAvail ring).toInt)
    | _, _ => (g, .code_ 0)
  | .readPlayback dst len =>
    match g.running, g.playRing with
    | true, some ring =>
      let (got, dst, ring) := wpwReadPlayback ring dst len
      ({ g with playRing := some ring }, ⟨got.toInt, bytesAt dst got.toNatClampNeg⟩)
    | _, _ => (g, .code_ 0)
  | .writeCapture src len =>
    match g.running, g.capRing with
    | true, some ring =>
      let (sent, ring) := wpwWriteCapture ring src len
      ({ g with capRing := some ring }, .code_ sent.toInt)
    | _, _ => (g, .code_ 0)
  | .processPlayback buffer =>
    match g.running, g.playRing with
    | true, some ring => ({ g with playRing := some (onProcessPlayback ring [buffer]) }, .code_ 0)
    | _, _ => (g, .code_ 0)
  | .processCapture b =>
    match g.running, g.capRing, g.format with
    | true, some ring, some format =>
      let (ring, filled) := onProcessCapture format ring b
      ({ g with capRing := some ring }, ⟨0, Filled.bytes filled⟩)
    | _, _, _ => (g, .code_ 0)

/-! ### Sessions -/

/-- What the callers see of a bridge that is running. -/
structure Session where
  format : InFormat
  /-- What is to be played. -/
  play : Queue ringCap.toNat UInt8
  /-- What was captured. -/
  cap : Queue ringCap.toNat UInt8

/-- What a start returns that has something to do. -/
def startCode (answers : StartAnswers) : Int :=
  if answers.loop = false then -1
  else if answers.context = false then -2
  else if answers.loopStart = false then -3
  else if answers.core = false then -4
  else 0

namespace Session

def fresh (format : InFormat) : Session := ⟨format, Queue.empty _ _, Queue.empty _ _⟩

/-- A call, while the bridge is running. -/
def call (session : Session) : ApiCall → Option Session × Answer
  | .start _ _ => (some session, .code_ 0)   -- it is running already
  | .stop => (none, .code_ 0)
  | .playbackAvail => (some session, .code_ session.play.items.length)
  | .readPlayback _ len =>
    let (taken, play) := session.play.read len.toNatClampNeg
    (some { session with play }, ⟨taken.length, taken⟩)
  | .writeCapture src len =>
    (some { session with cap := session.cap.write (pushed src len) },
      .code_ (pushed src len).length)
  | .processPlayback buffer =>
    (some { session with play := session.play.write (bytesAt buffer.data buffer.size.toNat) },
      .code_ 0)
  | .processCapture none => (some session, .code_ 0)
  | .processCapture (some b) =>
    if b.data = none then (some session, .code_ 0)
    else
      let size := (nbytes session.format b).toNat
      let (taken, cap) := session.cap.read size
      (some { session with cap }, ⟨0, taken ++ List.replicate (size - taken.length) 0⟩)

end Session

/-- **The bridge as its callers see it.** -/
def spec (session : Option Session) (call : ApiCall) : Option Session × Answer :=
  match session, call with
  | some session, call => session.call call
  | none, .start format answers =>
    (if startCode answers = 0 then some (Session.fresh format) else none,
      .code_ (startCode answers))
  | none, _ => (none, .code_ 0)

/-- The record is the one of a session. -/
structure G.Runs (g : G) (session : Session) : Prop where
  running : g.running = true
  format : g.format = some session.format
  play : ∃ ring, g.playRing = some ring ∧ Represents ring session.play
  cap : ∃ ring, g.capRing = some ring ∧ Represents ring session.cap

/-- The record of a session, or of none. -/
def G.Shows (g : G) : Option Session → Prop
  | none => g.running = false
  | some session => g.Runs session

theorem G.Shows.isSome {g : G} {session : Option Session} (shows_ : g.Shows session) :
    session.isSome = g.running := by
  cases session with
  | none => exact Eq.symm shows_
  | some session => exact (G.Runs.running shows_).symm

section Refines

variable {g : G} {session : Session}

/-- A depth is far below the range of an `int`. -/
theorem toInt_toInt32 {count : UInt32} (small : count.toNat ≤ ringCap.toNat) :
    count.toInt32.toInt = count.toNat := by
  rw [ringCap_toNat] at small
  show count.toBitVec.toInt = _
  rw [BitVec.toInt_eq_toNat_of_lt (by
    show 2 * count.toNat < 2 ^ 32
    omega)]
  rfl

theorem toNatClampNeg_nonpos {len : Int32} (none : len ≤ 0) : len.toNatClampNeg = 0 :=
  Int.toNat_of_nonpos (Int32.le_iff_toInt_le.mp none)

/-- A read of the playback side. -/
theorem wpwReadPlayback_queue {ring : RingT} {queue : Queue ringCap.toNat UInt8}
    (holds : Represents ring queue) (dst : Nat → UInt8) (len : Int32) :
    ∃ got dst' after, wpwReadPlayback ring dst len = (got, dst', after) ∧
      got.toInt = (queue.read len.toNatClampNeg).1.length ∧
      bytesAt dst' got.toNatClampNeg = (queue.read len.toNatClampNeg).1 ∧
      Represents after (queue.read len.toNatClampNeg).2 := by
  unfold wpwReadPlayback
  by_cases none : len ≤ 0
  · rw [if_pos none, toNatClampNeg_nonpos none]
    exact ⟨0, dst, ring, rfl, rfl, rfl, holds⟩
  · have positive : 0 ≤ len := Int32.le_of_lt (Int32.not_le.mp none)
    obtain ⟨bytes, rest⟩ := holds.read dst len.toUInt32
    have count := toNat_ringRead_count ring dst len.toUInt32
    have small : (ringRead ring dst len.toUInt32).1.toNat ≤ ringCap.toNat := by
      rw [count]
      exact (Nat.min_le_right _ _).trans holds.bounded
    have code := toInt_toInt32 small
    have clamped : (ringRead ring dst len.toUInt32).1.toInt32.toNatClampNeg =
        (ringRead ring dst len.toUInt32).1.toNat := by
      rw [Int32.toNatClampNeg, code, Int.toNat_natCast]
    rw [if_neg none, ← Int32.toNat_toUInt32_of_le positive]
    exact ⟨(ringRead ring dst len.toUInt32).1.toInt32, (ringRead ring dst len.toUInt32).2.1,
      (ringRead ring dst len.toUInt32).2.2, rfl,
      by rw [code, count, Queue.read_fst, List.length_take, holds.length],
      by rw [clamped, bytes], rest⟩

/-- A write of the capture side. -/
theorem wpwWriteCapture_queue {ring : RingT} {queue : Queue ringCap.toNat UInt8}
    (holds : Represents ring queue) (src : Nat → UInt8) (len : Int32) :
    (wpwWriteCapture ring src len).1.toInt = (pushed src len).length ∧
      Represents (wpwWriteCapture ring src len).2 (queue.write (pushed src len)) := by
  rw [wpwWriteCapture, pushed, length_bytesAt]
  by_cases none : len ≤ 0
  · rw [if_pos none, toNatClampNeg_nonpos none]
    refine ⟨rfl, holds.trans ?_⟩
    rw [Queue.write_items, rtake_append queue.fits]
    simp [bytesAt]
  · have positive : 0 ≤ len := Int32.le_of_lt (Int32.not_le.mp none)
    rw [if_neg none, ← Int32.toNat_toUInt32_of_le positive]
    refine ⟨?_, holds.write src len.toUInt32⟩
    rw [Int32.toNat_toUInt32_of_le positive]
    exact (Int.toNat_of_nonneg (Int32.le_iff_toInt_le.mp positive)).symm

/-- A request that is filled. -/
theorem onProcessCapture_queue {ring : RingT} {queue : Queue ringCap.toNat UInt8}
    (holds : Represents ring queue) (format : InFormat) {b : PwBuffer} {data : Nat → UInt8}
    (mapped : b.data = some data) :
    let taken := (queue.read (nbytes format b).toNat).1
    Filled.bytes (onProcessCapture format ring (some b)).2 =
        taken ++ List.replicate ((nbytes format b).toNat - taken.length) 0 ∧
      Represents (onProcessCapture format ring (some b)).1
        (queue.read (nbytes format b).toNat).2 := by
  obtain ⟨bytes, rest⟩ := holds.read data (nbytes format b)
  rw [onProcessCapture_mapped format ring mapped]
  refine ⟨(bytesAt_padded _ (ringRead_le ring data _)).trans (congrArg₂ _ bytes ?_), rest⟩
  rw [toNat_ringRead_count, Queue.read_fst, List.length_take, holds.length]

theorem start_shows (idle : g.running = false) (format : InFormat) (answers : StartAnswers) :
    (wpwStart g format answers).1.Shows
        (if startCode answers = 0 then some (Session.fresh format) else none) ∧
      (wpwStart g format answers).2 = startCode answers := by
  have play := represents_init answers.playMemory
  have cap := represents_init answers.capMemory
  rcases answers with ⟨loop, context, loopStart, core, playMemory, capMemory⟩
  unfold wpwStart startCode
  rw [idle]
  cases loop
  · exact ⟨rfl, rfl⟩
  cases context
  · exact ⟨rfl, rfl⟩
  cases loopStart
  · exact ⟨rfl, rfl⟩
  cases core
  · exact ⟨rfl, rfl⟩
  exact ⟨⟨rfl, rfl, ⟨_, rfl, play⟩, ⟨_, rfl, cap⟩⟩, rfl⟩

theorem stop_shows (g : G) : (wpwStop g).Shows none := by
  unfold wpwStop
  cases idle : g.running with
  | false => exact idle
  | true => rfl

/-- **One call** is one of the session. -/
theorem step_refines {session : Option Session} (shows_ : g.Shows session) (call : ApiCall) :
    (g.step call).1.Shows (spec session call).1 ∧ (g.step call).2 = (spec session call).2 := by
  cases session with
  | none =>
    have idle : g.running = false := shows_
    cases call with
    | start format answers =>
      obtain ⟨after, code⟩ := start_shows idle format answers
      exact ⟨after, congrArg Answer.code_ code⟩
    | stop => exact ⟨stop_shows g, rfl⟩
    | playbackAvail | readPlayback | writeCapture | processPlayback | processCapture =>
      simp only [G.step, idle]
      exact ⟨idle, rfl⟩
  | some session =>
    have runs : g.Runs session := shows_
    obtain ⟨play, playRing, playHolds⟩ := runs.play
    obtain ⟨cap, capRing, capHolds⟩ := runs.cap
    cases call with
    | start format answers =>
      simp only [G.step, wpwStart, runs.running]
      exact ⟨runs, rfl⟩
    | stop => exact ⟨stop_shows g, rfl⟩
    | playbackAvail =>
      simp only [G.step, runs.running, playRing]
      refine ⟨runs, congrArg Answer.code_ ?_⟩
      rw [Python.toInt_wpwPlaybackAvail playHolds.bounded, playHolds.length]
    | readPlayback dst len =>
      obtain ⟨got, dst', after, read, code, bytes, rest⟩ :=
        wpwReadPlayback_queue playHolds dst len
      simp only [G.step, runs.running, playRing, read, code, bytes]
      exact ⟨⟨rfl, runs.format, ⟨_, rfl, rest⟩, ⟨cap, capRing, capHolds⟩⟩, rfl⟩
    | writeCapture src len =>
      obtain ⟨sent, rest⟩ := wpwWriteCapture_queue capHolds src len
      simp only [G.step, runs.running, capRing]
      exact ⟨⟨rfl, runs.format, ⟨play, playRing, playHolds⟩, ⟨_, rfl, rest⟩⟩,
        congrArg Answer.code_ sent⟩
    | processPlayback buffer =>
      simp only [G.step, runs.running, playRing]
      exact ⟨⟨rfl, runs.format, ⟨_, rfl, playHolds.write _ _⟩, ⟨cap, capRing, capHolds⟩⟩, rfl⟩
    | processCapture b =>
      simp only [G.step, runs.running, capRing, runs.format]
      have passed : (G.Shows { g with format := some session.format, running := true
                                      capRing := some cap } (some session)) :=
        ⟨rfl, rfl, ⟨play, playRing, playHolds⟩, ⟨cap, rfl, capHolds⟩⟩
      cases b with
      | none => exact ⟨passed, rfl⟩
      | some b =>
        cases mapped : b.data with
        | none =>
          have call : onProcessCapture session.format cap (some b) = (cap, none) := by
            rw [onProcessCapture]
            simp only [mapped]
          simp only [spec, Session.call, mapped, call]
          exact ⟨passed, rfl⟩
        | some data =>
          obtain ⟨filled, rest⟩ := onProcessCapture_queue capHolds session.format mapped
          simp only [spec, Session.call, mapped, filled]
          exact ⟨⟨rfl, rfl, ⟨play, playRing, playHolds⟩, ⟨_, rfl, rest⟩⟩, rfl⟩

end Refines

/-! ### What is alive -/

/-- How many of a kind a bridge that is running has. -/
def Kind.owned : Kind → Int
  | .stream | .ring => 2
  | .loop | .thread | .context | .core => 1

/-- What a start that returns a code leaves of a kind: nothing releases what it acquired before it
failed. -/
def left (code : Int) (kind : Kind) : Int :=
  match kind with
  | .ring => if code ≤ -1 then 2 else 0
  | .loop => if code ≤ -2 then 1 else 0
  | .context => if code ≤ -3 then 1 else 0
  | .thread => if code ≤ -4 then 1 else 0
  | .core | .stream => 0

theorem left_of_nonneg {code : Int} (done : 0 ≤ code) : left code = 0 := by
  funext kind
  cases kind <;> simp [left] <;> omega

/-- A record that is running has all of its objects. -/
def G.Whole (g : G) : Prop :=
  g.running = true →
    g.loop = true ∧ g.context = true ∧ g.core = true ∧ g.playback = true ∧ g.capture = true

/-- What is alive beyond what the record has. -/
def G.stray (g : G) (kind : Kind) : Int := g.alive kind - if g.running then kind.owned else 0

section Ledger

variable {g : G}

theorem stray_idle (idle : g.running = false) : g.stray = g.alive := by
  funext kind
  rw [G.stray, idle, if_neg Bool.false_ne_true, sub_zero]

/-- A start, while nothing is running. -/
theorem start_ledger (idle : g.running = false) (format : InFormat) (answers : StartAnswers) :
    (wpwStart g format answers).1.Whole ∧
      (wpwStart g format answers).1.stray = g.stray + left (wpwStart g format answers).2 := by
  have failed : ∀ (after : G) (code : Int), after.running = false →
      after.alive = g.alive + left code → after.Whole ∧ after.stray = g.alive + left code := by
    intro after code stopped alive
    refine ⟨fun running => ?_, (stray_idle stopped).trans alive⟩
    rw [stopped] at running
    cases running
  rcases answers with ⟨loop, context, loopStart, core, playMemory, capMemory⟩
  rw [stray_idle idle]
  unfold wpwStart
  rw [idle]
  -- one case for each failure, in the order of the source, and the start that succeeds
  cases loop
  · refine failed _ _ rfl (funext fun kind => ?_)
    cases kind <;> simp [G.clear, G.acquire, left, add_assoc]
  cases context
  · refine failed _ _ rfl (funext fun kind => ?_)
    cases kind <;> simp [G.clear, G.acquire, left, add_assoc]
  cases loopStart
  · refine failed _ _ rfl (funext fun kind => ?_)
    cases kind <;> simp [G.clear, G.acquire, left, add_assoc]
  cases core
  · refine failed _ _ rfl (funext fun kind => ?_)
    cases kind <;> simp [G.clear, G.acquire, left, add_assoc]
  refine ⟨fun _ => ⟨rfl, rfl, rfl, rfl, rfl⟩, funext fun kind => ?_⟩
  cases kind <;> simp [G.stray, G.clear, G.acquire, Kind.owned, left, add_assoc]

theorem stop_ledger (whole : g.Whole) : (wpwStop g).Whole ∧ (wpwStop g).stray = g.stray := by
  unfold wpwStop
  cases running : g.running with
  | false => exact ⟨whole, rfl⟩
  | true =>
    obtain ⟨loop, context, core, playback, capture⟩ := whole running
    refine ⟨nofun, (stray_idle rfl).trans (funext fun kind => ?_)⟩
    cases kind <;>
      simp [G.stray, G.releaseIf, G.release, Kind.owned, running, loop, context, core, playback,
        capture, sub_sub]

/-- A call that neither starts nor stops. -/
def ApiCall.moves : ApiCall → Bool
  | .start _ _ | .stop => false
  | _ => true

/-- It changes only the rings. -/
theorem step_frame (g : G) {call : ApiCall} (moves : call.moves = true) :
    ∃ playRing capRing, (g.step call).1 = { g with playRing, capRing } := by
  cases call with
  | start | stop => cases moves
  | playbackAvail | readPlayback | writeCapture | processPlayback | processCapture =>
    simp only [G.step]
    split <;> exact ⟨_, _, rfl⟩

theorem call_nonneg (session : Session) (call : ApiCall) : 0 ≤ (session.call call).2.code := by
  cases call with
  | start | stop | processPlayback => exact Int.le_refl 0
  | playbackAvail => exact Int.natCast_nonneg _
  | readPlayback => exact Int.natCast_nonneg _
  | writeCapture => exact Int.natCast_nonneg _
  | processCapture b =>
    cases b with
    | none => exact Int.le_refl 0
    | some b =>
      unfold Session.call
      by_cases unmapped : b.data = none
      · simp only [unmapped, if_true, Answer.code_, le_refl]
      · simp only [unmapped, if_false, le_refl]

/-- Only a start fails. -/
theorem code_nonneg {session : Option Session} (shows_ : g.Shows session) {call : ApiCall}
    (moves : call.moves = true) : 0 ≤ (g.step call).2.code := by
  rw [(step_refines shows_ call).2]
  cases session with
  | some session => exact call_nonneg session call
  | none =>
    cases call with
    | start | stop => cases moves
    | playbackAvail | readPlayback | writeCapture | processPlayback | processCapture =>
      exact Int.le_refl 0

/-- **One call** leaves what a start that fails leaves. -/
theorem step_ledger {session : Option Session} (shows_ : g.Shows session) (whole : g.Whole)
    (call : ApiCall) :
    (g.step call).1.Whole ∧ (g.step call).1.stray = g.stray + left (g.step call).2.code := by
  by_cases moves : call.moves = true
  · obtain ⟨playRing, capRing, after⟩ := step_frame g moves
    rw [left_of_nonneg (code_nonneg shows_ moves), add_zero, after]
    exact ⟨whole, rfl⟩
  cases call with
  | start format answers =>
    cases running : g.running with
    | false => exact start_ledger running format answers
    | true =>
      have again : g.step (.start format answers) = (g, .code_ 0) := by
        simp only [G.step, wpwStart, running, if_true]
      rw [again]
      exact ⟨whole, by rw [Answer.code_, left_of_nonneg le_rfl, add_zero]⟩
  | stop =>
    obtain ⟨still, kept⟩ := stop_ledger whole
    exact ⟨still, by rw [G.step, Answer.code_, left_of_nonneg le_rfl, add_zero, kept]⟩
  | playbackAvail | readPlayback | writeCapture | processPlayback | processCapture =>
    exact absurd rfl moves

end Ledger

/-! ### Every sequence of calls -/

/-- What every call keeps. -/
structure G.Consistent (g : G) : Prop where
  session : ∃ session, g.Shows session
  whole : g.Whole

theorem consistent_zero : G.zero.Consistent := ⟨⟨none, rfl⟩, nofun⟩

theorem G.Consistent.step {g : G} (consistent : g.Consistent) (call : ApiCall) :
    (g.step call).1.Consistent ∧
      (g.step call).1.stray = g.stray + left (g.step call).2.code := by
  obtain ⟨session, shows_⟩ := consistent.session
  obtain ⟨whole, stray⟩ := step_ledger shows_ consistent.whole call
  exact ⟨⟨⟨_, (step_refines shows_ call).1⟩, whole⟩, stray⟩

/-- **Every sequence of calls**, of starts and stops in any order and of callbacks in between,
answers as the sessions do: a call does nothing while there is none, a session begins with empty
queues, and what was queued before it is gone. What is alive is what the session has, and what the
starts that failed have left, which a later start only forgets. -/
theorem bridge_sessions (calls : List ApiCall) :
    (produce G.step G.zero calls).2 = (produce spec none calls).2 ∧
      (produce G.step G.zero calls).1.Shows (produce spec none calls).1 ∧
      (produce G.step G.zero calls).1.alive =
        (if (produce spec none calls).1.isSome then Kind.owned else 0) +
          ((produce spec none calls).2.map fun answer : Answer => left answer.code).sum := by
  have simulates : ∀ (g : G) (session : Option Session) (call : ApiCall), g.Shows session →
      (g.step call).1.Shows (spec session call).1 ∧ (g.step call).2 = (spec session call).2 :=
    fun g session call shows_ => step_refines shows_ call
  obtain ⟨last, answers⟩ := produce_simulates simulates calls G.zero none rfl
  have kept : ∀ (g : G) (call : ApiCall), g.Consistent → (g.step call).1.Consistent :=
    fun g call consistent => (consistent.step call).1
  have ledger : ∀ (g : G) (call : ApiCall), g.Consistent →
      (g.step call).1.stray = g.stray + left (g.step call).2.code :=
    fun g call consistent => (consistent.step call).2
  have stray : (produce G.step G.zero calls).1.stray = G.zero.stray +
      ((produce G.step G.zero calls).2.map fun answer : Answer => left answer.code).sum :=
    produce_sum kept ledger calls G.zero consistent_zero
  refine ⟨answers, last, ?_⟩
  have none : G.zero.stray = 0 := stray_idle rfl
  rw [none, zero_add, answers] at stray
  rw [last.isSome, ← stray]
  funext kind
  rw [Pi.add_apply, G.stray]
  split
  · exact (add_sub_cancel _ _).symm
  · rw [Pi.zero_apply, sub_zero, zero_add]

end Wolverine.Bridge
