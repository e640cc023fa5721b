/-
**Bounded playback latency.**

Runs of sink callbacks and completions in which no callback runs inside `on_out`. A `Ledger` adds
to the playback the bytes that ring writes accepted, the bytes that `on_out` skipped, and a record
of every `on_out` call.

* `record_bounded` — one call: what it skips, and the depth that it leaves.
* `latency_bounded` — every call of a run, and the balance of bytes.
-/

import Wolverine.Iso.Depth

namespace Wolverine.Iso

open Wolverine.Rust Wolverine.Audio

/-! ### Records -/

/-- The bytes that `ring::write` accepted from a sink callback. -/
def sinkAccepted (buffer : Dequeued) (play : Ring ringCapacity UInt8) : Nat :=
  match sinkSlice buffer with
  | some slice => (play.write slice).1
  | none => 0

/-- The bytes that `ring::skip` skipped. -/
def OutState.skipped (st : OutState) : Option Nat → Nat
  | some excess => (st.play.skip excess).1
  | none => 0

/-- What one `on_out` did to the ring. -/
structure Call where
  /-- It returned at a guard. -/
  guarded : Bool
  /-- The engine was primed when the trim was considered. -/
  primed : Bool
  /-- The depth at entry. -/
  entry : Nat
  /-- The argument of `ring::skip`, where it was called. -/
  excess : Option Nat
  /-- The bytes it skipped. -/
  skipped : Nat
  /-- The depth before the refill. -/
  left : Nat
  /-- The depth at the end. -/
  final : Nat
  deriving DecidableEq, Repr

/-- The record of one `on_out`. -/
def Feed.record (feed : Feed) (status : TransferStatus) (base : List UInt8) : Call :=
  let depth := feed.out.play.avail
  match feed.onOut status .quiet base with
  | none =>
    { guarded := true, primed := feed.out.primed, entry := depth, excess := none, skipped := 0
      left := depth, final := depth }
  | some refill =>
    let entered := (feed.entered .quiet).out
    let excess := entered.trimExcess
    { guarded := false, primed := entered.primed, entry := depth, excess
      skipped := entered.skipped excess, left := (feed.trimmed .quiet).out.play.avail
      final := refill.feed.out.play.avail }

/-- A call that gets past its guards leaves at most twice the target; only a primed engine over
that depth skips, and then down to the target and less than a frame. A guarded call does nothing. -/
structure Call.Bounded (primeBytes : Nat) (call : Call) : Prop where
  final : call.guarded = false → call.final ≤ 2 * primeBytes
  guarded : call.guarded = true → call.excess = none ∧ call.final = call.entry
  skips : ∀ excess, call.excess = some excess → call.primed = true ∧
    2 * primeBytes < call.entry ∧ call.skipped = excess ∧
    primeBytes ≤ call.left ∧ call.left ≤ primeBytes + 3
  keeps : call.excess = none → call.skipped = 0

/-! ### Runs -/

/-- A playback, and what happened to the bytes of its ring. -/
structure Ledger where
  playback : Playback
  accepted : Nat
  skipped : Nat
  calls : List Call

/-- The events of a run in which `on_out` is atomic. -/
inductive AtomicEvent
  | sink (buffer : Dequeued)
  | onOut (xfer : Nat) (status : TransferStatus)
  | diagnostics
  | stop

def AtomicEvent.toEvent : AtomicEvent → Event
  | .sink buffer => .sink buffer
  | .onOut xfer status => .onOut xfer status .quiet
  | .diagnostics => .diagnostics
  | .stop => .stop

namespace Ledger

def start (config : OutConfig) : Ledger where
  playback := Playback.start config
  accepted := 0
  skipped := 0
  calls := []

def step (ledger : Ledger) (event : AtomicEvent) : Ledger :=
  let playback := ledger.playback.step event.toEvent
  match event with
  | .sink buffer =>
    { ledger with
      playback
      accepted := ledger.accepted + sinkAccepted buffer ledger.playback.feed.out.play }
  | .onOut xfer status =>
    match ledger.playback.bufs[xfer]? with
    | none => ledger   -- there is no such transfer
    | some base =>
      let call := ledger.playback.feed.record status base
      { ledger with
        playback
        skipped := ledger.skipped + call.skipped
        calls := ledger.calls ++ [call] }
  | .diagnostics | .stop => { ledger with playback }

/-- `start` followed by any events. -/
def run (config : OutConfig) (events : List AtomicEvent) : Ledger :=
  events.foldl step (start config)

end Ledger

/-! ### One call -/

theorem avail_sinkProcess (buffer : Dequeued) (play : Ring ringCapacity UInt8) :
    (sinkProcess buffer play).avail = play.avail + sinkAccepted buffer play := by
  unfold sinkProcess sinkAccepted
  generalize sinkSlice buffer = offered
  cases offered with
  | some slice => exact List.length_append
  | none => rfl

theorem OutState.skipped_add (st : OutState) (excess : Option Nat) :
    st.skipped excess + (st.trim excess).play.avail = st.play.avail := by
  rw [avail_trim]
  cases excess with
  | none => exact Nat.zero_add _
  | some count =>
    show min count st.play.avail + (st.play.avail - count) = st.play.avail
    omega

theorem OutState.refillPacket_balance (st : OutState) (hlen i : Nat) (base : List UInt8) :
    (st.refillPacket hlen i base).2.2.length + (st.refillPacket hlen i base).1.play.avail =
      st.play.avail := by
  cases primed : st.primed with
  | true =>
    obtain ⟨pcm, rest⟩ := refillPacket_read primed hlen i base
    rw [pcm, Ring.avail, rest, ← List.length_append, Ring.read_items, List.take_append_drop,
      Ring.avail]
  | false =>
    obtain ⟨pcm, rest⟩ := refillPacket_waiting primed hlen i base
    rw [pcm, rest]
    exact Nat.zero_add _

namespace Feed

/-- Every byte that the refill loop takes from the ring is sent. -/
theorem refill_balance (feed : Feed) (hlen : Nat) (base : List UInt8) (count : Nat) :
    (feed.refill (fun _ => []) hlen base count).pcm.flatten.length +
        (feed.refill (fun _ => []) hlen base count).feed.out.play.avail =
      feed.out.play.avail := by
  induction count with
  | zero => exact Nat.zero_add _
  | succ i ih =>
    rw [refill]
    generalize feed.refill (fun _ => []) hlen base i = before at ih ⊢
    have packet := before.feed.out.refillPacket_balance hlen i before.base
    show (before.pcm ++ [(before.feed.out.refillPacket hlen i before.base).2.2]).flatten.length +
      (before.feed.out.refillPacket hlen i before.base).1.play.avail = _
    rw [List.flatten_concat, List.length_append, ← ih, ← packet]
    ring

variable {feed : Feed} {primeBytes : Nat}

/-- The depth before the refill is at most twice the target. -/
theorem trimmed_le (target : feed.out.primeBytes = primeBytes) (packet : outPcmBytes ≤ primeBytes) :
    (feed.trimmed .quiet).out.play.avail ≤ 2 * primeBytes := by
  have waiting := (feed.entered_primed .quiet).not
  have rest := Nat.mod_lt (feed.out.play.avail - feed.out.primeBytes) (show 0 < 4 by decide)
  have three : 3 ≤ outPcmBytes := by decide
  have high : feed.out.high = 2 * primeBytes := by
    rw [OutState.high, target, Nat.max_eq_left packet, Nat.two_mul]
  rw [avail_trimmed_quiet, target, high]
  by_cases primed : (feed.entered .quiet).out.primed = true
  · split
    · rw [target] at rest
      omega
    · rename_i shallow
      exact not_lt.mp fun deep => shallow ⟨primed, deep⟩
  · rw [if_neg fun both => primed both.1]
    have shallow : ¬ feed.out.primeBytes ≤ feed.out.play.avail := fun deep =>
      waiting.mp primed (Or.inr deep)
    omega

/-- **One call.** -/
theorem record_bounded (target : feed.out.primeBytes = primeBytes)
    (packet : outPcmBytes ≤ primeBytes) (status : TransferStatus) (base : List UInt8) :
    (feed.record status base).Bounded primeBytes := by
  have high : feed.out.high = 2 * primeBytes := by
    rw [OutState.high, target, Nat.max_eq_left packet, Nat.two_mul]
  have play : (feed.entered .quiet).out.play = feed.out.play := feed.out.prime_play
  have enteredHigh : (feed.entered .quiet).out.high = feed.out.high := by
    rw [OutState.high, entered_primeBytes, OutState.high]
  unfold record
  rw [onOut_eq]
  by_cases guarded : feed.Guarded status
  · rw [if_pos guarded]
    exact ⟨fun sent => absurd sent.symm Bool.false_ne_true, fun _ => ⟨rfl, rfl⟩,
      fun _ trims => absurd trims (Option.some_ne_none _).symm, fun _ => rfl⟩
  · rw [if_neg guarded]
    refine ⟨fun _ => ?_, fun kept => absurd kept Bool.false_ne_true,
      fun excess trims => ?_, fun keeps => ?_⟩
    · have balance := (feed.trimmed .quiet).refill_balance
        (feed.trimmed .quiet).out.outHdr.length base (feed.trimmed .quiet).out.outPktsPerXfer
      have before := trimmed_le target packet
      exact (Nat.le_of_add_left_le balance.le).trans before
    · have trimming : (feed.entered .quiet).out.trimExcess = some excess := trims
      obtain ⟨primed, deep, amount⟩ := OutState.trimExcess_some trimming
      have left := @avail_trimmed_quiet feed
      rw [enteredHigh, play] at deep
      rw [play, entered_primeBytes, target] at amount
      rw [if_pos ⟨primed, deep⟩, target] at left
      refine ⟨primed, high ▸ deep, ?_, ?_, ?_⟩
      · show (feed.entered .quiet).out.skipped (feed.entered .quiet).out.trimExcess = excess
        rw [trimming]
        show min excess (feed.entered .quiet).out.play.avail = excess
        rw [play, amount, Nat.min_eq_left]
        omega
      · show primeBytes ≤ (feed.trimmed .quiet).out.play.avail
        omega
      · show (feed.trimmed .quiet).out.play.avail ≤ primeBytes + 3
        omega
    · show (feed.entered .quiet).out.skipped (feed.entered .quiet).out.trimExcess = 0
      rw [show (feed.entered .quiet).out.trimExcess = none from keeps]
      rfl

/-- What a call skips, sends and leaves. -/
theorem record_balance (feed : Feed) (status : TransferStatus) (base : List UInt8) :
    feed.out.play.avail =
      ((feed.onOut status .quiet base).elim 0 fun refill => refill.pcm.flatten.length) +
        (feed.record status base).skipped + (feed.record status base).final := by
  unfold record
  rw [onOut_eq]
  by_cases guarded : feed.Guarded status
  · rw [if_pos guarded]
    show _ = 0 + 0 + feed.out.play.avail
    omega
  · rw [if_neg guarded]
    have balance := (feed.trimmed .quiet).refill_balance
      (feed.trimmed .quiet).out.outHdr.length base (feed.trimmed .quiet).out.outPktsPerXfer
    have skipped := (feed.entered .quiet).out.skipped_add (feed.entered .quiet).out.trimExcess
    rw [show (feed.entered .quiet).out.play = feed.out.play from feed.out.prime_play] at skipped
    show _ = (feed.refilled .quiet base).pcm.flatten.length +
      (feed.entered .quiet).out.skipped (feed.entered .quiet).out.trimExcess +
        (feed.refilled .quiet base).feed.out.play.avail
    rw [← skipped]
    show _ + (feed.trimmed .quiet).out.play.avail = _
    rw [← balance, Nat.add_comm, Nat.add_right_comm]
    rfl

/-- The target depth is fixed at start. -/
theorem onOut_primeBytes {status : TransferStatus} {arrivals : Arrivals} {base : List UInt8}
    {refill : Refill} (resubmits : feed.onOut status arrivals base = some refill) :
    refill.feed.out.primeBytes = feed.out.primeBytes := by
  rw [onOut_eq] at resubmits
  split at resubmits
  · cases resubmits
  · cases resubmits
    exact (refill_primeBytes _ _ _ _ _).trans (feed.trimmed_primeBytes arrivals)

end Feed

/-! ### Whole runs -/

namespace Ledger

/-- The balance of bytes, and a bound on every call so far. -/
structure Balanced (primeBytes : Nat) (ledger : Ledger) : Prop where
  target : ledger.playback.feed.out.primeBytes = primeBytes
  balance : ledger.accepted = ledger.playback.pcm.flatten.length + ledger.skipped +
    ledger.playback.feed.out.play.avail
  calls : ∀ call ∈ ledger.calls, call.Bounded primeBytes

theorem balanced_start (config : OutConfig) : Balanced config.primeBytes (start config) :=
  ⟨rfl, rfl, nofun⟩

/-- A completion of a transfer: its record is kept, and what it refilled is submitted. -/
theorem step_onOut (ledger : Ledger) {xfer : Nat} {base : List UInt8}
    (found : ledger.playback.bufs[xfer]? = some base) (status : TransferStatus) :
    ledger.step (.onOut xfer status) =
      { ledger with
        playback := (ledger.playback.feed.onOut status .quiet base).elim ledger.playback
          (ledger.playback.resubmit xfer)
        skipped := ledger.skipped + (ledger.playback.feed.record status base).skipped
        calls := ledger.calls ++ [ledger.playback.feed.record status base] } := by
  simp only [step, found, AtomicEvent.toEvent, Playback.step]
  cases ledger.playback.feed.onOut status .quiet base <;> rfl

variable {primeBytes : Nat} {ledger : Ledger}

theorem balanced_onOut (packet : outPcmBytes ≤ primeBytes) (balanced : Balanced primeBytes ledger)
    {xfer : Nat} {base : List UInt8} (found : ledger.playback.bufs[xfer]? = some base)
    (status : TransferStatus) : Balanced primeBytes (ledger.step (.onOut xfer status)) := by
  obtain ⟨target, balance, calls⟩ := balanced
  have bounded := Feed.record_bounded target packet status base
  have moved := ledger.playback.feed.record_balance status base
  have recorded : ∀ call ∈ ledger.calls ++ [ledger.playback.feed.record status base],
      call.Bounded primeBytes := by
    intro call member
    rcases List.mem_append.mp member with earlier | here
    · exact calls call earlier
    · rw [List.mem_singleton.mp here]
      exact bounded
  rw [step_onOut ledger found]
  cases result : ledger.playback.feed.onOut status .quiet base with
  | none =>
    have final : (ledger.playback.feed.record status base).final =
        ledger.playback.feed.out.play.avail := by rw [Feed.record, result]
    rw [result] at moved
    simp only [Option.elim] at moved
    refine ⟨target, ?_, recorded⟩
    show ledger.accepted = ledger.playback.pcm.flatten.length + (ledger.skipped + _) +
      ledger.playback.feed.out.play.avail
    omega
  | some refill =>
    have final : (ledger.playback.feed.record status base).final =
        refill.feed.out.play.avail := by rw [Feed.record, result]
    rw [result] at moved
    simp only [Option.elim] at moved
    refine ⟨(Feed.onOut_primeBytes result).trans target, ?_, recorded⟩
    show ledger.accepted = (ledger.playback.pcm ++ refill.pcm).flatten.length +
      (ledger.skipped + _) + refill.feed.out.play.avail
    rw [List.flatten_append, List.length_append]
    omega

theorem balanced_step (packet : outPcmBytes ≤ primeBytes) (balanced : Balanced primeBytes ledger)
    (event : AtomicEvent) : Balanced primeBytes (ledger.step event) := by
  have ⟨target, balance, calls⟩ := balanced
  cases event with
  | sink buffer =>
    refine ⟨target, ?_, calls⟩
    show ledger.accepted + sinkAccepted buffer ledger.playback.feed.out.play = _ + _ +
      (sinkProcess buffer ledger.playback.feed.out.play).avail
    rw [balance, avail_sinkProcess]
    exact Nat.add_assoc _ _ _
  | diagnostics => exact ⟨target, balance, calls⟩
  | stop => exact ⟨target, balance, calls⟩
  | onOut xfer status =>
    cases found : ledger.playback.bufs[xfer]? with
    | none =>
      have same : ledger.step (.onOut xfer status) = ledger := by simp only [step, found]
      rw [same]
      exact balanced
    | some base => exact balanced_onOut packet balanced found status

theorem balanced_run {config : OutConfig} (packet : outPcmBytes ≤ config.primeBytes)
    (events : List AtomicEvent) : Balanced config.primeBytes (run config events) :=
  List.foldlRecOn (motive := Balanced config.primeBytes) events step (balanced_start config)
    fun _ balanced event _ => balanced_step packet balanced event

end Ledger

/-- **Bounded playback latency.** In every run with atomic completions: a completion that gets past
its guards leaves at most twice the target depth, a guarded one leaves the ring alone; bytes are
skipped only by a primed engine over that depth, and a skip leaves the target and less than a
frame; every byte that a ring write accepted was sent, was skipped or is still in the ring. -/
theorem latency_bounded {config : OutConfig} {P : Nat} (positive : 1 ≤ P)
    (primeBytes : config.primeBytes = 192 * P) (events : List AtomicEvent) :
    let ledger := Ledger.run config events
    (∀ call ∈ ledger.calls,
      (call.guarded = false → call.final ≤ 2 * config.primeBytes) ∧
      (call.guarded = true → call.excess = none ∧ call.final = call.entry) ∧
      (∀ excess, call.excess = some excess → call.primed = true ∧
        2 * config.primeBytes < call.entry ∧ call.skipped = excess ∧
        config.primeBytes ≤ call.left ∧ call.left ≤ config.primeBytes + 3) ∧
      (call.excess = none → call.skipped = 0)) ∧
    ledger.accepted = ledger.playback.pcm.flatten.length + ledger.skipped +
      ledger.playback.feed.out.play.avail := by
  have packet : outPcmBytes ≤ config.primeBytes := by
    rw [primeBytes, outPcmBytes]
    omega
  have balanced := Ledger.balanced_run packet events
  refine ⟨fun call member => ?_, balanced.balance⟩
  have bounded := balanced.calls call member
  exact ⟨bounded.final, bounded.guarded, bounded.skips, bounded.keeps⟩

/-- The shipped target of 40 ms, and a burst of 100 ms before the first completion. -/
theorem latency_bounded_burst :
    let config : OutConfig := ⟨8, 6, 192 * 40, by decide, by decide⟩
    let ledger := Ledger.run config
      [.sink (some [⟨some (List.replicate 19200 0), 19200, 0⟩]), .onOut 0 .completed]
    (∀ call ∈ ledger.calls,
      (call.guarded = false → call.final ≤ 2 * config.primeBytes) ∧
      (call.guarded = true → call.excess = none ∧ call.final = call.entry) ∧
      (∀ excess, call.excess = some excess → call.primed = true ∧
        2 * config.primeBytes < call.entry ∧ call.skipped = excess ∧
        config.primeBytes ≤ call.left ∧ call.left ≤ config.primeBytes + 3) ∧
      (call.excess = none → call.skipped = 0)) ∧
    ledger.accepted = ledger.playback.pcm.flatten.length + ledger.skipped +
      ledger.playback.feed.out.play.avail :=
  @latency_bounded ⟨8, 6, 192 * 40, by decide, by decide⟩ 40 (by decide) rfl _

/-- A cancelled completion returns at its guard and leaves the ring as deep as it is. -/
theorem cancelled_leaves_ring :
    ¬ ∀ (config : OutConfig) (P : Nat) (events : List AtomicEvent), 1 ≤ P →
      config.primeBytes = 192 * P → 2 * config.primeBytes < usizeSize →
      ∀ call ∈ (Ledger.run config events).calls, call.final ≤ 2 * config.primeBytes := by
  intro bounded
  have all := bounded ⟨1, 1, 192, by decide, by decide⟩ 1
    [.sink (some [⟨some (List.replicate 400 0), 400, 0⟩]), .onOut 0 .cancelled]
    (by decide) rfl (by decide)
  exact absurd all (by decide +kernel)

end Wolverine.Iso
