/-
**Where `on_out` inserts silence although the ring has data.**

* `filled_quiet_iff` — a primed engine with enough bytes for a whole transfer fills it exactly where
  the trim target is no smaller than a transfer, or the ring is too shallow to be trimmed.
* `firstPacket_full_iff` — with a full ring, the first packet is filled exactly where the target
  depth holds a packet and fits the ring. `mulUsize` wraps in a release build, so a large setting
  may still be below that.
-/

import Wolverine.Iso.Depth

namespace Wolverine.Iso

open Wolverine.Rust Wolverine.Audio

namespace Feed

variable {feed : Feed} {status : TransferStatus} {base : List UInt8}

/-! ### A whole transfer -/

/-- The call refills the transfer, every packet with 192 bytes from the ring. -/
def Filled (feed : Feed) (status : TransferStatus) (arrivals : Arrivals) (base : List UInt8) :
    Prop :=
  ∃ refill, feed.onOut status arrivals base = some refill ∧
    refill.feed.out.outSilence = feed.out.outSilence ∧
    refill.pcm.length = feed.out.outPktsPerXfer ∧ ∀ pcm ∈ refill.pcm, pcm.length = 192

theorem length_refill_pcm (beforeRead : Nat → List Dequeued) (hlen : Nat) (feed : Feed)
    (base : List UInt8) (count : Nat) :
    (feed.refill beforeRead hlen base count).pcm.length = count := by
  induction count with
  | zero => rfl
  | succ i ih =>
    show ((feed.refill beforeRead hlen base i).pcm ++ [_]).length = i + 1
    rw [List.length_append, ih, List.length_singleton]

/-- A trim that leaves the bytes of a whole transfer. -/
theorem filled_of_deep {arrivals : Arrivals} (runs : ¬ feed.Guarded status)
    (primed : (feed.entered arrivals).out.primed = true)
    (deep : outPcmBytes * feed.out.outPktsPerXfer ≤ (feed.trimmed arrivals).out.play.avail) :
    feed.Filled status arrivals base := by
  have full := (refill_full arrivals.beforeRead (feed.trimmed arrivals).out.outHdr.length base
    (by rw [trimmed_primed]; exact primed) feed.out.outPktsPerXfer deep).1
  have silence := refill_outSilence arrivals.beforeRead (feed.trimmed arrivals).out.outHdr.length
    base (feed.trimmed arrivals) feed.out.outPktsPerXfer
  refine ⟨feed.refilled arrivals base, by rw [onOut_eq, if_neg runs], ?_, ?_, ?_⟩
  · rw [refilled, trimmed_pkts, silence, trimmed_outSilence, List.countP_eq_zero.mpr, Nat.add_zero]
    intro pcm member
    rw [full pcm member]
    decide
  · rw [refilled, trimmed_pkts, length_refill_pcm]
  · rw [refilled, trimmed_pkts]
    exact full

/-- A trim that leaves fewer bytes, when nothing arrives: the last packet is short. -/
theorem not_filled_of_shallow (positive : 0 < feed.out.outPktsPerXfer)
    (primed : (feed.entered .quiet).out.primed = true)
    (shallow : (feed.trimmed .quiet).out.play.avail < outPcmBytes * feed.out.outPktsPerXfer) :
    ¬ feed.Filled status .quiet base := by
  rintro ⟨refill, resubmits, -, -, full⟩
  rw [onOut_eq] at resubmits
  split at resubmits
  · cases resubmits
  cases resubmits
  obtain ⟨last, pkts⟩ := Nat.exists_eq_add_of_lt positive
  rw [Nat.zero_add] at pkts
  have read := (refill_quiet (feed.trimmed .quiet).out.outHdr.length base
    (show (feed.trimmed .quiet).out.primed = true by rw [trimmed_primed]; exact primed)
    feed.out.outPktsPerXfer).2
  have member : ((feed.trimmed .quiet).out.play.items.drop (outPcmBytes * last)).take outPcmBytes ∈
      (feed.refilled .quiet base).pcm := by
    rw [refilled, trimmed_pkts]
    refine read ▸ List.mem_map.mpr ⟨last, List.mem_range.mpr (by omega), rfl⟩
  have length := full _ member
  rw [List.length_take, List.length_drop] at length
  rw [pkts, Nat.mul_succ] at shallow
  unfold Ring.avail at shallow
  unfold outPcmBytes at shallow length
  omega

/-- **When the trim starves the refill**: it leaves less than a transfer, and the ring is deep
enough to be trimmed. -/
theorem filled_quiet_iff {P K : Nat} (targetPositive : 1 ≤ P) (pktsPositive : 1 ≤ K)
    (target : feed.out.primeBytes = 192 * P) (pkts : feed.out.outPktsPerXfer = K)
    (primed : feed.out.primed = true) (runs : ¬ feed.Guarded status)
    (enough : K * 192 ≤ feed.out.play.avail) (base : List UInt8) :
    feed.Filled status .quiet base ↔ K ≤ P ∨ feed.out.play.avail ≤ 2 * feed.out.primeBytes := by
  have on : (feed.entered .quiet).out.primed = true :=
    (feed.entered_primed .quiet).mpr (Or.inl primed)
  have high : feed.out.high = 2 * feed.out.primeBytes := by
    rw [OutState.high, target, outPcmBytes]
    omega
  have depth := @avail_trimmed_quiet feed
  have rest := Nat.mod_lt (feed.out.play.avail - feed.out.primeBytes) (show 0 < 4 by decide)
  rw [high] at depth
  constructor
  · intro filled
    by_contra starved
    rw [not_or, not_le, not_le] at starved
    rw [if_pos ⟨on, starved.2⟩] at depth
    refine not_filled_of_shallow (by omega) on ?_ filled
    rw [depth, pkts, outPcmBytes]
    omega
  · intro spared
    refine filled_of_deep runs on ?_
    rw [depth, pkts, outPcmBytes]
    split <;> omega

/-- Callbacks before the latch come before the call. -/
theorem filled_beforePrime (feed : Feed) (status : TransferStatus) (base : List UInt8)
    (buffers : List Dequeued) :
    feed.Filled status ⟨buffers, [], [], fun _ => []⟩ base ↔
      (feed.arrive buffers).Filled status .quiet base := by
  have same : feed.onOut status ⟨buffers, [], [], fun _ => []⟩ base =
      (feed.arrive buffers).onOut status .quiet base := by
    unfold onOut
    rw [show (feed.arrive buffers).out.running = feed.out.running by rw [arrive_out]]
    rfl
  unfold Filled
  rw [same, arrive_outSilence, arrive_pkts]

/-- A callback that delivers `bytes`. -/
def delivery (bytes : List UInt8) : Dequeued := some [⟨some bytes, bytes.length, 0⟩]

theorem sinkSlice_delivery {bytes : List UInt8} (nonempty : 0 < bytes.length) :
    sinkSlice (delivery bytes) = some bytes := by
  have stop : min (0 + bytes.length) bytes.length = bytes.length := by omega
  simp only [sinkSlice, delivery, List.head?_cons, bind, Option.bind, stop, if_pos nonempty,
    List.take_length, List.drop_zero]

/-- Enough bytes fill the ring. -/
theorem avail_delivery (feed : Feed) {bytes : List UInt8} (nonempty : 0 < bytes.length)
    (enough : ringCapacity ≤ bytes.length) :
    (feed.arrive [delivery bytes]).out.play.avail = ringCapacity := by
  have fits := feed.out.play.fits
  show (sinkProcess (delivery bytes) feed.out.play).items.length = ringCapacity
  rw [sinkProcess, sinkSlice_delivery nonempty]
  simp only [Ring.write_items, List.length_append, List.length_take]
  unfold Ring.space
  omega

/-- **Whatever arrives during the call**, it inserts no silence exactly where the target holds a
transfer, or the ring cannot get deep enough to be trimmed. -/
theorem filled_forall_iff {P K : Nat} (targetPositive : 1 ≤ P) (pktsPositive : 1 ≤ K)
    (target : feed.out.primeBytes = 192 * P) (pkts : feed.out.outPktsPerXfer = K)
    (primed : feed.out.primed = true) (runs : ¬ feed.Guarded status)
    (enough : K * 192 ≤ feed.out.play.avail) (base : List UInt8) :
    (∀ arrivals, feed.Filled status arrivals base) ↔
      K ≤ P ∨ ringCapacity ≤ 2 * feed.out.primeBytes := by
  constructor
  · intro filled
    -- enough to fill the ring may arrive before the latch
    obtain ⟨bytes, length⟩ : ∃ bytes : List UInt8, bytes.length = ringCapacity :=
      ⟨List.replicate ringCapacity 0, List.length_replicate⟩
    have flooded := (filled_beforePrime feed status base [delivery bytes]).mp (filled _)
    have guarded : ¬ (feed.arrive [delivery bytes]).Guarded status := by
      unfold Guarded
      rw [arrive_out]
      exact runs
    have full := avail_delivery feed (length ▸ (by decide)) length.ge
    have either := (filled_quiet_iff targetPositive pktsPositive (by rw [arrive_primeBytes, target])
      (by rw [arrive_pkts, pkts]) (by rw [arrive_primed, primed]) guarded
      (enough.trans (feed.le_avail_arrive _)) base).mp flooded
    rwa [full, arrive_primeBytes] at either
  · intro spared arrivals
    have on : (feed.entered arrivals).out.primed = true :=
      (feed.entered_primed arrivals).mpr (Or.inl primed)
    have grown := feed.le_avail_entered arrivals
    refine filled_of_deep runs on ?_
    rw [pkts, outPcmBytes]
    rcases spared with holds | shallow
    · have deep := le_avail_trimmed on
      omega
    · have kept := feed.le_avail_trimmed_of_shallow arrivals (by
        rw [OutState.high, entered_primeBytes, target, outPcmBytes]
        have fits := (feed.entered arrivals).out.play.avail_le
        omega)
      omega

/-- A primed engine right after `start`, with `bytes` in its ring. -/
def loaded (config : OutConfig) (bytes : List UInt8) (fits : bytes.length ≤ ringCapacity)
    (holds : config.primeBytes ≤ ringCapacity) : Feed where
  out :=
    { OutState.init config with
      play := ⟨bytes, fits⟩, primed := true, primedFits := fun _ => holds }
  delivered := []

theorem loaded_runs {config : OutConfig} {bytes : List UInt8} {fits : bytes.length ≤ ringCapacity}
    {holds : config.primeBytes ≤ ringCapacity} :
    ¬ (loaded config bytes fits holds).Guarded .completed := by
  rintro (stopped | gone | gone)
  · cases stopped
  · cases gone
  · cases gone

/-- **When the trim starves the refill.** A primed engine with the bytes of a whole transfer in its
ring inserts no silence exactly where its target holds a transfer, or the ring is at most twice the
target deep; with callbacks during the call, exactly where the target holds a transfer, or the ring
cannot get deeper than that. -/
theorem trim_spares_refill_iff {P K : Nat} (targetPositive : 1 ≤ P) (pktsPositive : 1 ≤ K)
    (target : feed.out.primeBytes = 192 * P) (pkts : feed.out.outPktsPerXfer = K)
    (primed : feed.out.primed = true) (runs : ¬ feed.Guarded status)
    (enough : K * 192 ≤ feed.out.play.avail) (base : List UInt8) :
    (feed.Filled status .quiet base ↔
      K ≤ P ∨ feed.out.play.avail ≤ 2 * feed.out.primeBytes) ∧
    ((∀ arrivals, feed.Filled status arrivals base) ↔
      K ≤ P ∨ ringCapacity ≤ 2 * feed.out.primeBytes) :=
  ⟨filled_quiet_iff targetPositive pktsPositive target pkts primed runs enough base,
    filled_forall_iff targetPositive pktsPositive target pkts primed runs enough base⟩

/-- The shipped settings, with one transfer in the ring. -/
theorem trim_spares_refill_iff_shipped :
    let feed := loaded ⟨8, 6, 192 * 40, by decide, by decide⟩ (List.replicate 1536 0)
      (by rw [List.length_replicate]; decide) (by decide)
    (feed.Filled .completed .quiet [] ↔ 8 ≤ 40 ∨ feed.out.play.avail ≤ 2 * feed.out.primeBytes) ∧
    ((∀ arrivals, feed.Filled .completed arrivals []) ↔
      8 ≤ 40 ∨ ringCapacity ≤ 2 * feed.out.primeBytes) :=
  @trim_spares_refill_iff _ _ 40 8 (by decide) (by decide) rfl rfl rfl loaded_runs
    (@List.length_replicate UInt8 1536 0).ge []

/-- Target 1 ms, eight packets a transfer: one transfer in the ring is trimmed to one packet. -/
theorem trim_starves_refill :
    ¬ ∀ (feed : Feed) (status : TransferStatus) (base : List UInt8) (P K : Nat), 1 ≤ P → 1 ≤ K →
      feed.out.primeBytes = 192 * P → feed.out.outPktsPerXfer = K → feed.out.primed = true →
      ¬ feed.Guarded status → K * 192 ≤ feed.out.play.avail → feed.Filled status .quiet base := by
  intro spared
  have depth : (List.replicate 1536 (0 : UInt8)).length = 1536 := List.length_replicate
  have fits : (List.replicate 1536 (0 : UInt8)).length ≤ ringCapacity := by rw [depth]; decide
  have filled := spared (loaded ⟨8, 6, 192, by decide, by decide⟩ _ fits (by decide)) .completed []
    1 8 (by decide) (by decide) rfl rfl rfl loaded_runs depth.ge
  have either := (@filled_quiet_iff _ _ 1 8 (by decide) (by decide) rfl rfl rfl loaded_runs
    depth.ge []).mp filled
  have deep : ¬ (List.replicate 1536 (0 : UInt8)).length ≤ 2 * 192 := by rw [depth]; decide
  exact either.elim (by decide) deep

/-! ### A full ring -/

/-- The call leaves the engine primed, and the first packet has `count` bytes from the ring. -/
def FirstPacket (feed : Feed) (status : TransferStatus) (arrivals : Arrivals) (base : List UInt8)
    (count : Nat) : Prop :=
  ∃ refill pcm, feed.onOut status arrivals base = some refill ∧
    refill.feed.out.primed = true ∧ refill.pcm.head? = some pcm ∧ pcm.length = count

/-- The first packet of a refill loop is read first. -/
theorem head_refill_pcm (beforeRead : Nat → List Dequeued) (hlen : Nat) (feed : Feed)
    (base : List UInt8) (count : Nat) :
    (feed.refill beforeRead hlen base (count + 1)).pcm.head? =
      (feed.refill beforeRead hlen base 1).pcm.head? := by
  induction count with
  | zero => rfl
  | succ i ih =>
    rw [← ih]
    have length := length_refill_pcm beforeRead hlen feed base (i + 1)
    show ((feed.refill beforeRead hlen base (i + 1)).pcm ++ [_]).head? = _
    generalize (feed.refill beforeRead hlen base (i + 1)).pcm = pcms at length ⊢
    cases pcms with
    | nil => cases length
    | cons first rest => rfl

theorem refill_pcm_one (beforeRead : Nat → List Dequeued) (hlen : Nat) (feed : Feed)
    (base : List UInt8) :
    (feed.refill beforeRead hlen base 1).pcm =
      [((feed.arrive (beforeRead 0)).out.refillPacket hlen 0 base).2.2] := rfl

/-- The first packet of a call that refills. -/
theorem firstPacket_iff {arrivals : Arrivals} {count : Nat} (runs : ¬ feed.Guarded status)
    (positive : 0 < feed.out.outPktsPerXfer) :
    feed.FirstPacket status arrivals base count ↔
      (feed.entered arrivals).out.primed = true ∧
        min outPcmBytes
          ((feed.trimmed arrivals).arrive (arrivals.beforeRead 0)).out.play.avail = count := by
  obtain ⟨rest, pkts⟩ := Nat.exists_eq_add_of_lt positive
  rw [Nat.zero_add] at pkts
  have primed : (feed.refilled arrivals base).feed.out.primed =
      (feed.entered arrivals).out.primed := by
    rw [refilled, refill_primed, trimmed_primed]
  have head : (feed.refilled arrivals base).pcm.head? =
      some (((feed.trimmed arrivals).arrive (arrivals.beforeRead 0)).out.refillPacket
        (feed.trimmed arrivals).out.outHdr.length 0 base).2.2 := by
    rw [refilled, trimmed_pkts, pkts, head_refill_pcm, refill_pcm_one]
    rfl
  have length (on : (feed.entered arrivals).out.primed = true) :
      (((feed.trimmed arrivals).arrive (arrivals.beforeRead 0)).out.refillPacket
        (feed.trimmed arrivals).out.outHdr.length 0 base).2.2.length =
      min outPcmBytes
        ((feed.trimmed arrivals).arrive (arrivals.beforeRead 0)).out.play.avail := by
    have stays : ((feed.trimmed arrivals).arrive (arrivals.beforeRead 0)).out.primed = true := by
      rw [arrive_primed, trimmed_primed, on]
    rw [(OutState.refillPacket_read stays _ _ _).1, List.length_take]
    rfl
  unfold FirstPacket
  rw [onOut_eq, if_neg runs]
  constructor
  · rintro ⟨refill, pcm, resubmits, on, first, size⟩
    cases resubmits
    rw [primed] at on
    rw [head] at first
    cases first
    exact ⟨on, (length on).symm.trans size⟩
  · rintro ⟨on, size⟩
    exact ⟨_, _, rfl, primed.trans on, head, (length on).trans size⟩

/-- A full ring primes the engine exactly where the target fits it. -/
theorem entered_primed_full (full : feed.out.play.avail = ringCapacity) (arrivals : Arrivals) :
    (feed.entered arrivals).out.primed = true ↔ feed.out.primeBytes ≤ ringCapacity := by
  rw [entered_primed]
  constructor
  · rintro (primed | deep)
    · exact feed.out.primedFits primed
    · exact deep.trans (Ring.avail_le _)
  · exact fun fits => Or.inr (fits.trans (full.ge.trans (feed.le_avail_arrive _)))

/-- A full ring is trimmed to the target, or stays deeper than a packet. -/
theorem avail_trimmed_full (full : feed.out.play.avail = ringCapacity)
    (aligned : 4 ∣ feed.out.primeBytes) (fits : feed.out.primeBytes ≤ ringCapacity) :
    min outPcmBytes (feed.trimmed .quiet).out.play.avail =
      min outPcmBytes feed.out.primeBytes := by
  have on := (entered_primed_full full .quiet).mpr fits
  have multiple : 4 ∣ ringCapacity := by decide
  have large : 2 * outPcmBytes ≤ ringCapacity := by decide
  rw [avail_trimmed_quiet, full, OutState.high]
  split
  · omega
  · rename_i shallow
    rw [not_and, not_lt] at shallow
    have deep := shallow on
    omega

/-- **The first packet, from a full ring.** -/
theorem firstPacket_full_iff (runs : ¬ feed.Guarded status)
    (positive : 0 < feed.out.outPktsPerXfer) (full : feed.out.play.avail = ringCapacity)
    (aligned : 4 ∣ feed.out.primeBytes) {count : Nat} :
    feed.FirstPacket status .quiet base count ↔
      feed.out.primeBytes ≤ ringCapacity ∧ min outPcmBytes feed.out.primeBytes = count := by
  rw [firstPacket_iff runs positive, entered_primed_full full]
  refine and_congr_right fun fits => ?_
  rw [← avail_trimmed_full full aligned fits]
  rfl

/-- The same first packet whatever arrives, where the target holds one. -/
theorem firstPacket_full_of_fits (runs : ¬ feed.Guarded status)
    (positive : 0 < feed.out.outPktsPerXfer) (full : feed.out.play.avail = ringCapacity)
    (packet : outPcmBytes ≤ feed.out.primeBytes) (fits : feed.out.primeBytes ≤ ringCapacity)
    (arrivals : Arrivals) :
    feed.FirstPacket status arrivals base outPcmBytes := by
  have on := (entered_primed_full full arrivals).mpr fits
  have left := le_avail_trimmed on
  have entered := feed.le_avail_entered arrivals
  have arrived := (feed.trimmed arrivals).le_avail_arrive (arrivals.beforeRead 0)
  refine (firstPacket_iff runs positive).mpr ⟨on, Nat.min_eq_left ?_⟩
  omega

end Feed

/-! ### The setting -/

/-- The target depth that `start` computes from a positive `WOLVERINE_PRIME_MS`. -/
theorem OutConfig.ofEnv_primeBytes {profile : Profile} {outPkts outXfers : Option Nat} {v : Nat}
    (positive : 0 < v) {config : OutConfig}
    (started : OutConfig.ofEnv profile outPkts outXfers (some v) = .ok config) :
    config.primeBytes = 192 * v % usizeSize := by
  have setting : envUsize (some v) defaultPrimeMs = v := by
    rw [envUsize, Option.filter_some, if_pos (decide_eq_true positive), Option.getD_some]
  unfold OutConfig.ofEnv at started
  rw [setting] at started
  generalize product : mulUsize profile outPcmBytes v = result at started
  cases result with
  | error panic => cases started
  | ok bytes =>
    cases started
    exact mulUsize_ok product

/-- **Which settings keep playback audible.** For a positive `WOLVERINE_PRIME_MS` and any engine
state with a full ring, a call that gets past its guards leaves the engine primed and sends a whole
packet of ring data first, exactly where the target depth, as `start` computes it, holds a packet
and fits the ring; this is so whatever arrives during the call. It sends any ring data first
exactly where the target is not zero and fits the ring. -/
theorem full_ring_audible_iff {profile : Profile} {outPkts outXfers : Option Nat} {v : Nat}
    (positive : 0 < v) {config : OutConfig}
    (started : OutConfig.ofEnv profile outPkts outXfers (some v) = .ok config) {feed : Feed}
    (target : feed.out.primeBytes = config.primeBytes)
    (pkts : feed.out.outPktsPerXfer = config.outPktsPerXfer) {status : TransferStatus}
    (runs : ¬ feed.Guarded status) (full : feed.out.play.avail = ringCapacity)
    (base : List UInt8) :
    (feed.FirstPacket status .quiet base 192 ↔
      192 ≤ 192 * v % usizeSize ∧ 192 * v % usizeSize ≤ ringCapacity) ∧
    ((∀ arrivals, feed.FirstPacket status arrivals base 192) ↔
      192 ≤ 192 * v % usizeSize ∧ 192 * v % usizeSize ≤ ringCapacity) ∧
    ((∃ count, 0 < count ∧ feed.FirstPacket status .quiet base count) ↔
      0 < 192 * v % usizeSize ∧ 192 * v % usizeSize ≤ ringCapacity) := by
  have bytes : feed.out.primeBytes = 192 * v % usizeSize :=
    target.trans (OutConfig.ofEnv_primeBytes positive started)
  have pktsPositive : 0 < feed.out.outPktsPerXfer := pkts ▸ config.pktsPositive
  have aligned : 4 ∣ feed.out.primeBytes := by
    rw [bytes]
    exact (Nat.dvd_mod_iff (by decide)).mpr (Dvd.dvd.mul_right (by decide) v)
  have quiet := fun count => @Feed.firstPacket_full_iff feed status base runs pktsPositive full
    aligned count
  rw [← bytes]
  have whole : feed.FirstPacket status .quiet base 192 ↔
      192 ≤ feed.out.primeBytes ∧ feed.out.primeBytes ≤ ringCapacity := by
    rw [quiet, and_comm, outPcmBytes]
    exact and_congr_left fun _ => min_eq_left_iff
  refine ⟨whole, ⟨fun always => whole.mp (always .quiet), fun fits arrivals => ?_⟩, ?_⟩
  · exact Feed.firstPacket_full_of_fits runs pktsPositive full fits.1 fits.2 arrivals
  · constructor
    · rintro ⟨count, some, first⟩
      obtain ⟨fits, size⟩ := (quiet count).mp first
      omega
    · rintro ⟨some, fits⟩
      refine ⟨_, ?_, (quiet _).mpr ⟨fits, rfl⟩⟩
      exact Nat.lt_min.mpr ⟨by decide, some⟩

/-- The shipped setting of 40 ms, and a full ring. -/
theorem full_ring_audible_iff_shipped :
    let feed := Feed.loaded ⟨8, 6, 192 * 40, by decide, by decide⟩ (List.replicate ringCapacity 0)
      (List.length_replicate).le (by decide)
    (feed.FirstPacket .completed .quiet [] 192 ↔
      192 ≤ 192 * 40 % usizeSize ∧ 192 * 40 % usizeSize ≤ ringCapacity) ∧
    ((∀ arrivals, feed.FirstPacket .completed arrivals [] 192) ↔
      192 ≤ 192 * 40 % usizeSize ∧ 192 * 40 % usizeSize ≤ ringCapacity) ∧
    ((∃ count, 0 < count ∧ feed.FirstPacket .completed .quiet [] count) ↔
      0 < 192 * 40 % usizeSize ∧ 192 * 40 % usizeSize ≤ ringCapacity) :=
  @full_ring_audible_iff .release none none 40 (by decide) ⟨8, 6, 192 * 40, by decide, by decide⟩
    rfl _ rfl rfl _ Feed.loaded_runs (List.length_replicate) []

/-- A target of 1366 ms is 262272 bytes and never reached: the ring holds 262144. -/
theorem long_prime_mutes :
    ¬ ∀ (profile : Profile) (outPkts outXfers : Option Nat) (v : Nat) (config : OutConfig),
      0 < v → v < usizeSize → OutConfig.ofEnv profile outPkts outXfers (some v) = .ok config →
      ∀ (feed : Feed) (status : TransferStatus) (base : List UInt8),
        feed.out.primeBytes = config.primeBytes →
        feed.out.outPktsPerXfer = config.outPktsPerXfer → ¬ feed.Guarded status →
        feed.out.play.avail = ringCapacity →
        ∃ count, 0 < count ∧ feed.FirstPacket status .quiet base count := by
  intro audible
  let config : OutConfig := ⟨8, 6, 192 * 1366, by decide, by decide⟩
  let feed : Feed :=
    { out := { OutState.init config with
        play := ⟨List.replicate ringCapacity 0, (List.length_replicate).le⟩ }
      delivered := [] }
  have runs : ¬ feed.Guarded .completed := by
    rintro (stopped | gone | gone)
    · cases stopped
    · cases gone
    · cases gone
  obtain ⟨count, -, first⟩ := audible .release none none 1366 config (by decide) (by decide) rfl
    feed .completed [] rfl rfl runs (List.length_replicate)
  have fits := ((Feed.firstPacket_full_iff runs (by decide) (List.length_replicate)
    (show 4 ∣ 192 * 1366 by decide)).mp first).1
  exact absurd fits (show ¬ 192 * 1366 ≤ ringCapacity by decide)

end Wolverine.Iso
