/-
**The depth of the playback ring through one `on_out`.**

`Feed.entered` and `Feed.trimmed` name the engine at two points of a call: when it considers the
trim, and when the refill loop starts. Sink callbacks only add to the ring, so bounds from below
hold with any arrivals; where none come (`Arrivals.quiet`) the depth is known exactly.

* `trimExcess_primed` — what a primed engine drops: the excess over the target, in whole frames.
* `le_avail_trimmed`, `avail_trimmed_quiet` — the depth that the trim leaves.
* `refill_full`, `refill_quiet` — what the refill loop reads.
-/

import Wolverine.Iso.Playback

namespace Wolverine.Iso

open Wolverine.Rust Wolverine.Audio

/-- A mask with its low bits clear acts on the bits above them. -/
theorem and_shiftLeft (n mask shift : Nat) :
    n &&& mask <<< shift = (n >>> shift &&& mask) <<< shift := by
  refine Nat.eq_of_testBit_eq fun i => ?_
  rw [Nat.testBit_and, Nat.testBit_shiftLeft, Nat.testBit_shiftLeft, Nat.testBit_and,
    Nat.testBit_shiftRight]
  by_cases high : shift ≤ i
  · simp [high, Nat.add_sub_cancel' high]
  · simp [high]

/-- `& !3` rounds down to a multiple of four. -/
theorem and_not_three {n : Nat} (small : n < usizeSize) :
    n &&& (usizeSize - 1 - 3) = n - n % 4 := by
  have words : n / 4 < 2 ^ 62 := by
    unfold usizeSize at small
    omega
  have masked : n &&& (usizeSize - 1 - 3) = n / 4 * 4 := by
    rw [show usizeSize - 1 - 3 = (2 ^ 62 - 1) <<< 2 by decide, and_shiftLeft,
      Nat.shiftRight_eq_div_pow, Nat.and_two_pow_sub_one_eq_mod, Nat.mod_eq_of_lt words,
      Nat.shiftLeft_eq]
  omega

/-! ### The parts of `on_out` -/

namespace OutState

/-- The depth past which a primed engine trims. -/
def high (st : OutState) : Nat := st.primeBytes + max st.primeBytes outPcmBytes

/-- **What a primed engine drops.** -/
theorem trimExcess_primed {st : OutState} (primed : st.primed = true) :
    st.trimExcess =
      if st.high < st.play.avail then
        some (st.play.avail - st.primeBytes - (st.play.avail - st.primeBytes) % 4)
      else none := by
  have small : st.play.avail - st.primeBytes < usizeSize :=
    lt_of_le_of_lt ((Nat.sub_le _ _).trans st.play.avail_le) (by decide)
  unfold trimExcess
  simp only [if_pos primed, and_not_three small]
  rfl

theorem trimExcess_unprimed {st : OutState} (waiting : st.primed = false) :
    st.trimExcess = none := by
  rw [trimExcess, waiting]
  rfl

/-- **Only a primed engine over its high mark trims.** -/
theorem trimExcess_some {st : OutState} {excess : Nat} (trims : st.trimExcess = some excess) :
    st.primed = true ∧ st.high < st.play.avail ∧
      excess = st.play.avail - st.primeBytes - (st.play.avail - st.primeBytes) % 4 := by
  cases primed : st.primed with
  | true =>
    rw [trimExcess_primed primed] at trims
    by_cases deep : st.high < st.play.avail
    · rw [if_pos deep] at trims
      exact ⟨rfl, deep, (Option.some.inj trims).symm⟩
    · rw [if_neg deep] at trims
      cases trims
  | false =>
    rw [trimExcess_unprimed primed] at trims
    cases trims

/-- The depth after a trim. -/
theorem avail_trim (st : OutState) (excess : Option Nat) :
    (st.trim excess).play.avail = st.play.avail - excess.getD 0 := by
  cases excess with
  | none => rfl
  | some count =>
    show (st.play.skip count).2.items.length = _
    rw [Ring.skip_items, List.length_drop]
    rfl

@[simp] theorem trim_primed (st : OutState) (excess : Option Nat) :
    (st.trim excess).primed = st.primed := by cases excess <;> rfl

@[simp] theorem trim_primeBytes (st : OutState) (excess : Option Nat) :
    (st.trim excess).primeBytes = st.primeBytes := by cases excess <;> rfl

@[simp] theorem trim_pkts (st : OutState) (excess : Option Nat) :
    (st.trim excess).outPktsPerXfer = st.outPktsPerXfer := by cases excess <;> rfl

@[simp] theorem trim_outSilence (st : OutState) (excess : Option Nat) :
    (st.trim excess).outSilence = st.outSilence := by cases excess <;> rfl

/-- The latch: an engine stays primed, and becomes so at the target depth. -/
theorem prime_primed (st : OutState) :
    st.prime.primed = true ↔ st.primed = true ∨ st.primeBytes ≤ st.play.avail := by
  unfold prime
  split
  · rename_i cushion
    exact ⟨fun _ => Or.inr cushion.2, fun _ => rfl⟩
  · rename_i waiting
    refine ⟨Or.inl, fun either => ?_⟩
    rcases either with primed | deep
    · exact primed
    · exact Bool.eq_true_of_not_eq_false fun off => waiting ⟨off, deep⟩

@[simp] theorem prime_primeBytes (st : OutState) : st.prime.primeBytes = st.primeBytes := by
  rw [prime]
  split <;> rfl

@[simp] theorem prime_pkts (st : OutState) : st.prime.outPktsPerXfer = st.outPktsPerXfer := by
  rw [prime]
  split <;> rfl

@[simp] theorem prime_outSilence (st : OutState) : st.prime.outSilence = st.outSilence := by
  rw [prime]
  split <;> rfl

end OutState

/-- No sink callback runs during the call. -/
def Arrivals.quiet : Arrivals := ⟨[], [], [], fun _ => []⟩

namespace Feed

/-! ### Sink callbacks -/

/-- Sink callbacks only touch the ring. -/
theorem arrive_out (feed : Feed) (buffers : List Dequeued) :
    (feed.arrive buffers).out = { feed.out with play := (feed.arrive buffers).out.play } :=
  List.foldlRecOn (motive := fun fed => fed.out = { feed.out with play := fed.out.play }) buffers
    sink rfl fun fed same buffer _ =>
      congrArg (fun out : OutState => { out with play := sinkProcess buffer fed.out.play }) same

/-- Sink callbacks only add to the ring. -/
theorem le_avail_arrive (feed : Feed) (buffers : List Dequeued) :
    feed.out.play.avail ≤ (feed.arrive buffers).out.play.avail :=
  List.foldlRecOn (motive := fun fed => feed.out.play.avail ≤ fed.out.play.avail) buffers sink
    le_rfl fun fed grown buffer _ => grown.trans (le_avail_sinkProcess buffer fed.out.play)

@[simp] theorem arrive_primed (feed : Feed) (buffers : List Dequeued) :
    (feed.arrive buffers).out.primed = feed.out.primed := by rw [arrive_out]

@[simp] theorem arrive_primeBytes (feed : Feed) (buffers : List Dequeued) :
    (feed.arrive buffers).out.primeBytes = feed.out.primeBytes := by rw [arrive_out]

@[simp] theorem arrive_pkts (feed : Feed) (buffers : List Dequeued) :
    (feed.arrive buffers).out.outPktsPerXfer = feed.out.outPktsPerXfer := by rw [arrive_out]

@[simp] theorem arrive_outSilence (feed : Feed) (buffers : List Dequeued) :
    (feed.arrive buffers).out.outSilence = feed.out.outSilence := by rw [arrive_out]

/-! ### One call -/

variable (feed : Feed) (arrivals : Arrivals)

@[simp] theorem entered_primeBytes :
    (feed.entered arrivals).out.primeBytes = feed.out.primeBytes := by
  simp [entered]

@[simp] theorem trimmed_primeBytes :
    (feed.trimmed arrivals).out.primeBytes = feed.out.primeBytes := by
  simp [trimmed]

@[simp] theorem trimmed_primed :
    (feed.trimmed arrivals).out.primed = (feed.entered arrivals).out.primed := by
  simp [trimmed]

@[simp] theorem trimmed_pkts :
    (feed.trimmed arrivals).out.outPktsPerXfer = feed.out.outPktsPerXfer := by
  simp [trimmed, entered]

@[simp] theorem trimmed_outSilence :
    (feed.trimmed arrivals).out.outSilence = feed.out.outSilence := by
  simp [trimmed, entered]

/-- The latch over a call. -/
theorem entered_primed :
    (feed.entered arrivals).out.primed = true ↔
      feed.out.primed = true ∨
        feed.out.primeBytes ≤ (feed.arrive arrivals.beforePrime).out.play.avail := by
  rw [entered, arrive_primed, OutState.prime_primed, arrive_primed, arrive_primeBytes]

theorem le_avail_entered : feed.out.play.avail ≤ (feed.entered arrivals).out.play.avail := by
  have primed := le_avail_arrive
    { feed.arrive arrivals.beforePrime with out := (feed.arrive arrivals.beforePrime).out.prime }
    arrivals.beforeTrim
  rw [OutState.prime_play] at primed
  exact (feed.le_avail_arrive arrivals.beforePrime).trans primed

variable {feed arrivals}

/-- **The trim leaves the target depth**, or what there was. -/
theorem le_avail_trimmed (primed : (feed.entered arrivals).out.primed = true) :
    min feed.out.primeBytes (feed.entered arrivals).out.play.avail ≤
      (feed.trimmed arrivals).out.play.avail := by
  have grown := (feed.entered arrivals).le_avail_arrive arrivals.beforeSkip
  have target : feed.out.primeBytes ≤ (feed.entered arrivals).out.high := by
    rw [OutState.high, entered_primeBytes]
    exact Nat.le_add_right _ _
  show _ ≤ (OutState.trim _ _).play.avail
  rw [OutState.avail_trim, OutState.trimExcess_primed primed, entered_primeBytes]
  split
  · rw [Option.getD_some]
    omega
  · rw [Option.getD_none]
    omega

/-- A ring below the high mark is not trimmed. -/
theorem le_avail_trimmed_of_shallow (feed : Feed) (arrivals : Arrivals)
    (shallow : (feed.entered arrivals).out.play.avail ≤ (feed.entered arrivals).out.high) :
    (feed.entered arrivals).out.play.avail ≤ (feed.trimmed arrivals).out.play.avail := by
  have kept : (feed.entered arrivals).out.trimExcess = none := by
    cases trims : (feed.entered arrivals).out.trimExcess with
    | none => rfl
    | some excess => exact absurd (OutState.trimExcess_some trims).2.1 (not_lt.mpr shallow)
  show _ ≤ (OutState.trim _ _).play.avail
  rw [kept]
  exact (feed.entered arrivals).le_avail_arrive arrivals.beforeSkip

/-- **The depth after the trim**, when no callback runs: just above the target, or what there
was. -/
theorem avail_trimmed_quiet :
    (feed.trimmed .quiet).out.play.avail =
      if (feed.entered .quiet).out.primed = true ∧ feed.out.high < feed.out.play.avail then
        feed.out.primeBytes + (feed.out.play.avail - feed.out.primeBytes) % 4
      else feed.out.play.avail := by
  have play : (feed.entered .quiet).out.play = feed.out.play := feed.out.prime_play
  have high : (feed.entered .quiet).out.high = feed.out.high := by
    rw [OutState.high, entered_primeBytes, OutState.high]
  have target : feed.out.primeBytes ≤ feed.out.high := Nat.le_add_right _ _
  show ((feed.entered .quiet).out.trim (feed.entered .quiet).out.trimExcess).play.avail = _
  rw [OutState.avail_trim, play]
  by_cases primed : (feed.entered .quiet).out.primed = true
  · rw [OutState.trimExcess_primed primed, high, play, entered_primeBytes]
    by_cases deep : feed.out.high < feed.out.play.avail
    · rw [if_pos deep, if_pos ⟨primed, deep⟩, Option.getD_some]
      omega
    · rw [if_neg deep, if_neg fun both => deep both.2]
      rfl
  · rw [OutState.trimExcess_unprimed (Bool.eq_false_iff.mpr primed),
      if_neg fun both => primed both.1]
    rfl

/-! ### The refill loop -/

variable (beforeRead : Nat → List Dequeued) (hlen : Nat) (base : List UInt8)

@[simp] theorem refill_primed (feed : Feed) (count : Nat) :
    (feed.refill beforeRead hlen base count).feed.out.primed = feed.out.primed := by
  induction count with
  | zero => rfl
  | succ i ih => exact (arrive_primed _ _).trans ih

@[simp] theorem refill_primeBytes (feed : Feed) (count : Nat) :
    (feed.refill beforeRead hlen base count).feed.out.primeBytes = feed.out.primeBytes := by
  induction count with
  | zero => rfl
  | succ i ih => exact (arrive_primeBytes _ _).trans ih

/-- Every packet that is not filled from the ring is counted. -/
theorem refill_outSilence (feed : Feed) (count : Nat) :
    (feed.refill beforeRead hlen base count).feed.out.outSilence =
      feed.out.outSilence +
        (feed.refill beforeRead hlen base count).pcm.countP (·.length < outPcmBytes) := by
  induction count with
  | zero => rfl
  | succ i ih =>
    rw [refill]
    generalize feed.refill beforeRead hlen base i = before at ih ⊢
    have kept := arrive_outSilence before.feed (beforeRead i)
    generalize before.feed.arrive (beforeRead i) = fed at kept ⊢
    show (if (fed.out.refillPacket hlen i before.base).2.2.length < outPcmBytes then
      fed.out.outSilence + 1 else fed.out.outSilence) = _
    rw [List.countP_append, List.countP_singleton, kept, ih, ← Nat.add_assoc]
    by_cases short : (fed.out.refillPacket hlen i before.base).2.2.length < outPcmBytes
    · rw [if_pos short, if_pos (decide_eq_true short)]
    · rw [if_neg short, if_neg (by simpa using short)]
      rfl

/-- **As long as the ring holds the bytes, every packet is filled from it**, whatever else
arrives. -/
theorem refill_full {feed : Feed} (primed : feed.out.primed = true) (count : Nat)
    (enough : outPcmBytes * count ≤ feed.out.play.avail) :
    (∀ pcm ∈ (feed.refill beforeRead hlen base count).pcm, pcm.length = outPcmBytes) ∧
      feed.out.play.avail ≤
        (feed.refill beforeRead hlen base count).feed.out.play.avail + outPcmBytes * count := by
  induction count with
  | zero => exact ⟨nofun, le_rfl⟩
  | succ i ih =>
    rw [Nat.mul_succ] at enough ⊢
    have kept := refill_primed beforeRead hlen base feed i
    obtain ⟨full, left⟩ := ih (by omega)
    rw [refill]
    generalize feed.refill beforeRead hlen base i = before at full left kept ⊢
    have grown := before.feed.le_avail_arrive (beforeRead i)
    have on := (arrive_primed before.feed (beforeRead i)).trans (kept.trans primed)
    generalize before.feed.arrive (beforeRead i) = fed at grown on ⊢
    obtain ⟨pcm, rest⟩ := OutState.refillPacket_read on hlen i before.base
    refine ⟨fun packet member => ?_, ?_⟩
    · rcases List.mem_append.mp member with earlier | here
      · exact full packet earlier
      · rw [List.mem_singleton.mp here]
        show (fed.out.refillPacket hlen i before.base).2.2.length = outPcmBytes
        rw [pcm, List.length_take, Nat.min_eq_left]
        exact (show outPcmBytes ≤ fed.out.play.avail by omega)
    · show _ ≤ (fed.out.refillPacket hlen i before.base).1.play.items.length + _
      rw [rest, Ring.read_items, List.length_drop]
      show _ ≤ fed.out.play.avail - outPcmBytes + _
      omega

/-- **What a refill loop reads** when nothing arrives: the content of the ring, packet by
packet. -/
theorem refill_quiet {feed : Feed} (primed : feed.out.primed = true) (count : Nat) :
    (feed.refill (fun _ => []) hlen base count).feed.out.play.items =
        feed.out.play.items.drop (outPcmBytes * count) ∧
      (feed.refill (fun _ => []) hlen base count).pcm =
        (List.range count).map fun i => (feed.out.play.items.drop (outPcmBytes * i)).take
          outPcmBytes := by
  induction count with
  | zero => exact ⟨rfl, rfl⟩
  | succ i ih =>
    have kept := refill_primed (fun _ => []) hlen base feed i
    obtain ⟨left, read⟩ := ih
    rw [refill]
    generalize feed.refill (fun _ => []) hlen base i = before at left read kept ⊢
    obtain ⟨pcm, rest⟩ := OutState.refillPacket_read (kept.trans primed) hlen i before.base
    refine ⟨?_, ?_⟩
    · show (before.feed.out.refillPacket hlen i before.base).1.play.items = _
      rw [rest, Ring.read_items, left, List.drop_drop, Nat.mul_succ]
    · show before.pcm ++ [(before.feed.out.refillPacket hlen i before.base).2.2] = _
      rw [pcm, read, left, List.range_succ, List.map_append]
      rfl

end Feed

end Wolverine.Iso
