/-
**The playback engine and its port.**

`iso.rs` is the port of `iso_audio.py`. The two have different rings (`ring.rs` holds 256 KiB and
drops the newest bytes, `wolverine_pw.c` holds 512 KiB and drops the oldest), and only `iso.rs`
trims the ring. With its default settings, the port behaves like the original as long as neither
matters.

* `Loss` — how many of the delivered bytes are neither in the ring nor in a packet; it never falls.
* `Mirrored` — the two engines are in the same state, up to the cells of the ring.
* `RunFollows.step` — so every event keeps "if nothing was lost, the engines are in the same state".
* `port_agrees` — in every run of the port that loses nothing, the original submits, on the same
  events, the same transfers.
-/

import Wolverine.Python.IsoOut

namespace Wolverine.Python

open Wolverine.Audio Wolverine.Bridge Wolverine.Cyclic Wolverine.Iso Wolverine.Machine
open Wolverine.Overlay Wolverine.Rust Wolverine.Tail

/-! ### The same events -/

/-- What a callback of the port delivers, as the C bridge is handed it. -/
def asPlayed (buffer : Dequeued) : List Played :=
  match sinkSlice buffer with
  | some slice => [⟨fun i => slice.getD i 0, UInt32.ofNat slice.length⟩]
  | none => []

/-- Before the first packet, the port has two calls on the ring more. -/
def beforePacket (arrivals : Arrivals) (i : Nat) : List Dequeued :=
  if i = 0 then arrivals.beforeTrim ++ arrivals.beforeSkip ++ arrivals.beforeRead 0
  else arrivals.beforeRead i

def asArrivals (arrivals : Arrivals) : IsoArrivals where
  beforePrime := arrivals.beforePrime.flatMap asPlayed
  beforeRead i := (beforePacket arrivals i).flatMap asPlayed

def asEvent : Event → IsoEvent
  | .sink buffer => .play (asPlayed buffer)
  | .onOut xfer status arrivals => .onOut xfer status (asArrivals arrivals)
  | .diagnostics => .maybeDiag
  | .stop => .stop

/-! ### The same state -/

/-- How many of the delivered bytes are neither in the ring nor among the `taken`. -/
def Loss (feed : Feed) (taken : Nat) : Int :=
  feed.delivered.length - (taken + feed.out.play.avail)

/-- The engines are in the same state. -/
structure Mirrored (rust : Feed) (py : IsoFeed) : Prop where
  ring : ∃ ring, py.iso.pw = some ring ∧ ring.content = rust.out.play.items
  running : py.iso.running = rust.out.running
  header : py.iso.outHdr = rust.out.outHdr
  hlen : rust.out.outHdr.length = 6
  stride : py.iso.outPktSize = rust.out.outPktSize
  number : py.iso.outSeq = rust.out.outSeq.toNat
  primed : py.iso.outPrimed = rust.out.primed
  cushion : rust.out.primeBytes = outPrimeBytes
  pkts : rust.out.outPktsPerXfer = outPktsPerXfer

/-- They are in the same state unless something was lost. -/
structure Follows (rust : Feed) (taken : Nat) (py : IsoFeed) : Prop where
  loss : 0 ≤ Loss rust taken
  mirrored : Loss rust taken = 0 → Mirrored rust py

/-! ### The rings -/

/-- What fits both rings is appended to both. -/
theorem content_ringWrite {ring : RingT} {items : List UInt8} (same : ring.content = items)
    (src : Nat → UInt8) {n : UInt32} (fits : items.length + n.toNat ≤ ringCap.toNat) :
    (ringWrite ring src n).content = items ++ bytesAt src n.toNat := by
  have holds : Represents ring ⟨items, by omega⟩ := same
  have written := holds.write src n
  rw [Represents, Queue.write_items, List.rtake, List.length_append, length_bytesAt,
    Nat.sub_eq_zero_of_le fits, List.drop_zero] at written
  exact written

theorem content_ringRead {ring : RingT} {items : List UInt8} (same : ring.content = items)
    (fits : items.length ≤ ringCap.toNat) (dst : Nat → UInt8) (n : UInt32) :
    bytesAt (ringRead ring dst n).2.1 (ringRead ring dst n).1.toNat = items.take n.toNat ∧
      (ringRead ring dst n).2.2.content = items.drop n.toNat :=
  (show Represents ring ⟨items, fits⟩ from same).read dst n

/-- The ring of the port fits the ring of the bridge. -/
theorem ringCapacity_le : ringCapacity ≤ ringCap.toNat := by decide

/-- A slice as the C bridge is handed it. -/
theorem bytesAt_getD (slice : List UInt8) (small : slice.length < 2 ^ 32) :
    bytesAt (fun i => slice.getD i 0) (UInt32.ofNat slice.length).toNat = slice := by
  rw [UInt32.toNat_ofNat', Nat.mod_eq_of_lt small]
  refine List.ext_getElem (length_bytesAt _ _) fun i _ inside => ?_
  simp only [bytesAt, List.getElem_map, List.getElem_range]
  exact List.getD_eq_getElem _ _ inside

/-! ### One step of the engines -/

theorem play_nil (py : IsoFeed) : py.play [] = py := by
  obtain ⟨iso, played⟩ := py
  obtain ⟨pw⟩ := iso
  unfold IsoFeed.play
  cases pw with
  | none => rfl
  | some ring =>
    simp only [onProcessPlayback, List.foldl_nil, playedBytes, List.flatMap_nil, List.append_nil]

theorem play_append (py : IsoFeed) (first second : List Played) :
    py.play (first ++ second) = (py.play first).play second := by
  obtain ⟨iso, played⟩ := py
  unfold IsoFeed.play
  cases bridge : iso.pw with
  | none => simp only [bridge]
  | some ring =>
    simp only [onProcessPlayback, List.foldl_append, playedBytes, List.flatMap_append,
      List.append_assoc]

/-- Only the rings change. -/
theorem Mirrored.play {rust : Feed} {py : IsoFeed} (mirrored : Mirrored rust py)
    {after : RingT} {play : Ring ringCapacity UInt8} (same : after.content = play.items)
    (delivered played : List UInt8) :
    Mirrored ⟨{ rust.out with play }, delivered⟩
      ⟨{ py.iso with pw := some after }, played⟩ :=
  ⟨⟨after, rfl, same⟩, mirrored.running, mirrored.header, mirrored.hlen, mirrored.stride,
    mirrored.number, mirrored.primed, mirrored.cushion, mirrored.pkts⟩

/-- A callback loses what does not fit. -/
theorem loss_sink (rust : Feed) (taken : Nat) (buffer : Dequeued) :
    Loss (rust.sink buffer) taken =
      Loss rust taken + ((sinkBytes buffer).length - rust.out.play.space : Nat) := by
  unfold Loss Feed.sink sinkProcess sinkBytes
  cases sinkSlice buffer with
  | none =>
    simp only [Option.getD_none, List.append_nil, List.length_nil, Nat.zero_sub]
    omega
  | some slice =>
    simp only [Option.getD_some, List.length_append, Ring.avail, Ring.write_items, List.length_take]
    omega

theorem loss_arrive (rust : Feed) (taken : Nat) (buffers : List Dequeued) :
    Loss rust taken ≤ Loss (rust.arrive buffers) taken := by
  induction buffers generalizing rust with
  | nil => exact le_rfl
  | cons buffer rest ih =>
    have here := loss_sink rust taken buffer
    have later := ih (rust.sink buffer)
    show _ ≤ Loss ((rust.sink buffer).arrive rest) taken
    omega

namespace Follows

variable {rust : Feed} {taken : Nat} {py : IsoFeed}

/-- One callback. -/
theorem sink (follows : Follows rust taken py) (buffer : Dequeued) :
    Follows (rust.sink buffer) taken (py.play (asPlayed buffer)) := by
  have loss := follows.loss
  have lost := loss_sink rust taken buffer
  refine ⟨by omega, fun none_ => ?_⟩
  -- nothing was lost before either, and the slice fits
  have mirrored := follows.mirrored (by omega)
  have room : (sinkBytes buffer).length ≤ rust.out.play.space := by omega
  unfold Feed.sink asPlayed sinkProcess
  unfold sinkBytes at room ⊢
  cases offered : sinkSlice buffer with
  | none =>
    rw [play_nil, Option.getD_none, List.append_nil]
    exact mirrored
  | some slice =>
    rw [offered, Option.getD_some] at room
    obtain ⟨ring, bridge, same⟩ := mirrored.ring
    have capacity := ringCapacity_le
    have small : ringCap.toNat < 2 ^ 32 := by decide
    have space : rust.out.play.space + rust.out.play.items.length = ringCapacity :=
      Nat.sub_add_cancel rust.out.play.fits
    have count : (UInt32.ofNat slice.length).toNat = slice.length := by
      rw [UInt32.toNat_ofNat', Nat.mod_eq_of_lt (by omega)]
    have content := content_ringWrite same (fun i => slice.getD i 0)
      (n := UInt32.ofNat slice.length) (by omega)
    rw [bytesAt_getD slice (by omega), ← Ring.write_items_of_fits room] at content
    unfold IsoFeed.play
    simp only [bridge]
    exact mirrored.play content _ _

theorem arrive (follows : Follows rust taken py) (buffers : List Dequeued) :
    Follows (rust.arrive buffers) taken (py.play (buffers.flatMap asPlayed)) := by
  induction buffers generalizing rust py with
  | nil =>
    rw [List.flatMap_nil, play_nil]
    exact follows
  | cons buffer rest ih =>
    rw [List.flatMap_cons, play_append]
    exact ih (follows.sink buffer)

/-- The wait for a cushion. -/
theorem prime (follows : Follows rust taken py) :
    Follows { rust with out := rust.out.prime } taken { py with iso := py.iso.prime } := by
  have same : Loss { rust with out := rust.out.prime } taken = Loss rust taken := by
    rw [Loss, OutState.prime_play, Loss]
  refine ⟨same ▸ follows.loss, fun none_ => ?_⟩
  have mirrored := follows.mirrored (same ▸ none_)
  obtain ⟨ring, bridge, content⟩ := mirrored.ring
  have used : ring.used = rust.out.play.avail := by rw [← length_content, content, Ring.avail]
  have bounded : ring.used ≤ ringCap.toNat :=
    used ▸ rust.out.play.avail_le.trans ringCapacity_le
  have depth := toInt_wpwPlaybackAvail bounded
  have primed := mirrored.primed
  unfold IsoAudio.prime OutState.prime
  simp only [bridge, depth, used, primed, mirrored.cushion]
  by_cases reached : rust.out.primed = false ∧ outPrimeBytes ≤ rust.out.play.avail
  · have now : (!rust.out.primed && decide ((rust.out.play.avail : Int) ≥ outPrimeBytes)) =
        true := by
      rw [reached.1, Bool.not_false, Bool.true_and, decide_eq_true_eq]
      exact Int.ofNat_le.mpr reached.2
    rw [dif_pos reached, if_pos now]
    exact ⟨⟨ring, rfl, content⟩, mirrored.running, mirrored.header, mirrored.hlen,
      mirrored.stride, mirrored.number, rfl, rfl, mirrored.pkts⟩
  · have later : ¬ (!rust.out.primed && decide ((rust.out.play.avail : Int) ≥ outPrimeBytes)) =
        true := by
      rw [Bool.and_eq_true, Bool.not_eq_true', decide_eq_true_eq]
      exact fun both => reached ⟨both.1, Int.ofNat_le.mp both.2⟩
    rw [dif_neg reached, if_neg later]
    exact mirrored

/-- The trim loses what it drops. -/
theorem trim (follows : Follows rust taken py) (excess : Option Nat) :
    Follows { rust with out := rust.out.trim excess } taken py := by
  cases excess with
  | none => exact follows
  | some count =>
    have loss := follows.loss
    have dropped : (rust.out.play.skip count).2.avail =
        rust.out.play.avail - min count rust.out.play.avail := by
      rw [Ring.avail, Ring.skip_items, List.drop_eq_drop_min, List.length_drop]
      rfl
    unfold Loss at loss
    refine ⟨?_, fun none_ => ?_⟩
    · show (0 : Int) ≤ rust.delivered.length - (taken + (rust.out.play.skip count).2.avail)
      omega
    · have none_ : (rust.delivered.length : Int) - (taken + (rust.out.play.skip count).2.avail) =
          0 := none_
      have kept : Loss rust taken = 0 := by
        unfold Loss
        omega
      have nothing : min count rust.out.play.items.length = 0 := by
        rw [← Ring.avail]
        omega
      have mirrored := follows.mirrored kept
      obtain ⟨ring, bridge, content⟩ := mirrored.ring
      refine ⟨⟨ring, bridge, ?_⟩, mirrored.running, mirrored.header, mirrored.hlen,
        mirrored.stride, mirrored.number, mirrored.primed, mirrored.cushion, mirrored.pkts⟩
      show ring.content = (rust.out.play.skip count).2.items
      rw [Ring.skip_items, List.drop_eq_drop_min, nothing, List.drop_zero, content]

end Follows

/-- What both engines read for a packet, and leave in their rings. -/
theorem Mirrored.readPcm {rust : Feed} {py : IsoFeed} (mirrored : Mirrored rust py)
    (base : List UInt8) (pcmAt : Nat) :
    ∃ read ring, py.iso.readPcm base pcmAt = (read, some ring) ∧
      (if rust.out.primed then rust.out.play.read Iso.outPcmBytes else ([], rust.out.play)).1 =
        read.getD [] ∧
      ring.content =
        (if rust.out.primed then rust.out.play.read Iso.outPcmBytes
          else ([], rust.out.play)).2.items := by
  obtain ⟨ring, bridge, content⟩ := mirrored.ring
  cases primed : rust.out.primed
  · refine ⟨none, ring, ?_, rfl, content⟩
    rw [IsoAudio.readPcm_none (Or.inl (mirrored.primed.trans primed)), bridge]
  · obtain ⟨dst, read⟩ := IsoAudio.readPcm_some bridge (mirrored.primed.trans primed) base pcmAt
    obtain ⟨bytes, rest⟩ := content_ringRead content
      (rust.out.play.fits.trans ringCapacity_le) dst 192
    exact ⟨_, _, read, bytes.symm, rest⟩

/-- The next number. -/
theorem toNat_nextSeq (seq : UInt8) :
    (if seq.toNat < 255 then seq.toNat + 1 else 1) =
      (if seq < 255 then seq + 1 else 1 : UInt8).toNat := by
  by_cases small : seq < 255
  · have below : seq.toNat < 255 := UInt8.lt_iff_toNat_lt.mp small
    rw [if_pos small, if_pos below, UInt8.toNat_add]
    show _ = (seq.toNat + 1) % 256
    omega
  · have top : ¬ seq.toNat < 255 := fun below => small (UInt8.lt_iff_toNat_lt.mpr below)
    rw [if_neg small, if_neg top]
    rfl

/-- **A packet is the same in both engines.** -/
theorem Mirrored.refillPacket {rust : Feed} {py : IsoFeed} (mirrored : Mirrored rust py)
    {i : Nat} {base after : List UInt8} {iso : IsoAudio} {read : Option (List UInt8)}
    (refilled : py.iso.refillPacket 6 i base = .ok (iso, after, read)) :
    Mirrored { rust with out := (rust.out.refillPacket 6 i base).1 } { py with iso } ∧
      (rust.out.refillPacket 6 i base).2 = (after, read.getD []) := by
  have written : pySetByte py.iso.outHdr 2 py.iso.outSeq =
      .ok (rust.out.outHdr.set 2 rust.out.outSeq) := by
    rw [mirrored.header, mirrored.number, pySetByte, if_pos rust.out.outSeq.toNat_lt,
      if_pos (by rw [mirrored.hlen]; decide), UInt8.ofNat_toNat]
  have whole : (rust.out.outHdr.set 2 rust.out.outSeq).take 6 =
      rust.out.outHdr.set 2 rust.out.outSeq :=
    List.take_of_length_le (by rw [List.length_set, mirrored.hlen])
  obtain ⟨pcm, ring, asked, same, content⟩ := mirrored.readPcm
    (overlay base (i * rust.out.outPktSize) (rust.out.outHdr.set 2 rust.out.outSeq))
    (i * rust.out.outPktSize + 6)
  rw [IsoAudio.refillPacket, bind_of_ok written] at refilled
  simp only [whole, mirrored.stride, asked] at refilled
  cases refilled
  refine ⟨⟨⟨ring, rfl, content⟩, mirrored.running, rfl, ?_, rfl, ?_, mirrored.primed,
    mirrored.cushion, mirrored.pkts⟩, ?_⟩
  · exact (List.length_set).trans mirrored.hlen
  · show (if py.iso.outSeq < 255 then py.iso.outSeq + 1 else 1) = _
    rw [mirrored.number]
    exact toNat_nextSeq _
  · unfold OutState.refillPacket
    simp only [same]
    rfl

/-- A packet moves bytes from the ring, it loses none. -/
theorem loss_refillPacket (rust : Feed) (taken hlen i : Nat) (base : List UInt8) :
    Loss { rust with out := (rust.out.refillPacket hlen i base).1 }
      (taken + (rust.out.refillPacket hlen i base).2.2.length) = Loss rust taken := by
  have moved := rust.out.refillPacket_play hlen i base
  have pcm := congrArg (fun pair => pair.1.length) moved
  have play := congrArg (fun pair => pair.2.avail) moved
  dsimp only at pcm play
  unfold Loss
  simp only [play, pcm]
  split
  · simp only [Ring.avail, Ring.read_fst, Ring.read_items, List.length_take, List.length_drop]
    omega
  · simp only [List.length_nil]
    omega

/-- The two loops have made the same packets, unless something was lost. -/
structure RefillFollows (rust : Refill) (taken : Nat) (py : IsoRefill) : Prop where
  follows : Follows rust.feed (taken + rust.pcm.flatten.length) py.feed
  base : Loss rust.feed (taken + rust.pcm.flatten.length) = 0 → rust.base = py.base
  pcm : Loss rust.feed (taken + rust.pcm.flatten.length) = 0 →
    rust.pcm = py.reads.map (·.getD [])

/-- The loops of the two engines. -/
theorem Follows.refill {rust : Feed} {taken : Nat} {py : IsoFeed} (follows : Follows rust taken py)
    (beforeRead : Nat → List Dequeued) (base : List UInt8) (filled : Nat) :
    ∀ refill, py.refill (fun i => (beforeRead i).flatMap asPlayed) 6 base filled = .ok refill →
      RefillFollows (rust.refill beforeRead 6 base filled) taken refill := by
  induction filled with
  | zero =>
    intro refill ran
    cases ran
    exact ⟨follows, fun _ => rfl, fun _ => rfl⟩
  | succ i ih =>
    intro refill ran
    obtain ⟨before, ranBefore, ran⟩ := ok_of_bind ran
    obtain ⟨⟨iso, after, read⟩, refilled, ran⟩ := ok_of_bind ran
    cases ran
    have prior := ih before ranBefore
    have next := prior.follows.arrive (beforeRead i)
    rw [Feed.refill]
    generalize rust.refill beforeRead 6 base i = rustBefore at prior next ⊢
    have fed := loss_arrive rustBefore.feed (taken + rustBefore.pcm.flatten.length) (beforeRead i)
    generalize rustBefore.feed.arrive (beforeRead i) = rustFed at next fed ⊢
    have kept := loss_refillPacket rustFed (taken + rustBefore.pcm.flatten.length) 6 i
      rustBefore.base
    have total : taken + (rustBefore.pcm ++
        [(rustFed.out.refillPacket 6 i rustBefore.base).2.2]).flatten.length =
        taken + rustBefore.pcm.flatten.length +
          (rustFed.out.refillPacket 6 i rustBefore.base).2.2.length := by
      rw [List.flatten_concat, List.length_append, Nat.add_assoc]
    rw [← total] at kept
    have start := prior.follows.loss
    -- without a loss up to here, the packet is the same
    have same : Loss rustFed (taken + rustBefore.pcm.flatten.length) = 0 →
        Mirrored { rustFed with out := (rustFed.out.refillPacket 6 i rustBefore.base).1 }
            { before.feed.play ((beforeRead i).flatMap asPlayed) with iso } ∧
          (rustFed.out.refillPacket 6 i rustBefore.base).2 = (after, read.getD []) ∧
          rustBefore.pcm = before.reads.map (·.getD []) := by
      intro none_
      have nothing : Loss rustBefore.feed (taken + rustBefore.pcm.flatten.length) = 0 := by omega
      rw [← prior.base nothing] at refilled
      obtain ⟨mirrored, packet⟩ := (next.mirrored none_).refillPacket refilled
      exact ⟨mirrored, packet, prior.pcm nothing⟩
    refine ⟨⟨?_, fun none_ => (same (kept.symm.trans none_)).1⟩, fun none_ => ?_, fun none_ => ?_⟩
    · exact kept.symm ▸ next.loss
    · exact congrArg Prod.fst (same (kept.symm.trans none_)).2.1
    · obtain ⟨-, packet, earlier⟩ := same (kept.symm.trans none_)
      rw [List.map_append, ← earlier]
      exact congrArg (fun pair => rustBefore.pcm ++ [pair.2]) packet

/-- What is played early is played before the first packet. -/
theorem refill_early (py : IsoFeed) {early : List Played} {beforeRead later : Nat → List Played}
    (first : beforeRead 0 = early ++ later 0) (rest : ∀ i, beforeRead (i + 1) = later (i + 1))
    (hlen : Nat) (base : List UInt8) (filled : Nat) :
    py.refill beforeRead hlen base (filled + 1) =
      (py.play early).refill later hlen base (filled + 1) := by
  induction filled with
  | zero =>
    show (py.play (beforeRead 0)).iso.refillPacket hlen 0 base >>= _ =
      ((py.play early).play (later 0)).iso.refillPacket hlen 0 base >>= _
    rw [first, play_append]
  | succ i ih =>
    show py.refill beforeRead hlen base (i + 1) >>= _ =
      (py.play early).refill later hlen base (i + 1) >>= _
    rw [ih, rest]

/-! ### What is lost stays lost -/

theorem loss_trim (rust : Feed) (taken : Nat) (excess : Option Nat) :
    Loss rust taken ≤ Loss { rust with out := rust.out.trim excess } taken := by
  cases excess with
  | none => exact le_rfl
  | some count =>
    show _ ≤ (rust.delivered.length : Int) - (taken + (rust.out.play.skip count).2.avail)
    rw [Loss, Ring.avail, Ring.avail, Ring.skip_items, List.length_drop]
    omega

theorem loss_refill (rust : Feed) (taken : Nat) (beforeRead : Nat → List Dequeued) (hlen : Nat)
    (base : List UInt8) (filled : Nat) :
    Loss rust taken ≤ Loss (rust.refill beforeRead hlen base filled).feed
      (taken + (rust.refill beforeRead hlen base filled).pcm.flatten.length) := by
  induction filled with
  | zero => exact le_rfl
  | succ i ih =>
    rw [Feed.refill]
    generalize rust.refill beforeRead hlen base i = before at ih ⊢
    have fed := loss_arrive before.feed (taken + before.pcm.flatten.length) (beforeRead i)
    have kept := loss_refillPacket (before.feed.arrive (beforeRead i))
      (taken + before.pcm.flatten.length) hlen i before.base
    rw [Nat.add_assoc, ← List.length_append, ← List.flatten_concat] at kept
    exact (ih.trans fed).trans kept.ge

theorem loss_refilled (rust : Feed) (taken : Nat) (arrivals : Arrivals) (base : List UInt8) :
    Loss (rust.trimmed arrivals) taken ≤ Loss (rust.refilled arrivals base).feed
        (taken + (rust.refilled arrivals base).pcm.flatten.length) ∧
      Loss rust taken ≤ Loss (rust.trimmed arrivals) taken := by
  refine ⟨loss_refill _ _ _ _ _ _, ?_⟩
  have primed : Loss (rust.arrive arrivals.beforePrime) taken =
      Loss { rust.arrive arrivals.beforePrime with
        out := (rust.arrive arrivals.beforePrime).out.prime } taken := by
    rw [Loss, Loss, OutState.prime_play]
  calc Loss rust taken
      ≤ Loss (rust.arrive arrivals.beforePrime) taken := loss_arrive _ _ _
    _ ≤ Loss (rust.entered arrivals) taken := primed.trans_le (loss_arrive _ _ _)
    _ ≤ Loss ((rust.entered arrivals).arrive arrivals.beforeSkip) taken := loss_arrive _ _ _
    _ ≤ Loss (rust.trimmed arrivals) taken := loss_trim _ _ _

/-! ### Runs -/

/-- How many of the delivered bytes a run of the port has lost. -/
def lost (rust : Playback) : Int := Loss rust.feed rust.pcm.flatten.length

/-- What is lost stays lost. -/
theorem lost_step (rust : Playback) (event : Event) : lost rust ≤ lost (rust.step event) := by
  cases event with
  | sink buffer =>
    have here := loss_sink rust.feed rust.pcm.flatten.length buffer
    show Loss rust.feed rust.pcm.flatten.length ≤
      Loss (rust.feed.sink buffer) rust.pcm.flatten.length
    omega
  | diagnostics => exact le_rfl
  | stop => exact le_rfl
  | onOut xfer status arrivals =>
    rcases rust.step_onOut xfer status arrivals with same | ⟨base, refill, -, returned, same⟩
    · rw [same]
    · rw [same]
      rw [Feed.onOut_eq] at returned
      split at returned
      · cases returned
      · cases returned
        obtain ⟨refilled, trimmed⟩ :=
          loss_refilled rust.feed rust.pcm.flatten.length arrivals base
        show lost rust ≤ Loss _ (rust.pcm ++ _).flatten.length
        rw [List.flatten_append, List.length_append]
        exact trimmed.trans refilled

/-- The two runs have done the same. -/
structure SameRun (rust : Playback) (py : IsoRun) : Prop where
  mirrored : Mirrored rust.feed py.feed
  bufs : rust.bufs = py.bufs
  submitted : rust.submitted = py.submitted
  pcm : rust.pcm = py.reads.map (·.getD [])

/-- **One completion.** If nothing is lost, both engines return early, or both leave the same. -/
theorem SameRun.onOut {rust : Playback} {py : IsoRun} (same : SameRun rust py) {count : Nat}
    (ready : py.feed.iso.Ready count) (none_ : lost rust = 0) {status : TransferStatus}
    {arrivals : Arrivals} {base : List UInt8} {result : Option IsoRefill}
    (returned : py.feed.onOut status (asArrivals arrivals) base = .ok result) :
    (rust.feed.onOut status arrivals base = none ∧ result = none) ∨
      ∃ refill pyRefill, rust.feed.onOut status arrivals base = some refill ∧
        result = some pyRefill ∧
        (Loss refill.feed (rust.pcm.flatten.length + refill.pcm.flatten.length) = 0 →
          Mirrored refill.feed pyRefill.feed ∧ refill.base = pyRefill.base ∧
            refill.pcm = pyRefill.reads.map (·.getD [])) := by
  have running := same.mirrored.running
  rw [Feed.onOut_eq]
  unfold IsoFeed.onOut at returned
  by_cases guarded : rust.feed.Guarded status
  · refine Or.inl ⟨if_pos guarded, ?_⟩
    rcases guarded with stopped | gone
    · rw [if_pos (running.trans stopped)] at returned
      exact (Except.ok.inj returned).symm
    · rw [if_pos gone] at returned
      split at returned <;> exact (Except.ok.inj returned).symm
  · obtain ⟨alive, present⟩ := not_or.mp guarded
    rw [if_neg fun stopped => alive (running.symm.trans stopped), if_neg present] at returned
    obtain ⟨refill, ran, last⟩ := ok_of_bind returned
    cases last
    have primed := (IsoFeed.ready_play ready (asArrivals arrivals).beforePrime).prime
    dsimp only at ran
    rw [primed.hlen, show outPktsPerXfer = 7 + 1 from rfl,
      @refill_early _ ((arrivals.beforeTrim ++ arrivals.beforeSkip).flatMap asPlayed) _
        (fun i => (arrivals.beforeRead i).flatMap asPlayed) List.flatMap_append
        fun _ => rfl] at ran
    have follows : Follows rust.feed rust.pcm.flatten.length py.feed :=
      ⟨none_.ge, fun _ => same.mirrored⟩
    have entered := (follows.arrive arrivals.beforePrime).prime.arrive arrivals.beforeTrim
    have trimmed := (entered.arrive arrivals.beforeSkip).trim
      (rust.feed.entered arrivals).out.trimExcess
    rw [← play_append, ← List.flatMap_append] at trimmed
    refine Or.inr ⟨_, refill, if_neg guarded, rfl, fun nothing => ?_⟩
    obtain ⟨grows, before⟩ :=
      loss_refilled rust.feed rust.pcm.flatten.length arrivals base
    have start := trimmed.loss
    have mirrored := trimmed.mirrored (le_antisymm (nothing ▸ grows) start)
    have loop := trimmed.refill arrivals.beforeRead base (7 + 1) refill ran
    have hlen : (rust.feed.trimmed arrivals).out.outHdr.length = 6 := mirrored.hlen
    have pkts : (rust.feed.trimmed arrivals).out.outPktsPerXfer = 7 + 1 := mirrored.pkts
    rw [Feed.refilled, hlen, pkts] at nothing ⊢
    exact ⟨loop.follows.mirrored nothing, loop.base nothing, loop.pcm nothing⟩

/-- The runs have done the same, unless the port has lost something. -/
structure RunFollows (rust : Playback) (py : IsoRun) : Prop where
  steady : IsoRun.Steady 1 py
  loss : 0 ≤ lost rust
  same : lost rust = 0 → SameRun rust py

theorem wholeOne (event : IsoEvent) : event.Whole 1 := by
  cases event with
  | play buffers => exact fun _ _ => one_dvd _
  | onOut xfer status arrivals => exact ⟨fun _ _ => one_dvd _, fun _ _ _ => one_dvd _⟩
  | maybeDiag => trivial
  | stop => trivial

/-- **One event.** -/
theorem RunFollows.step {rust : Playback} {py : IsoRun} (follows : RunFollows rust py)
    (event : Event) :
    ∃ next, py.step (asEvent event) = .ok next ∧ RunFollows (rust.step event) next := by
  obtain ⟨next, stepped, steady⟩ :=
    IsoRun.steady_step (one_dvd _) (one_dvd _) follows.steady (wholeOne (asEvent event))
  have grows := lost_step rust event
  have loss := follows.loss
  refine ⟨next, stepped, steady, loss.trans grows, fun nothing => ?_⟩
  have none_ : lost rust = 0 := by omega
  have same := follows.same none_
  have mirrored := same.mirrored
  cases event with
  | sink buffer =>
    cases stepped
    have played := (⟨none_.ge, fun _ => mirrored⟩ :
      Follows rust.feed rust.pcm.flatten.length py.feed).sink buffer
    exact ⟨played.mirrored nothing, same.bufs, same.submitted, same.pcm⟩
  | diagnostics =>
    cases stepped
    exact ⟨⟨mirrored.ring, mirrored.running, mirrored.header, mirrored.hlen, mirrored.stride,
      mirrored.number, mirrored.primed, mirrored.cushion, mirrored.pkts⟩, same.bufs,
      same.submitted, same.pcm⟩
  | stop =>
    cases stepped
    exact ⟨⟨mirrored.ring, rfl, mirrored.header, mirrored.hlen, mirrored.stride,
      mirrored.number, mirrored.primed, mirrored.cushion, mirrored.pkts⟩, same.bufs,
      same.submitted, same.pcm⟩
  | onOut xfer status arrivals =>
    simp only [asEvent, IsoRun.step, ← same.bufs] at stepped
    simp only [Playback.step] at nothing ⊢
    cases found : rust.bufs[xfer]? with
    | none =>
      rw [found] at stepped
      cases stepped
      exact same
    | some base =>
      rw [found] at stepped nothing
      obtain ⟨result, returned, finished⟩ := ok_of_bind stepped
      cases finished
      rcases same.onOut follows.steady.ready none_ returned with
        ⟨guarded, rfl⟩ | ⟨refill, pyRefill, refilled, rfl, both⟩
      · simp only [guarded]
        exact same
      · simp only [refilled] at nothing ⊢
        have total : (rust.resubmit xfer refill).pcm.flatten.length =
            rust.pcm.flatten.length + refill.pcm.flatten.length := by
          show (rust.pcm ++ refill.pcm).flatten.length = _
          rw [List.flatten_append, List.length_append]
        rw [lost, total] at nothing
        obtain ⟨mirrored, base, pcm⟩ := both nothing
        refine ⟨mirrored, ?_, ?_, ?_⟩
        · exact congrArg₂ (fun bufs base => bufs.set xfer base) same.bufs base
        · exact congrArg₂ (fun submitted base => submitted ++ [Submission.mk .onOut base])
            same.submitted base
        · show rust.pcm ++ refill.pcm = (py.reads ++ pyRefill.reads).map _
          rw [List.map_append, same.pcm, pcm]

/-- The settings that are fixed in `iso_audio.py` are the defaults of the port. -/
theorem ofEnv_default {profile : Profile} {config : OutConfig}
    (default : OutConfig.ofEnv profile none none none = .ok config) :
    config.primeBytes = outPrimeBytes ∧ config.outPktsPerXfer = outPktsPerXfer ∧
      config.outNumXfers = outNumXfers := by
  have product : mulUsize profile Iso.outPcmBytes (envUsize none defaultPrimeMs) =
      .ok outPrimeBytes := by
    cases profile <;> decide
  rw [OutConfig.ofEnv, bind_of_ok product] at default
  cases default
  exact ⟨rfl, rfl, rfl⟩

theorem outHeader_one : outHeader 1 = audioHeader 1 := by decide +kernel

theorem outStride_eq : outStride = isoStride := by
  rw [outStride, outHeader_one]
  rfl

/-- Both engines start in the same state. -/
theorem runFollows_start {profile : Profile} {config : OutConfig}
    (default : OutConfig.ofEnv profile none none none = .ok config)
    (memory : Fin ringCap.toNat → UInt8) :
    ∃ begun, IsoRun.start ((some memory).map ringInit) = .ok begun ∧
      RunFollows (Playback.start config) begun := by
  obtain ⟨cushion, pkts, xfers⟩ := ofEnv_default default
  obtain ⟨begun, started, steady⟩ := IsoRun.steady_start 1 (some memory)
  refine ⟨begun, started, steady, le_rfl, fun _ => ?_⟩
  obtain ⟨iso, built, rest⟩ := ok_of_bind started
  obtain ⟨tmpl, header, fields⟩ := ok_of_bind built
  rw [buildOutHeader_eq (by decide)] at header
  cases header
  cases fields
  cases rest
  have content : (ringInit memory).content = [] := represents_init memory
  refine ⟨⟨⟨_, rfl, content⟩, rfl, outHeader_one.symm, ?_, outStride_eq.symm, rfl, rfl, cushion,
    pkts⟩, ?_, ?_, rfl⟩
  · exact congrArg List.length outHeader_one
  · show List.replicate config.outNumXfers
        (List.replicate (outStride * config.outPktsPerXfer) 0) = _
    rw [xfers, pkts, outStride_eq]
    rfl
  · show List.map _ (List.replicate config.outNumXfers
      (List.replicate (outStride * config.outPktsPerXfer) 0)) = _
    rw [xfers, pkts, outStride_eq]
    rfl

theorem runFollows_run {rust : Playback} {py : IsoRun} (follows : RunFollows rust py)
    (events : List Event) :
    ∃ last, Machine.run IsoRun.step py (events.map asEvent) = .ok last ∧
      RunFollows (events.foldl Playback.step rust) last := by
  induction events generalizing rust py with
  | nil => exact ⟨py, rfl, follows⟩
  | cons event rest ih =>
    obtain ⟨next, stepped, follows⟩ := follows.step event
    obtain ⟨last, ran, follows⟩ := ih follows
    exact ⟨last, (run_cons stepped _).trans ran, follows⟩

/-- **The port agrees with the original.** In every run of the port with its default settings that
loses none of the delivered bytes, neither in a full ring nor by a trim, `iso_audio.py` submits on
the same events the same transfers, filled with the same bytes of the ring. -/
theorem port_agrees (profile : Profile) {config : OutConfig}
    (default : OutConfig.ofEnv profile none none none = .ok config)
    (memory : Fin ringCap.toNat → UInt8) (events : List Event)
    (lossless : (Playback.run config events).pcm.flatten.length +
      (Playback.run config events).feed.out.play.avail =
        (Playback.run config events).feed.delivered.length) :
    ∃ last, IsoRun.run (some memory) (events.map asEvent) = .ok last ∧
      last.submitted = (Playback.run config events).submitted ∧
      last.reads.map (·.getD []) = (Playback.run config events).pcm := by
  obtain ⟨begun, started, follows⟩ := runFollows_start default memory
  obtain ⟨last, ran, follows⟩ := runFollows_run follows events
  have none_ : lost (Playback.run config events) = 0 := by
    unfold lost Loss
    omega
  have same := follows.same none_
  exact ⟨last, (bind_of_ok started _).trans ran, same.submitted.symm, same.pcm.symm⟩

/-- 40 ms are delivered, a transfer completes, and the engine is told to stop. -/
theorem port_agrees_primed :
    let config : OutConfig := ⟨8, 6, 7680, by decide, by decide⟩
    let events : List Event :=
      [.sink (some [⟨some (List.replicate 7680 1), 7680, 0⟩]),
        .onOut 0 .completed ⟨[], [], [], fun _ => []⟩, .stop]
    ∃ last, IsoRun.run (some fun _ => 0) (events.map asEvent) = .ok last ∧
      last.submitted = (Playback.run config events).submitted ∧
      last.reads.map (·.getD []) = (Playback.run config events).pcm :=
  port_agrees .release rfl _ _ (by decide +kernel)

end Wolverine.Python
