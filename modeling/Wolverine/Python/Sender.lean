/-
**The chunked sender of `gip_init.py` on its own.**

`_gip_auth_send_chunked` writes the first chunk, then one chunk after each wait that sees an ACK. A
wait that sees none breaks the loop; the empty chunk that signals completion follows all the same.
The device is a script: what the reads of each wait come to. Its writes succeed, and are logged.

* `gipAuthSendChunks_run` — the loop writes consecutive chunks, and gets to the end of the payload
  exactly when each of its waits sees an ACK.
* `completion_iff` — so the chunks before the empty one make up the payload exactly then.
-/

import Wolverine.Python.Transfer

namespace Wolverine.Python

open Wolverine.Machine Wolverine.Overlay

/-! ### A scripted device -/

/-- `_wait_for_gip_ack`: the reads of a wait, up to its deadline, bring an ACK of the command. -/
def acksIn (cmd : Nat) (reads : List DevRead) : Bool :=
  reads.any fun
    | .data raw => isGipAck cmd raw
    | .timeout => false
    | .usbError => false

/-- What was written, and the reads of the waits to come; after the last there is silence. -/
structure Script where
  written : List (List UInt8)
  waits : List (List DevRead)

/-- The chunked sender calls `write` and `waitForGipAck` alone. -/
def scriptLink : Link Script where
  write raw script := (true, { script with written := script.written ++ [raw] })
  gipRecv script := (none, script)
  drainBuffer _ script := script
  waitForGipAck cmd script :=
    (acksIn cmd (script.waits.headD []), { script with waits := script.waits.tail })
  recvAuthPkt _ script := .ok (none, script)
  receiveIdentifyResponse _ script := .ok (none, script)

/-- The empty chunk with the total as its offset. -/
def isCompletion (total : Nat) (raw : List UInt8) : Bool :=
  match decodeGipHeader raw with
  | none => false
  | some h => h.cmd = gipCmdAuthenticate ∧ h.opts &&& gipOptChunk ≠ 0 ∧
      h.opts &&& gipOptChunkStart = 0 ∧ h.pktLen = 0 ∧ h.chunkOffset = total

/-- The chunks of a list of frames. -/
def chunksOf (frames : List (List UInt8)) : List AuthChunk :=
  frames.filterMap fun raw => (chunkOfFrame raw).map Prod.snd

theorem chunksOf_cons {raw : List UInt8} {total : Option Nat} {chunk : AuthChunk}
    (carried : chunkOfFrame raw = some (total, chunk)) (frames : List (List UInt8)) :
    chunksOf (raw :: frames) = chunk :: chunksOf frames :=
  List.filterMap_cons_some (by rw [carried]; rfl)

/-! ### The frames of the sender -/

section Frames

variable {opts seq : Nat} (optsByte : opts ≤ 255) (seqByte : seq ≤ 255)
  (chunk : opts &&& gipOptChunk ≠ 0)

include optsByte seqByte chunk

theorem decode_frame (data : List UInt8) (offset : Nat) :
    decodeGipHeader (headerOf gipCmdAuthenticate opts seq data.length (some offset) ++ data) = some
      { cmd := gipCmdAuthenticate, opts, seq
        hdrLen := (headerOf gipCmdAuthenticate opts seq data.length (some offset)).length
        pktLen := data.length, chunkOffset := offset } :=
  decode_headerOf (by decide) optsByte seqByte data.length (iff_of_true rfl chunk) data

/-- The first chunk. -/
theorem chunkOfFrame_start (start : opts &&& gipOptChunkStart ≠ 0) (data : List UInt8)
    (total : Nat) :
    chunkOfFrame (headerOf gipCmdAuthenticate opts seq data.length (some total) ++ data) =
      some (some total, { offset := 0, declared := data.length, data }) := by
  unfold chunkOfFrame
  rw [decode_frame optsByte seqByte chunk data total]
  simp only [ne_eq, not_true, if_false, if_pos start, List.drop_left, List.take_length]

/-- A later chunk. -/
theorem chunkOfFrame_later (later : opts &&& gipOptChunkStart = 0) {data : List UInt8}
    (nonempty : data ≠ []) (offset : Nat) :
    chunkOfFrame (headerOf gipCmdAuthenticate opts seq data.length (some offset) ++ data) =
      some (none, { offset, declared := data.length, data }) := by
  have positive : data.length ≠ 0 := fun zero => nonempty (List.length_eq_zero_iff.mp zero)
  unfold chunkOfFrame
  rw [decode_frame optsByte seqByte chunk data offset]
  simp only [ne_eq, not_true, if_false, not_not.mpr later, List.drop_left, List.take_length,
    if_pos (And.intro chunk positive)]

/-- A frame with data completes nothing. -/
theorem isCompletion_data {data : List UInt8} (nonempty : data ≠ []) (offset total : Nat) :
    isCompletion total
      (headerOf gipCmdAuthenticate opts seq data.length (some offset) ++ data) = false := by
  have positive : data.length ≠ 0 := fun zero => nonempty (List.length_eq_zero_iff.mp zero)
  unfold isCompletion
  rw [decode_frame optsByte seqByte chunk data offset]
  exact decide_eq_false fun all => positive all.2.2.2.1

/-- The empty chunk completes. -/
theorem isCompletion_empty (later : opts &&& gipOptChunkStart = 0) (total : Nat) :
    isCompletion total (headerOf gipCmdAuthenticate opts seq 0 (some total)) = true := by
  have decoded := decode_frame optsByte seqByte chunk [] total
  rw [List.append_nil] at decoded
  unfold isCompletion
  rw [show headerOf gipCmdAuthenticate opts seq 0 (some total) =
    headerOf gipCmdAuthenticate opts seq ([] : List UInt8).length (some total) from rfl, decoded]
  exact decide_eq_true ⟨rfl, chunk, later, rfl, rfl⟩

end Frames

/-! ### The loop -/

/-- The options of a chunk after the first. -/
def laterOpts (last : Prop) [Decidable last] : Nat :=
  gipClientId ||| gipOptInternal ||| gipOptChunk ||| if last then gipOptAck else 0

theorem laterOpts_bits (last : Prop) [Decidable last] :
    laterOpts last ≤ 255 ∧ laterOpts last &&& gipOptChunk ≠ 0 ∧
      laterOpts last &&& gipOptChunkStart = 0 := by
  unfold laterOpts
  split <;> decide

/-- A later chunk as a frame. -/
def laterFrame (authPayload : List UInt8) (seq offset size : Nat) (last : Prop) [Decidable last] :
    List UInt8 :=
  headerOf gipCmdAuthenticate (laterOpts last) seq size (some offset) ++
    (authPayload.drop offset).take size

section Loop

variable {authPayload : List UInt8} {seq : Nat} (seqByte : seq ≤ 255)

include seqByte

/-- The frame carries a piece of the payload to its place, and completes nothing. -/
theorem laterFrame_chunk {offset size : Nat} (last : Prop) [Decidable last] (positive : 0 < size)
    (inside : offset + size ≤ authPayload.length) :
    chunkOfFrame (laterFrame authPayload seq offset size last) = some (none,
      { offset, declared := size, data := (authPayload.drop offset).take size }) ∧
    ∀ total, isCompletion total (laterFrame authPayload seq offset size last) = false := by
  have length : ((authPayload.drop offset).take size).length = size :=
    List.length_take_of_le (by rw [List.length_drop]; omega)
  have nonempty : (authPayload.drop offset).take size ≠ [] :=
    List.ne_nil_of_length_pos (by rw [length]; exact positive)
  obtain ⟨optsByte, chunk, later⟩ := laterOpts_bits last
  have carried := chunkOfFrame_later optsByte seqByte chunk later nonempty offset
  have more := isCompletion_data optsByte seqByte chunk nonempty offset
  rw [length] at carried more
  exact ⟨carried, more⟩

/-- After an ACK, a chunk is written. -/
theorem gipAuthSendChunks_acked {offset remaining : Nat} (more : remaining ≠ 0)
    {waits : List (List DevRead)} (acked : acksIn gipCmdAuthenticate (waits.headD []) = true)
    (written : List (List UInt8)) (seqRef : Nat) :
    gipAuthSendChunks scriptLink authPayload seq offset remaining ⟨⟨written, waits⟩, seqRef⟩ =
      gipAuthSendChunks scriptLink authPayload seq (offset + min remaining gipPktMaxLen)
        (remaining - min remaining gipPktMaxLen)
        ⟨⟨written ++ [laterFrame authPayload seq offset (min remaining gipPktMaxLen)
          (min remaining gipPktMaxLen = remaining)], waits.tail⟩, seqRef⟩ := by
  have waited : waitForGipAck scriptLink gipCmdAuthenticate ⟨⟨written, waits⟩, seqRef⟩ =
      .ok (true, ⟨⟨written, waits.tail⟩, seqRef⟩) :=
    waitForGipAck_ok scriptLink (congrArg (·, _) acked)
  obtain ⟨optsByte, -, -⟩ := laterOpts_bits (min remaining gipPktMaxLen = remaining)
  rw [gipAuthSendChunks, if_neg more]
  refine (run_bind waited).trans ?_
  rw [if_pos rfl]
  refine (run_lift (buildGipHeader_of_le (by decide) optsByte seqByte _ _) _).trans ?_
  exact run_bind (devWrite_ok scriptLink rfl)

omit seqByte in
/-- Without an ACK, the loop breaks. -/
theorem gipAuthSendChunks_silent {offset remaining : Nat} (more : remaining ≠ 0)
    {waits : List (List DevRead)} (silent : acksIn gipCmdAuthenticate (waits.headD []) = false)
    (written : List (List UInt8)) (seqRef : Nat) :
    gipAuthSendChunks scriptLink authPayload seq offset remaining ⟨⟨written, waits⟩, seqRef⟩ =
      .ok ((), ⟨⟨written, waits.tail⟩, seqRef⟩) := by
  have waited : waitForGipAck scriptLink gipCmdAuthenticate ⟨⟨written, waits⟩, seqRef⟩ =
      .ok (false, ⟨⟨written, waits.tail⟩, seqRef⟩) :=
    waitForGipAck_ok scriptLink (congrArg (·, _) silent)
  rw [gipAuthSendChunks, if_neg more]
  refine (run_bind waited).trans ?_
  rw [if_neg Bool.false_ne_true]
  rfl

end Loop

/-- The waits of the loop, for so many bytes left, all see an ACK. -/
def AllAcked (waits : List (List DevRead)) (remaining : Nat) : Prop :=
  ∀ k < (remaining + 57) / 58, acksIn gipCmdAuthenticate (waits.getD k []) = true

/-- One wait, then the others. -/
theorem allAcked_step {waits : List (List DevRead)} {remaining : Nat} (positive : remaining ≠ 0) :
    AllAcked waits remaining ↔ acksIn gipCmdAuthenticate (waits.headD []) = true ∧
      AllAcked waits.tail (remaining - min remaining gipPktMaxLen) := by
  have count : (remaining + 57) / 58 =
      (remaining - min remaining gipPktMaxLen + 57) / 58 + 1 := by
    unfold gipPktMaxLen
    omega
  have first : waits.headD [] = waits.getD 0 [] := by cases waits <;> rfl
  have later : ∀ k, waits.tail.getD k [] = waits.getD (k + 1) [] := by
    intro k
    cases waits <;> rfl
  unfold AllAcked
  rw [count, first]
  refine ⟨fun all => ⟨all 0 (Nat.succ_pos _), fun k below => ?_⟩, fun both k below => ?_⟩
  · rw [later]
    exact all (k + 1) (Nat.succ_lt_succ below)
  · cases k with
    | zero => exact both.1
    | succ k =>
      rw [← later]
      exact both.2 k (Nat.lt_of_succ_lt_succ below)

/-- **The loop** writes consecutive chunks from its offset on, and gets to the end of the payload
exactly when each of its waits sees an ACK. -/
theorem gipAuthSendChunks_run {authPayload : List UInt8} {seq : Nat} (seqByte : seq ≤ 255)
    (offset remaining : Nat) (session : Session Script)
    (split : offset + remaining = authPayload.length) :
    ∃ frames after stop,
      gipAuthSendChunks scriptLink authPayload seq offset remaining session = .ok ((), after) ∧
      after.dev.written = session.dev.written ++ frames ∧
      (∀ raw ∈ frames, isCompletion authPayload.length raw = false) ∧
      Tiles authPayload offset (writesOf (chunksOf frames)) stop ∧
      (stop = authPayload.length ↔ AllAcked session.dev.waits remaining) := by
  induction offset, remaining using gipAuthSendChunks.induct generalizing session with
  | case1 offset =>
    refine ⟨[], session, offset, ?_, (List.append_nil _).symm, ?_, Tiles.done offset, ?_⟩
    · rw [gipAuthSendChunks, if_pos rfl]
      rfl
    · exact fun raw member => by cases member
    · exact iff_of_true split fun k below => absurd below (Nat.not_lt_zero k)
  | case2 offset remaining more ih =>
    obtain ⟨⟨written, waits⟩, seqRef⟩ := session
    cases acked : acksIn gipCmdAuthenticate (waits.headD []) with
    | true =>
      have positive : 0 < min remaining gipPktMaxLen := by
        unfold gipPktMaxLen
        omega
      have inside : offset + min remaining gipPktMaxLen ≤ authPayload.length := by omega
      obtain ⟨carried, open_⟩ := laterFrame_chunk seqByte
        (min remaining gipPktMaxLen = remaining) positive inside
      obtain ⟨frames, after, stop, ran, logged, opens, tiles, whole⟩ :=
        ih ⟨⟨written ++ [laterFrame authPayload seq offset (min remaining gipPktMaxLen)
          (min remaining gipPktMaxLen = remaining)], waits.tail⟩, seqRef⟩ (by omega)
      refine ⟨_ :: frames, after, stop, (gipAuthSendChunks_acked seqByte more acked _ _).trans ran,
        logged.trans (List.append_assoc _ _ _), List.forall_mem_cons.mpr ⟨open_ _, opens⟩, ?_, ?_⟩
      · rw [chunksOf_cons carried]
        exact tiles.piece positive inside
      · rw [whole, allAcked_step more, acked]
        exact (and_iff_right rfl).symm
    | false =>
      refine ⟨[], ⟨⟨written, waits.tail⟩, seqRef⟩, offset,
        gipAuthSendChunks_silent more acked written seqRef, (List.append_nil _).symm, ?_,
        Tiles.done offset, ?_⟩
      · exact fun raw member => by cases member
      · refine iff_of_false (fun whole => by omega) fun all => ?_
        rw [allAcked_step more, acked] at all
        exact Bool.false_ne_true all.1

/-! ### The whole sender -/

/-- If the empty chunk that signals completion was written, the chunks before it make up the
payload: each byte once, in order. -/
def CompletesWhole (authPayload : List UInt8) (written : List (List UInt8)) : Prop :=
  (∃ raw ∈ written, isCompletion authPayload.length raw = true) →
    Tiles authPayload 0 (writesOf (chunksOf
      (written.takeWhile fun raw => !isCompletion authPayload.length raw))) authPayload.length

/-- The options of the first chunk. -/
def firstOpts : Nat :=
  gipClientId ||| gipOptInternal ||| gipOptAck ||| gipOptChunkStart ||| gipOptChunk

/-- The first chunk as a frame. -/
def firstFrame (authPayload : List UInt8) (seq : Nat) : List UInt8 :=
  headerOf gipCmdAuthenticate firstOpts seq gipPktMaxLen (some authPayload.length) ++
    authPayload.take gipPktMaxLen

/-- The options of the empty chunk. -/
def emptyOpts : Nat := gipClientId ||| gipOptInternal ||| gipOptChunk

/-- The first chunk goes to the front, and completes nothing. -/
theorem firstFrame_chunk {authPayload : List UInt8} {seq : Nat} (seqByte : seq ≤ 255)
    (long : gipPktMaxLen ≤ authPayload.length) :
    chunkOfFrame (firstFrame authPayload seq) = some (some authPayload.length,
      { offset := 0, declared := gipPktMaxLen, data := authPayload.take gipPktMaxLen }) ∧
    ∀ total, isCompletion total (firstFrame authPayload seq) = false := by
  have length : (authPayload.take gipPktMaxLen).length = gipPktMaxLen :=
    List.length_take_of_le long
  have nonempty : authPayload.take gipPktMaxLen ≠ [] :=
    List.ne_nil_of_length_pos (by rw [length]; decide)
  have carried := @chunkOfFrame_start firstOpts seq (by decide) seqByte (by decide) (by decide)
    (authPayload.take gipPktMaxLen) authPayload.length
  have more := @isCompletion_data firstOpts seq (by decide) seqByte (by decide) _ nonempty
    authPayload.length
  rw [length] at carried more
  exact ⟨carried, more⟩

/-- The frames that a sender with a byte for its sequence number writes. -/
theorem gipAuthSendChunked_written {authPayload : List UInt8} {seq : Nat} (seqByte : seq ≤ 255)
    (long : gipPktMaxLen ≤ authPayload.length) (waits : List (List DevRead)) (seqRef : Nat) :
    ∃ before after stop,
      gipAuthSendChunked scriptLink authPayload seq ⟨⟨[], waits⟩, seqRef⟩ = .ok ((), after) ∧
      after.dev.written = before ++
        [headerOf gipCmdAuthenticate emptyOpts seq 0 (some authPayload.length)] ∧
      (∀ raw ∈ before, isCompletion authPayload.length raw = false) ∧
      Tiles authPayload 0 (writesOf (chunksOf before)) stop ∧
      (stop = authPayload.length ↔ AllAcked waits (authPayload.length - gipPktMaxLen)) := by
  obtain ⟨carried, open_⟩ := firstFrame_chunk seqByte long
  obtain ⟨frames, after, stop, ran, logged, opens, tiles, whole⟩ :=
    gipAuthSendChunks_run seqByte gipPktMaxLen (authPayload.length - gipPktMaxLen)
      ⟨⟨[firstFrame authPayload seq], waits⟩, seqRef⟩ (Nat.add_sub_cancel' long)
  obtain ⟨⟨written, later⟩, counter⟩ := after
  let completion := headerOf gipCmdAuthenticate emptyOpts seq 0 (some authPayload.length)
  refine ⟨firstFrame authPayload seq :: frames,
    ⟨⟨written ++ [completion], later.tail⟩, counter⟩, stop, ?_, ?_,
    List.forall_mem_cons.mpr ⟨open_ _, opens⟩, ?_, whole⟩
  · refine (run_lift (buildGipHeader_of_le (by decide) (by decide) seqByte _ _) _).trans ?_
    refine (run_bind (devWrite_ok scriptLink rfl)).trans ?_
    refine (run_bind ran).trans ?_
    refine (run_bind (waitForGipAck_ok scriptLink rfl)).trans ?_
    refine (run_lift (buildGipHeader_of_le (by decide) (by decide) seqByte _ _) _).trans ?_
    exact devWrite_ok scriptLink rfl
  · show written ++ _ = _
    rw [show written = [firstFrame authPayload seq] ++ frames from logged]
    rfl
  · rw [chunksOf_cons carried]
    exact tiles.piece (by decide) ((Nat.zero_add _).symm ▸ long)

/-- A sequence number that is no byte ends the sender at once. -/
theorem gipAuthSendChunked_raises {seq : Nat} (large : 255 < seq) (authPayload : List UInt8)
    (session : Session Script) :
    gipAuthSendChunked scriptLink authPayload seq session = .error .valueError := by
  have member : seq ∈ [gipCmdAuthenticate, firstOpts, seq] := by simp
  have header : buildGipHeader gipCmdAuthenticate firstOpts seq gipPktMaxLen
      (some authPayload.length) = .error .valueError := by
    rw [buildGipHeader_eq, pyBytes_error member large]
    rfl
  unfold gipAuthSendChunked
  simp only
  rw [show gipClientId ||| gipOptInternal ||| gipOptAck ||| gipOptChunkStart ||| gipOptChunk =
    firstOpts from rfl, header]
  rfl

/-- With a byte for its sequence number the sender returns, and has completed the whole payload
exactly when every wait of the loop sees an ACK. -/
theorem completesWhole_iff {authPayload : List UInt8} {seq : Nat} (seqByte : seq ≤ 255)
    (long : gipPktMaxLen ≤ authPayload.length) (waits : List (List DevRead)) (seqRef : Nat) :
    ∃ after, gipAuthSendChunked scriptLink authPayload seq ⟨⟨[], waits⟩, seqRef⟩ =
        .ok ((), after) ∧
      (CompletesWhole authPayload after.dev.written ↔
        AllAcked waits (authPayload.length - gipPktMaxLen)) := by
  obtain ⟨before, after, stop, ran, logged, open_, tiles, whole⟩ :=
    gipAuthSendChunked_written seqByte long waits seqRef
  have completion := @isCompletion_empty emptyOpts seq (by decide) seqByte (by decide) (by decide)
    authPayload.length
  have front : after.dev.written.takeWhile
      (fun raw => !isCompletion authPayload.length raw) = before := by
    rw [logged, List.takeWhile_append_of_pos fun raw member => by rw [open_ raw member]; rfl,
      List.takeWhile_cons_of_neg (by rw [completion]; decide), List.append_nil]
  have signalled : ∃ raw ∈ after.dev.written, isCompletion authPayload.length raw = true :=
    ⟨_, logged ▸ List.mem_append_right _ (List.mem_singleton.mpr rfl), completion⟩
  refine ⟨after, ran, ?_⟩
  rw [← whole]
  refine ⟨fun made => ?_, fun ended _ => ?_⟩
  · have pieces := made signalled
    rw [front] at pieces
    exact tiles.stop_unique pieces
  · rw [front]
    exact ended ▸ tiles

/-- **The completion chunk follows the whole payload exactly when every wait of the loop sees an
ACK.** For a payload of 58 bytes or more and any script of the device: if the sender writes the
empty chunk, the chunks before it make up the payload, exactly when each of the waits between two
chunks sees an ACK (or the sequence number is no byte, and nothing is written). -/
theorem completion_iff (authPayload : List UInt8) (seq : Nat) (waits : List (List DevRead))
    (seqRef : Nat) (long : 58 ≤ authPayload.length) :
    (∀ after, gipAuthSendChunked scriptLink authPayload seq ⟨⟨[], waits⟩, seqRef⟩ =
        .ok ((), after) → CompletesWhole authPayload after.dev.written) ↔
      255 < seq ∨ AllAcked waits (authPayload.length - 58) := by
  by_cases large : 255 < seq
  · refine iff_of_true (fun after ran => ?_) (.inl large)
    rw [gipAuthSendChunked_raises large] at ran
    cases ran
  · obtain ⟨after, ran, completes⟩ := completesWhole_iff (not_lt.mp large) long waits seqRef
    rw [or_iff_right large]
    refine (Iff.intro (fun all => all after ran) fun made other ranOther => ?_).trans completes
    cases ran.symm.trans ranOther
    exact made

/-- Two chunks, and the ACK of the first. -/
theorem completion_iff_acked : 58 ≤ (List.replicate 60 (0xab : UInt8)).length ∧
    ((∀ after, gipAuthSendChunked scriptLink (List.replicate 60 0xab) 1
        ⟨⟨[], [[.data (ackOf (List.replicate 60 0xab) 58 1)]]⟩, 1⟩ = .ok ((), after) →
          CompletesWhole (List.replicate 60 0xab) after.dev.written) ↔
      255 < 1 ∨ AllAcked [[.data (ackOf (List.replicate 60 0xab) 58 1)]]
        ((List.replicate 60 (0xab : UInt8)).length - 58)) :=
  ⟨by decide, completion_iff (List.replicate 60 0xab) 1 _ 1 (by decide)⟩

/-- In silence, completion is signalled after the first of two chunks. -/
theorem not_completion : ¬ ∀ (authPayload : List UInt8) (seq : Nat)
    (waits : List (List DevRead)) (seqRef : Nat), 58 ≤ authPayload.length → ∀ after,
    gipAuthSendChunked scriptLink authPayload seq ⟨⟨[], waits⟩, seqRef⟩ = .ok ((), after) →
      CompletesWhole authPayload after.dev.written := by
  intro all
  obtain ⟨after, ran, completes⟩ := @completesWhole_iff (List.replicate 59 0xab) 1 (by decide)
    (by decide) [] 1
  have acked := completes.mp (all (List.replicate 59 0xab) 1 [] 1 (by decide) after ran)
  exact Bool.false_ne_true (acked 0 (by decide))

end Wolverine.Python
