/-
**The IDENTIFY receiver of `gip_init.py`.**

`_receive_identify_response` collects the chunks of the response in a `bytearray` that grows, and
answers a chunk with its ACK bit by a GIP ACK with two counts: the bytes received, and the total
less these. A list of reads that ends is the deadline; writes succeed.

* `receive_raises_iff` — one read makes the receiver raise exactly when it is a chunk that asks for
  an ACK, or one for which the memory cannot grow the buffer: the total is still unknown, and kept
  as 0, so the second count is negative.
* `identify_never_fails_iff` — the receiver returns from a run exactly when no such read is
  processed.
-/

import Wolverine.Python.Receive

namespace Wolverine.Python

open Wolverine.Machine

/-! ### The receiver -/

/-- An ACK that is written: the counts, and the packet. -/
structure IdentifyAck where
  received : Nat
  remaining : Int
  packet : List UInt8
  deriving DecidableEq, Repr

/-- The variables of `_receive_identify_response`, and the ACKs written. -/
structure IdentifyState where
  chunkBuf : List UInt8
  /-- 0 is unknown. -/
  chunkTotal : Nat
  chunkRecvd : Nat
  acks : List IdentifyAck
  deriving DecidableEq, Repr

def IdentifyState.initial : IdentifyState :=
  { chunkBuf := List.replicate 512 0, chunkTotal := 0, chunkRecvd := 0, acks := [] }

/-- How the loop ends before the deadline. -/
inductive IdentifyExit
  | finished (state : IdentifyState)
  | raised (error : PyError)
  deriving DecidableEq, Repr

section Loop

variable [Memory]

/-- Grow the buffer if needed. -/
def growTo (buf : List UInt8) (stop : Nat) : Except PyError (List UInt8) :=
  if stop > buf.length then do
    let more ← pyBytearray (stop - buf.length + 64)
    pyExtend buf more
  else .ok buf

/-- The ACK of a chunk that asks for one. -/
def identifyAck (h : Header) (received total : Nat) : Except PyError (List IdentifyAck) :=
  if h.opts &&& gipOptAck ≠ 0 then
    (sendGipAckForChunk h.seq gipCmdIdentify received total).map
      fun packet => [{ received, remaining := total - received, packet }]
  else .ok []

/-- A chunk that is not empty. -/
def onIdentifyChunk (state : IdentifyState) (h : Header) (chunkData : List UInt8) :
    Except PyError IdentifyState := do
  let stop := h.chunkOffset + h.pktLen
  let buf ← growTo state.chunkBuf stop
  let buf ← pySliceAssign buf h.chunkOffset stop chunkData
  let received := max state.chunkRecvd stop
  let acks ← identifyAck h received state.chunkTotal
  return { state with chunkBuf := buf, chunkRecvd := received, acks := state.acks ++ acks }

/-- The result of a chunk, as an iteration gives it. -/
def ofChunk : Except PyError IdentifyState → Except IdentifyExit IdentifyState
  | .ok state => .ok state
  | .error error => .error (.raised error)

/-- A frame of the response. -/
def onIdentify (state : IdentifyState) (h : Header) (chunkData : List UInt8) :
    Except IdentifyExit IdentifyState :=
  if h.opts &&& gipOptChunk = 0 then   -- a single response
    .error (.finished { state with chunkBuf := chunkData, chunkRecvd := h.pktLen })
  else if h.pktLen = 0 then   -- transfer complete; the offset might be the total
    .error (.finished
      { state with chunkTotal := if h.chunkOffset > 0 then h.chunkOffset else state.chunkTotal })
  else ofChunk (onIdentifyChunk state h chunkData)

/-- One iteration of the loop. -/
def receiveIdentify (state : IdentifyState) (read : DevRead) :
    Except IdentifyExit IdentifyState :=
  match read with
  | .timeout => if state.chunkRecvd > 0 then .error (.finished state) else .ok state
  | .usbError => .error (.finished state)
  | .data raw =>
    match decodeGipHeader raw with
    | none => .ok state
    | some h =>
      if h.cmd ≠ gipCmdIdentify then .ok state
      else onIdentify state h ((raw.drop h.hdrLen).take h.pktLen)

/-- What is returned, and the ACKs written. -/
def IdentifyState.response (state : IdentifyState) : Option (List UInt8) × List IdentifyAck :=
  (if state.chunkRecvd > 0 then some (state.chunkBuf.take state.chunkRecvd) else none, state.acks)

/-- `_receive_identify_response`. -/
def receiveIdentifyFrom (reads : List DevRead) :
    Except PyError (Option (List UInt8) × List IdentifyAck) :=
  match run receiveIdentify IdentifyState.initial reads with
  | .ok state => .ok state.response
  | .error (.finished state) => .ok state.response
  | .error (.raised error) => .error error

end Loop

/-! ### One read -/

/-- The read is a frame of the response with a chunk that is not empty. -/
def IsIdentifyChunk (read : DevRead) (h : Header) : Prop :=
  ∃ raw, read = .data raw ∧ decodeGipHeader raw = some h ∧ h.cmd = gipCmdIdentify ∧
    h.opts &&& gipOptChunk ≠ 0 ∧ h.pktLen ≠ 0

/-- The buffer is as long, or the memory lets it grow, to 64 bytes more. -/
def GrowsTo [Memory] (buf : List UInt8) (stop : Nat) : Prop :=
  stop ≤ buf.length ∨ stop + 64 ≤ Memory.limit

/-- The read is no chunk that asks for an ACK, and none to whose end the buffer cannot grow. -/
def Harmless [Memory] (state : IdentifyState) (read : DevRead) : Prop :=
  ∀ h, IsIdentifyChunk read h → h.opts &&& gipOptAck = 0 ∧
    GrowsTo state.chunkBuf (h.chunkOffset + h.pktLen)

/-- The total is unknown, and no ACK was written. -/
structure Unknown (state : IdentifyState) : Prop where
  total : state.chunkTotal = 0
  silent : state.acks = []

theorem sendGipAckForChunk_unknown (recvSeq recvCmd : Nat) {received : Nat}
    (positive : 0 < received) :
    ∃ error, sendGipAckForChunk recvSeq recvCmd received 0 = .error error := by
  have negative : packLE16 (((0 : Nat) : Int) - received) = .error .structError := by
    rw [packLE16, if_neg]
    omega
  unfold sendGipAckForChunk
  cases pyBytes [0x00, recvCmd, gipClientId ||| gipOptInternal] with
  | error error => exact ⟨error, rfl⟩
  | ok head =>
    cases packLE16 received with
    | error error => exact ⟨error, rfl⟩
    | ok count =>
      refine ⟨.structError, ?_⟩
      simp only [negative, bind, Except.bind]

section Reads

variable [Memory]

theorem growTo_ok {buf : List UInt8} {stop : Nat} (grows : GrowsTo buf stop) :
    growTo buf stop = .ok
      (if stop > buf.length then buf ++ List.replicate (stop - buf.length + 64) 0 else buf) := by
  unfold growTo
  by_cases beyond : stop > buf.length
  · have room : stop + 64 ≤ Memory.limit := grows.resolve_left (not_le.mpr beyond)
    rw [if_pos beyond, if_pos beyond]
    refine (bind_of_ok (pyBytearray_ok (by omega)) _).trans ?_
    refine pyResize_ok (le_max_of_le_right ?_)
    rw [List.length_append, List.length_replicate]
    omega
  · rw [if_neg beyond, if_neg beyond]

theorem growsTo_of_growTo {buf grown : List UInt8} {stop : Nat}
    (grew : growTo buf stop = .ok grown) : GrowsTo buf stop := by
  unfold growTo at grew
  by_cases beyond : stop > buf.length
  · rw [if_pos beyond] at grew
    obtain ⟨more, allocated, grew⟩ := ok_of_bind grew
    obtain ⟨-, rfl⟩ := pyBytearray_ok_iff.mp allocated
    have fits := (pyResize_ok_iff.mp grew).1
    rw [List.length_append, List.length_replicate] at fits
    rcases le_max_iff.mp fits with same | room
    · omega
    · exact .inr (by omega)
  · exact .inl (not_lt.mp beyond)

theorem length_growTo {buf grown : List UInt8} {stop : Nat}
    (grew : growTo buf stop = .ok grown) : stop ≤ grown.length := by
  rw [growTo_ok (growsTo_of_growTo grew)] at grew
  cases grew
  split
  · rw [List.length_append, List.length_replicate]
    omega
  · omega

/-- **A chunk is stored exactly when it asks for no ACK** and the buffer grows to its end. -/
theorem onIdentifyChunk_ok {state : IdentifyState} (unknown : Unknown state) {h : Header}
    (positive : h.pktLen ≠ 0) {chunkData : List UInt8} (short : chunkData.length ≤ h.pktLen) :
    (∃ next, onIdentifyChunk state h chunkData = .ok next) ↔
      h.opts &&& gipOptAck = 0 ∧ GrowsTo state.chunkBuf (h.chunkOffset + h.pktLen) := by
  refine ⟨fun ⟨next, stored⟩ => ?_, fun ⟨quiet, grows⟩ => ?_⟩
  · obtain ⟨buf, grown, stored⟩ := ok_of_bind stored
    obtain ⟨after, assigned, stored⟩ := ok_of_bind stored
    obtain ⟨acks, acked, -⟩ := ok_of_bind stored
    refine ⟨?_, growsTo_of_growTo grown⟩
    by_contra asks
    obtain ⟨error, raised⟩ := sendGipAckForChunk_unknown h.seq gipCmdIdentify
      (show 0 < max state.chunkRecvd (h.chunkOffset + h.pktLen) by omega)
    rw [identifyAck, if_pos asks, unknown.total, raised] at acked
    cases acked
  · obtain ⟨buf, grown⟩ : ∃ buf, growTo state.chunkBuf (h.chunkOffset + h.pktLen) = .ok buf :=
      ⟨_, growTo_ok grows⟩
    have assigned := pySliceAssign_inside (length_growTo grown) (Nat.add_le_add_left short _)
    have acked : identifyAck h (max state.chunkRecvd (h.chunkOffset + h.pktLen))
        state.chunkTotal = .ok [] := if_neg (not_not.mpr quiet)
    exact ⟨_, (bind_of_ok grown _).trans
      ((bind_of_ok assigned _).trans (bind_of_ok acked _))⟩

theorem onIdentifyChunk_unknown {state next : IdentifyState} (unknown : Unknown state) {h : Header}
    (positive : h.pktLen ≠ 0) {chunkData : List UInt8} (short : chunkData.length ≤ h.pktLen)
    (stored : onIdentifyChunk state h chunkData = .ok next) : Unknown next := by
  have quiet : h.opts &&& gipOptAck = 0 :=
    ((onIdentifyChunk_ok unknown positive short).mp ⟨next, stored⟩).1
  obtain ⟨buf, -, stored⟩ := ok_of_bind stored
  obtain ⟨after, -, stored⟩ := ok_of_bind stored
  obtain ⟨acks, acked, stored⟩ := ok_of_bind stored
  rw [identifyAck, if_neg (not_not.mpr quiet)] at acked
  cases acked
  cases stored
  exact ⟨unknown.total, by rw [List.append_nil]; exact unknown.silent⟩

/-- **What an iteration comes to**: it stores a chunk; or the read is none, and the loop goes on as
it was, or ends with the same ACKs. -/
theorem receiveIdentify_cases (state : IdentifyState) (read : DevRead) :
    (∃ h chunkData, IsIdentifyChunk read h ∧ chunkData.length ≤ h.pktLen ∧
      receiveIdentify state read = ofChunk (onIdentifyChunk state h chunkData)) ∨
    (∀ h, ¬ IsIdentifyChunk read h) ∧ (receiveIdentify state read = .ok state ∨
      ∃ last, receiveIdentify state read = .error (.finished last) ∧ last.acks = state.acks) := by
  rcases read with _ | _ | raw
  · refine .inr ⟨fun h ⟨_, data, _⟩ => ?_, ?_⟩
    · cases data
    · rw [receiveIdentify]
      split
      · exact .inr ⟨state, rfl, rfl⟩
      · exact .inl rfl
  · refine .inr ⟨fun h ⟨_, data, _⟩ => ?_, .inr ⟨state, rfl, rfl⟩⟩
    cases data
  · rw [receiveIdentify]
    cases decoded : decodeGipHeader raw with
    | none =>
      refine .inr ⟨fun h ⟨_, data, found, _⟩ => ?_, .inl rfl⟩
      cases data
      cases decoded.symm.trans found
    | some h =>
      by_cases foreign : h.cmd ≠ gipCmdIdentify
      · refine .inr ⟨fun other ⟨_, data, found, cmd, _⟩ => ?_, .inl (if_pos foreign)⟩
        cases data
        cases decoded.symm.trans found
        exact foreign cmd
      · simp only [if_neg foreign, onIdentify]
        by_cases single : h.opts &&& gipOptChunk = 0
        · refine .inr ⟨fun other ⟨_, data, found, _, chunk, _⟩ => ?_,
            .inr ⟨_, if_pos single, rfl⟩⟩
          cases data
          cases decoded.symm.trans found
          exact chunk single
        rw [if_neg single]
        by_cases empty : h.pktLen = 0
        · refine .inr ⟨fun other ⟨_, data, found, _, _, positive⟩ => ?_,
            .inr ⟨_, if_pos empty, rfl⟩⟩
          cases data
          cases decoded.symm.trans found
          exact positive empty
        · exact .inl ⟨h, _, ⟨raw, rfl, decoded, not_not.mp foreign, single, empty⟩,
            List.length_take_le _ _, if_neg empty⟩

omit [Memory] in
/-- An exception. -/
def IdentifyExit.Raised : IdentifyExit → Prop
  | .finished _ => False
  | .raised _ => True

theorem receiveIdentify_kept {state next : IdentifyState} {read : DevRead}
    (unknown : Unknown state) (stepped : receiveIdentify state read = .ok next) :
    Unknown next := by
  rcases receiveIdentify_cases state read with
    ⟨h, chunkData, chunk, short, stored⟩ | ⟨-, same | ended⟩
  · obtain ⟨-, -, -, -, -, positive⟩ := chunk
    rw [stepped] at stored
    cases result : onIdentifyChunk state h chunkData with
    | error error =>
      rw [result] at stored
      cases stored
    | ok after =>
      rw [result] at stored
      cases stored
      exact onIdentifyChunk_unknown unknown positive short result
  · cases stepped.symm.trans same
    exact unknown
  · obtain ⟨last, ended, -⟩ := ended
    cases stepped.symm.trans ended

omit [Memory] in
theorem isIdentifyChunk_unique {read : DevRead} {h other : Header} (one : IsIdentifyChunk read h)
    (two : IsIdentifyChunk read other) : other = h := by
  obtain ⟨raw, rfl, decoded, -⟩ := one
  obtain ⟨_, same, found, -⟩ := two
  cases same
  exact Option.some.inj (found.symm.trans decoded)

/-- **One read makes the receiver raise** exactly when it is not harmless. -/
theorem receive_raises_iff {state : IdentifyState} (unknown : Unknown state) (read : DevRead) :
    Harmless state read ↔
      ∀ exit_, receiveIdentify state read = .error exit_ → ¬ exit_.Raised := by
  rcases receiveIdentify_cases state read with ⟨h, chunkData, chunk, short, stored⟩ | ⟨none, rest⟩
  · have positive := chunk.choose_spec.2.2.2.2
    have only : Harmless state read ↔ h.opts &&& gipOptAck = 0 ∧
        GrowsTo state.chunkBuf (h.chunkOffset + h.pktLen) := by
      refine ⟨fun all => all h chunk, fun both other found => ?_⟩
      rw [isIdentifyChunk_unique chunk found]
      exact both
    rw [only, ← onIdentifyChunk_ok unknown positive short, stored]
    cases onIdentifyChunk state h chunkData with
    | ok next =>
      refine iff_of_true ⟨next, rfl⟩ fun exit_ raised => ?_
      cases raised
    | error error =>
      refine iff_of_false (fun ⟨next, stored⟩ => ?_) fun all => all _ rfl trivial
      cases stored
  · refine iff_of_true (fun h chunk => absurd chunk (none h)) fun exit_ ended => ?_
    rcases rest with same | ⟨last, finished, -⟩
    · cases same.symm.trans ended
    · cases finished.symm.trans ended
      exact id

/-! ### Runs -/

/-- The ACKs that are written carry counts that fit in 16 bits. -/
def AcksFit (acks : List IdentifyAck) : Prop :=
  ∀ ack ∈ acks, ack.received < 65536 ∧ 0 ≤ ack.remaining ∧ ack.remaining < 65536

/-- A run that ends without an exception has written no ACK. -/
theorem run_silent (reads : List DevRead) : ∀ state : IdentifyState, Unknown state →
    (∀ last, run receiveIdentify state reads = .ok last → last.acks = []) ∧
      ∀ last, run receiveIdentify state reads = .error (.finished last) → last.acks = [] := by
  induction reads with
  | nil =>
    refine fun state unknown => ⟨fun last ran => ?_, fun last ran => ?_⟩
    · cases ran
      exact unknown.silent
    · cases ran
  | cons read rest ih =>
    intro state unknown
    cases stepped : receiveIdentify state read with
    | ok next =>
      rw [run_cons stepped]
      exact ih next (receiveIdentify_kept unknown stepped)
    | error exit_ =>
      have ran : run receiveIdentify state (read :: rest) = .error exit_ := by rw [run, stepped]
      rw [ran]
      refine ⟨fun last same => ?_, fun last same => ?_⟩
      · cases same
      · cases same
        rcases receiveIdentify_cases state read with ⟨h, data, -, -, stored⟩ | ⟨-, same | ended⟩
        · rw [stepped] at stored
          cases result : onIdentifyChunk state h data <;> rw [result] at stored <;> cases stored
        · cases stepped.symm.trans same
        · obtain ⟨other, ended, acks⟩ := ended
          cases stepped.symm.trans ended
          rw [acks, unknown.silent]

/-- **The receiver returns from a run, with counts that fit in every ACK, exactly when every read
that it processes is harmless.** -/
theorem identify_never_fails_iff (reads : List DevRead) :
    (∃ data acks, receiveIdentifyFrom reads = .ok (data, acks) ∧ AcksFit acks) ↔
      Meets Harmless receiveIdentify IdentifyState.initial reads := by
  have unknown : Unknown IdentifyState.initial := ⟨rfl, rfl⟩
  have fit : AcksFit [] := fun ack member => by cases member
  obtain ⟨deadline, early⟩ := run_silent reads IdentifyState.initial unknown
  rw [← run_avoids_iff (fun state read next => receiveIdentify_kept)
    (fun state read unknown => receive_raises_iff unknown read) reads _ unknown]
  unfold receiveIdentifyFrom
  cases ran : run receiveIdentify IdentifyState.initial reads with
  | ok last =>
    refine iff_of_true ⟨_, _, rfl, ?_⟩ fun exit_ raised => ?_
    · rw [deadline last ran]
      exact fit
    · cases raised
  | error exit_ =>
    cases exit_ with
    | finished last =>
      refine iff_of_true ⟨_, _, rfl, ?_⟩ fun exit_ ended => ?_
      · rw [early last ran]
        exact fit
      · cases ended
        exact id
    | raised error =>
      refine iff_of_false (fun ⟨data, acks, returned, _⟩ => ?_) fun avoids => ?_
      · cases returned
      · exact avoids _ rfl trivial

end Reads

/-- A first chunk of two bytes that asks for an ACK. -/
def firstChunk : List DevRead := [.data [0x04, 0xb0, 0x01, 0x02, 0x00, 0xaa, 0xbb]]

/-- The ACK of a first chunk raises: two bytes are received of an unknown total. -/
theorem identify_fails :
    @receiveIdentifyFrom Memory.gibibyte firstChunk = .error .structError := by
  decide +kernel

end Wolverine.Python
