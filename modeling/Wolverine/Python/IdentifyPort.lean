/-
**The two receivers of the IDENTIFY response.**

`receive_identify_response` of the port against `_receive_identify_response` of `gip_init.py`, on
the same reads. The port keeps the total of the transfer unknown, as the driver does, but builds
its ACKs with a saturating count; the driver raises there. On timeouts and on whole frames that ask
for no ACK, both keep the same buffer and the same high-water mark.

* `Alike` — the reads that both take alike.
* `receive_alike` — one read: the buffers stay equal, or both loops end with the same response.
* `identify_receivers_agree` — whole responses. An empty single response is the difference that is
  left: the port returns it, the driver returns `None`.
-/

import Wolverine.Python.Identify
import Wolverine.Usb.BringUp
import Wolverine.Usb.Reassembly

namespace Wolverine.Python

open Wolverine.Machine Wolverine.Rust Wolverine.Gip Wolverine.Overlay
open Wolverine.Usb (Ep1Read IdentifyTick Reassembly Exit chunkAcks)

/-! ### The reads -/

/-- What the port's `recv` makes of a read: a stall or a fault is a timeout. -/
def DevRead.ep1Read : DevRead → Ep1Read
  | .data raw => .data raw
  | .timeout => .timeout
  | .usbError => .timeout

/-- The tick of the port for a read of the driver. -/
def DevRead.tick (read : DevRead) : IdentifyTick := { read := read.ep1Read, sendOk := true }

/-- A frame that both decoders read alike; an answer to IDENTIFY is there in full, and a chunk of it
asks for no ACK and finds room in the memory. -/
structure AlikeFrame [Memory] (raw : List UInt8) : Prop where
  words : WordVarints raw
  complete : HeaderComplete raw
  whole : raw.getD 0 0 = Cmd.identify → (headerPacket raw).hdrLen + (headerPacket raw).pktLen ≤
    raw.length
  quiet : raw.getD 0 0 = Cmd.identify → chunked raw → (headerPacket raw).pktLen ≠ 0 →
    raw.getD 1 0 &&& Opt.ack = 0
  room : raw.getD 0 0 = Cmd.identify → chunked raw → (headerPacket raw).pktLen ≠ 0 →
    (headerPacket raw).chunkOffset + (headerPacket raw).pktLen + 64 ≤ Memory.limit

/-- **The reads that both receivers take alike.** -/
def Alike [Memory] : DevRead → Prop
  | .data raw => raw.length < 4 ∨ AlikeFrame raw
  | .timeout => True
  | .usbError => False

/-! ### One read -/

/-- The buffers and the high-water marks are equal, and neither has written an ACK. -/
structure SameTransfer (reassembly : Reassembly) (state : IdentifyState) : Prop where
  buf : state.chunkBuf = reassembly.buf
  recvd : state.chunkRecvd = reassembly.recvd
  /-- What was received lies inside the buffer. -/
  inside : reassembly.recvd ≤ reassembly.buf.length
  silent : reassembly.acks = []
  unknown : Unknown state

theorem sameTransfer_start : SameTransfer Reassembly.start IdentifyState.initial :=
  ⟨rfl, rfl, Nat.zero_le _, rfl, rfl, rfl⟩

/-- The response of the driver: an empty one is `None`. -/
def driverResponse (response : Option (List UInt8)) : Option (List UInt8) :=
  response.filter fun data => data ≠ []

/-- Both loops ended, with the same response and without an ACK. -/
structure SameExit (exit_ : Exit) (ended : IdentifyExit) : Prop where
  response : ∃ data last, exit_.response = .ok data ∧ ended = .finished last ∧
    last.response = (driverResponse data, [])

/-- The response of a transfer that is over. -/
theorem SameTransfer.response {reassembly : Reassembly} {state : IdentifyState}
    (same : SameTransfer reassembly state) :
    ∃ data, (Exit.complete reassembly).response = .ok data ∧
      state.response = (driverResponse data, []) := by
  refine ⟨_, rfl, ?_⟩
  rw [IdentifyState.response, same.buf, same.recvd, same.unknown.silent,
    Nat.min_eq_left same.inside]
  by_cases received : 0 < reassembly.recvd
  · have nonempty : reassembly.buf.take reassembly.recvd ≠ [] := by
      intro empty
      have length := List.length_take_of_le same.inside
      rw [empty, List.length_nil] at length
      omega
    rw [if_pos received, driverResponse, Option.filter_some, if_pos (decide_eq_true nonempty)]
  · rw [if_neg received]
    rfl

/-- Both buffers grow alike. -/
theorem growTo_grow [Memory] (buf : List UInt8) {stop : Nat} (room : stop + 64 ≤ Memory.limit) :
    growTo buf stop = .ok (Reassembly.grow buf stop) := by
  rw [growTo_ok (.inr room), Reassembly.grow]
  by_cases beyond : buf.length < stop
  · rw [if_pos beyond, if_pos beyond, show stop - buf.length + 64 = stop + 64 - buf.length by omega]
  · rw [if_neg beyond, if_neg beyond]

theorem length_grow (buf : List UInt8) (stop : Nat) :
    buf.length ≤ (Reassembly.grow buf stop).length ∧
      stop ≤ (Reassembly.grow buf stop).length := by
  unfold Reassembly.grow
  split
  · rw [List.length_append, List.length_replicate]
    omega
  · omega

section Frame

variable [Memory] {profile : Profile} {raw : List UInt8}

/-- Both decoders read the frame. -/
theorem AlikeFrame.decoded (alike : AlikeFrame raw) (profile : Profile) :
    decode profile raw = .ok (some (headerPacket raw)) ∧
      decodeGipHeader raw = some (Header.ofPacket (headerPacket raw)) :=
  ⟨(decode_eq profile alike.words.short).trans (by rw [if_pos alike.complete]),
    (ofPacket_headerPacket alike.words alike.complete.1).symm⟩

omit [Memory] in
/-- The payload of the frame, as the driver slices it. -/
theorem payload_eq (raw : List UInt8) (hdrLen pktLen : Nat) :
    (raw.drop hdrLen).take pktLen = (raw.take (min (hdrLen + pktLen) raw.length)).drop hdrLen := by
  rw [← List.take_take, List.take_length, List.drop_take, Nat.add_sub_cancel_left]

omit [Memory] in
/-- A payload that is there in full. -/
theorem length_payload
    (whole : (headerPacket raw).hdrLen + (headerPacket raw).pktLen ≤ raw.length) :
    (headerPacket raw).payload.length = (headerPacket raw).pktLen := by
  show ((raw.take (min ((headerPacket raw).hdrLen + (headerPacket raw).pktLen) _)).drop
    (headerPacket raw).hdrLen).length = _
  rw [List.length_drop, List.length_take]
  omega

omit [Memory] in
/-- A single response: both return it, unless it is empty. -/
theorem single_response {state : IdentifyState} (unknown : Unknown state) {data : List UInt8}
    {pktLen : Nat} (length : data.length = pktLen) :
    IdentifyState.response { state with chunkBuf := data, chunkRecvd := pktLen } =
      (driverResponse (some data), []) := by
  rw [IdentifyState.response, unknown.silent, ← length]
  cases data with
  | nil => rfl
  | cons byte rest =>
    dsimp only
    rw [if_pos (show (byte :: rest).length > 0 from Nat.succ_pos _), List.take_length]
    rfl

/-- **One chunk** goes to the same place in both buffers. -/
theorem SameTransfer.accept {reassembly : Reassembly} {state : IdentifyState}
    (same : SameTransfer reassembly state)
    (whole : (headerPacket raw).hdrLen + (headerPacket raw).pktLen ≤ raw.length)
    (quiet : raw.getD 1 0 &&& Opt.ack = 0)
    (room : (headerPacket raw).chunkOffset + (headerPacket raw).pktLen + 64 ≤ Memory.limit) :
    ∃ next, onIdentifyChunk state (Header.ofPacket (headerPacket raw)) (headerPacket raw).payload =
        .ok next ∧ SameTransfer (reassembly.accept (headerPacket raw) (headerPacket raw).payload)
        next := by
  have length := length_payload whole
  have grown := growTo_grow state.chunkBuf room
  have assigned := pySliceAssign_inside (length_growTo grown) (Nat.add_le_add_left length.le _)
  have acked : identifyAck (Header.ofPacket (headerPacket raw)) (max state.chunkRecvd
      ((headerPacket raw).chunkOffset + (headerPacket raw).pktLen)) state.chunkTotal = .ok [] := by
    have plain : (Header.ofPacket (headerPacket raw)).opts &&& gipOptAck = 0 :=
      (UInt8.toNat_and _ _).symm.trans (congrArg UInt8.toNat quiet)
    exact if_neg (not_not.mpr plain)
  obtain ⟨longer, end_⟩ := length_grow reassembly.buf
    ((headerPacket raw).chunkOffset + (headerPacket raw).payload.length)
  have inside := same.inside
  refine ⟨_, (bind_of_ok grown _).trans ((bind_of_ok assigned _).trans (bind_of_ok acked _)), ?_⟩
  constructor
  case buf =>
    show sliceAssign _ (headerPacket raw).chunkOffset _ _ = overlay _ _ _
    rw [same.buf, length, overlay, length]
    rfl
  case recvd =>
    show max state.chunkRecvd _ = max reassembly.recvd _
    rw [same.recvd]
    rfl
  case inside =>
    show max reassembly.recvd _ ≤ (overlay _ _ _).length
    rw [length_overlay end_]
    omega
  case silent => exact same.silent
  case unknown => exact ⟨same.unknown.total, (List.append_nil _).trans same.unknown.silent⟩

/-- A frame of the response. -/
theorem SameTransfer.frame {reassembly : Reassembly} {state : IdentifyState}
    (same : SameTransfer reassembly state) (alike : AlikeFrame raw)
    (identify : raw.getD 0 0 = Cmd.identify) {tick : IdentifyTick} (read : tick.read = .data raw) :
    Corresponds SameTransfer SameExit (Usb.receive profile reassembly tick)
      (onIdentify state (Header.ofPacket (headerPacket raw)) (headerPacket raw).payload) := by
  have decoded := (alike.decoded profile).1
  have whole := alike.whole identify
  have chunk : (Header.ofPacket (headerPacket raw)).opts &&& gipOptChunk ≠ 0 ↔ chunked raw :=
    and_gipOptChunk_ne_zero (raw.getD 1 0)
  unfold onIdentify
  by_cases chunks : chunked raw
  · rw [if_neg (chunk.mpr chunks)]
    by_cases empty : (headerPacket raw).pktLen = 0
    · have ends : Usb.EndsTransfer profile tick :=
        ⟨raw, headerPacket raw, read, decoded, identify, decide_eq_true chunks, empty⟩
      obtain ⟨data, answered, answer⟩ := same.response
      rw [Usb.receive_end ends, if_pos (show (Header.ofPacket (headerPacket raw)).pktLen = 0 from
        empty)]
      exact .error ⟨data, _, answered, rfl, answer⟩
    · have isChunk : Usb.IsChunk profile tick (headerPacket raw) :=
        ⟨raw, read, decoded, identify, decide_eq_true chunks, empty⟩
      have quiet := alike.quiet identify chunks empty
      have room := alike.room identify chunks empty
      obtain ⟨next, stored, after⟩ := same.accept whole quiet room
      have unwanted : ¬ (headerPacket raw).wantsAck = true := by
        show ¬ decide (raw.getD 1 0 &&& Opt.ack ≠ 0) = true
        rw [quiet]
        decide
      rw [Usb.receive_chunk isChunk, if_neg unwanted,
        if_neg (show ¬ (Header.ofPacket (headerPacket raw)).pktLen = 0 from empty), stored]
      exact .ok after
  · have single : Usb.receive profile reassembly tick =
        .error (.single (headerPacket raw).payload) := by
      unfold Usb.receive
      simp only [read, decoded]
      rw [if_neg (not_not.mpr (show (headerPacket raw).cmd = Cmd.identify from identify)),
        if_pos (show (headerPacket raw).isChunked = false from decide_eq_false chunks)]
      rfl
    rw [single, if_pos (not_not.mp fun set_ => chunks (chunk.mp set_))]
    exact .error ⟨_, _, rfl, rfl, single_response same.unknown (length_payload whole)⟩

/-- **One read**: the buffers stay equal, or both loops end with the same response. -/
theorem receive_alike (profile : Profile) {reassembly : Reassembly} {state : IdentifyState}
    (same : SameTransfer reassembly state) {read : DevRead} (alike : Alike read) :
    Corresponds SameTransfer SameExit (Usb.receive profile reassembly read.tick)
      (receiveIdentify state read) := by
  cases read with
  | usbError => exact absurd alike id
  | timeout =>
    unfold Usb.receive receiveIdentify
    simp only [DevRead.tick, DevRead.ep1Read, same.recvd]
    by_cases received : 0 < reassembly.recvd
    · rw [if_pos received, if_pos received]
      obtain ⟨data, answered, answer⟩ := same.response
      exact .error ⟨data, state, answered, rfl, answer⟩
    · rw [if_neg received, if_neg received]
      exact .ok same
  | data raw =>
    rcases alike with short | alike
    · have rust : Usb.receive profile reassembly (DevRead.data raw).tick = .ok reassembly := by
        unfold Usb.receive
        simp only [DevRead.tick, DevRead.ep1Read, decode_short profile short]
      have python : receiveIdentify state (.data raw) = .ok state := by
        unfold receiveIdentify
        simp only [decodeGipHeader_short short]
      rw [rust, python]
      exact .ok same
    · obtain ⟨rust, python⟩ := alike.decoded profile
      have cmd : (Header.ofPacket (headerPacket raw)).cmd = gipCmdIdentify ↔
          raw.getD 0 0 = Cmd.identify := @UInt8.toNat_inj (raw.getD 0 0) Cmd.identify
      unfold receiveIdentify
      simp only [python, Ne, cmd]
      by_cases identify : raw.getD 0 0 = Cmd.identify
      · rw [if_neg (not_not.mpr identify), payload_eq]
        exact same.frame alike identify rfl
      · have passed : Usb.receive profile reassembly (DevRead.data raw).tick = .ok reassembly := by
          unfold Usb.receive
          simp only [DevRead.tick, DevRead.ep1Read, rust]
          exact if_pos identify
        rw [if_pos identify, passed]
        exact .ok same

end Frame

/-! ### Whole responses -/

section Responses

variable [Memory]

/-- No ACK is asked for. -/
theorem Alike.asksAck (profile : Profile) {read : DevRead} (alike : Alike read) :
    Usb.asksAck profile read.tick = none := by
  cases asks : Usb.asksAck profile read.tick with
  | none => rfl
  | some pkt =>
    obtain ⟨⟨raw, data, decoded, identify, chunks, nonempty⟩, wanted⟩ :=
      Usb.asksAck_eq_some.mp asks
    cases read with
    | timeout => cases data
    | usbError => cases data
    | data other =>
      cases data
      rcases alike with short | alike
      · cases (decode_short profile short).symm.trans decoded
      · cases (alike.decoded profile).1.symm.trans decoded
        have quiet := alike.quiet identify (of_decide_eq_true chunks) nonempty
        exact absurd quiet (of_decide_eq_true wanted)

theorem acksFrom_alike (profile : Profile) (reassembly : Reassembly) {reads : List DevRead}
    (alike : ∀ read ∈ reads, Alike read) :
    Usb.acksFrom profile reassembly (reads.map DevRead.tick) = [] := by
  induction reads generalizing reassembly with
  | nil => rfl
  | cons read rest ih =>
    rw [List.map_cons, Usb.acksFrom, Usb.acksAt,
      Alike.asksAck profile (alike read List.mem_cons_self)]
    cases Usb.receive profile reassembly read.tick with
    | ok next => exact ih next fun other member => alike other (List.mem_cons_of_mem _ member)
    | error exit_ => rfl

/-- Both receivers return, with the same response. -/
theorem identify_answer (profile : Profile) (reads : List DevRead)
    (alike : ∀ read ∈ reads, Alike read) :
    ∃ response, Usb.receiveIdentifyResponse profile (reads.map DevRead.tick) = .ok response ∧
      receiveIdentifyFrom reads = .ok (driverResponse response, []) ∧
      chunkAcks profile (reads.map DevRead.tick) = [] := by
  have simulates : ∀ reassembly state read, SameTransfer reassembly state → Alike read →
      Corresponds SameTransfer SameExit (Usb.receive profile reassembly (DevRead.tick read))
        (receiveIdentify state read) := fun _ _ _ same read => receive_alike profile same read
  have ended := run_corresponds simulates reads _ _ sameTransfer_start alike
  rw [← run_map DevRead.tick] at ended
  unfold Usb.receiveIdentifyResponse Usb.receiveIdentify receiveIdentifyFrom
  generalize run (Usb.receive profile) Reassembly.start (reads.map DevRead.tick) = rust at ended ⊢
  generalize run receiveIdentify IdentifyState.initial reads = python at ended ⊢
  cases ended with
  | ok same =>
    obtain ⟨response, answered, answer⟩ := same.response
    exact ⟨response, answered, congrArg _ answer, acksFrom_alike profile _ alike⟩
  | error exits =>
    obtain ⟨response, last, answered, rfl, answer⟩ := exits
    exact ⟨response, answered, congrArg _ answer, acksFrom_alike profile _ alike⟩

omit [Memory] in
theorem driverResponse_eq (response : Option (List UInt8)) :
    driverResponse response = if response = some [] then none else response := by
  rcases response with - | - | ⟨byte, rest⟩ <;> rfl

/-- **The receivers agree.** On the same reads, timeouts and whole frames that ask for no ACK, both
return, in either build profile, and neither writes an ACK. They return the same response, but that
the driver returns `None` for an empty one. -/
theorem identify_receivers_agree (profile : Profile) (reads : List DevRead)
    (alike : ∀ read ∈ reads, Alike read) :
    ∃ response, Usb.receiveIdentifyResponse profile (reads.map DevRead.tick) = .ok response ∧
      receiveIdentifyFrom reads = .ok (if response = some [] then none else response, []) ∧
      chunkAcks profile (reads.map DevRead.tick) = [] := by
  obtain ⟨response, ported, driven, silent⟩ := identify_answer profile reads alike
  exact ⟨response, ported, by rw [driven, driverResponse_eq], silent⟩

end Responses

/-- A response in two chunks, and the silence that ends it. -/
theorem identify_receivers_agree_chunks :
    let reads : List DevRead :=
      [.data [0x04, 0xa1, 0x01, 0x02, 0x00, 0xaa, 0xbb],
        .data [0x04, 0xa1, 0x02, 0x01, 0x02, 0xcc], .timeout]
    ∃ response, Usb.receiveIdentifyResponse .debug (reads.map DevRead.tick) = .ok response ∧
      @receiveIdentifyFrom Memory.gibibyte reads =
        .ok (if response = some [] then none else response, []) ∧
      chunkAcks .debug (reads.map DevRead.tick) = [] := by
  refine @identify_receivers_agree Memory.gibibyte .debug _ fun read member => ?_
  rcases List.mem_cons.mp member with rfl | member
  · exact .inr (@AlikeFrame.mk Memory.gibibyte _ (by decide) (by decide) (by decide) (by decide)
      (by decide))
  rcases List.mem_pair.mp member with rfl | rfl
  · exact .inr (@AlikeFrame.mk Memory.gibibyte _ (by decide) (by decide) (by decide) (by decide)
      (by decide))
  · trivial

end Wolverine.Python
