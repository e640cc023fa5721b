/-
**Rumble, from the application to the motors.**

The event loop polls the force-feedback events of the gamepad device and sends what a poll returns
as a RUMBLE packet; the controller decodes the packets, and its motors keep the last magnitudes. A
run is compared with the history of the events that it has fetched.

* `wanted` — the reference: what the last play or stop of a history asks of the motors.
* `handle_still` — answering a packet does not move the motors.
* `runMonitor_commands` — a run sends what its polls return, in order.
* `motors_follow` — the motors behind a run.
-/

import Wolverine.Input.Rumble
import Wolverine.Usb.Robust

namespace Wolverine.Input

open Wolverine.Rust Wolverine.Gip Wolverine.Machine Wolverine.Usb

/-! ### The motors -/

/-- What a packet asks of the motors: the strong and the weak one, in percent. -/
def motorsOf (profile : Profile) (packet : List UInt8) : Option (UInt8 × UInt8) :=
  match decode profile packet with
  | .ok (some decoded) =>
    if decoded.cmd = Cmd.rumble then some (decoded.payload.getD 4 0, decoded.payload.getD 5 0)
    else none
  | _ => none

/-- The motors behind some packets. -/
def motors (profile : Profile) (packets : List (List UInt8)) : UInt8 × UInt8 :=
  (packets.filterMap (motorsOf profile)).getLast?.getD (0, 0)

/-- The packets of a run. -/
def packetsOf (trace : List (Tick × List Effect)) : List (List UInt8) :=
  (sends (effectsOf trace)).map Sent.packet

/-! ### Runs -/

/-- One iteration: what the poll fetches, and what is read. -/
structure Poll where
  fetched : Option (List FfEvent)
  read : Ep1Read
  deriving DecidableEq, Repr

/-- The iterations as the loop sees them: each poll finds the effects of those before it. -/
def ticksOf : ForceFeedback → List Poll → List Tick
  | _, [] => []
  | ff, poll :: rest =>
    let (ff, rumble) := ff.pollRumble poll.fetched
    ⟨rumble, poll.read⟩ :: ticksOf ff rest

/-- The iterations that the loop goes through: a disconnect is the last. -/
def iterations : List Poll → List Poll
  | [] => []
  | poll :: rest => if poll.read = .disconnected then [poll] else poll :: iterations rest

/-- The events that a run fetches. -/
def fetchedBy (polls : List Poll) : List FfEvent := historyOf ((iterations polls).map Poll.fetched)

/-- What the last play or stop asks, looking back from the last event. -/
def wantedBack : List FfEvent → UInt8 × UInt8
  | .forceFeedback id value :: earlier => commandAfter earlier.reverse id value
  | _ :: earlier => wantedBack earlier
  | [] => (0, 0)

/-- **What a history asks of the motors.** -/
def wanted (history : List FfEvent) : UInt8 × UInt8 := wantedBack history.reverse

/-! ### The reference -/

section Wanted

theorem wanted_play (history : List FfEvent) (id : UInt16) (value : Int32) :
    wanted (history ++ [.forceFeedback id value]) = commandAfter history id value := by
  rw [wanted, List.reverse_concat, wantedBack, List.reverse_reverse]

theorem wanted_other (history : List FfEvent) {event : FfEvent}
    (other : ∀ id value, event ≠ .forceFeedback id value) :
    wanted (history ++ [event]) = wanted history := by
  rw [wanted, List.reverse_concat]
  cases event with
  | forceFeedback id value => exact absurd rfl (other id value)
  | upload | erase | other => rfl

/-- One poll with a whole history returns what the history asks. -/
theorem poll_wanted (history : List FfEvent) :
    ((history.foldl ForceFeedback.event (.create, none)).2).getD (0, 0) = wanted history := by
  induction history using List.reverseRecOn with
  | nil => rfl
  | append_singleton history event ih =>
    rw [List.foldl_concat]
    rcases event with (_ | up) | (_ | request) | ⟨id, value⟩ | _
    · exact ih.trans (wanted_other history (by simp)).symm
    · exact ih.trans (wanted_other history (by simp)).symm
    · exact ih.trans (wanted_other history (by simp)).symm
    · exact ih.trans (wanted_other history (by simp)).symm
    · rw [wanted_play]
      exact (reached_refers history).command_eq id value
    · exact ih.trans (wanted_other history (by simp)).symm

end Wanted

/-! ### One iteration -/

/-- The motor commands among the packets. -/
def commanded (effects : List Effect) : List (UInt8 × UInt8) :=
  (sends effects).filterMap fun sent =>
    if sent.cmd = Cmd.rumble then some (sent.payload.getD 4 0, sent.payload.getD 5 0) else none

section Iteration

theorem commanded_append (first second : List Effect) :
    commanded (first ++ second) = commanded first ++ commanded second := by
  rw [commanded, sends_append, List.filterMap_append]
  rfl

theorem commanded_pollRumble (monitor : Monitor) (rumble : Option (UInt8 × UInt8)) :
    commanded (pollRumble monitor rumble).2 = rumble.toList := by
  cases rumble <;> rfl

/-- A packet tells the motors what it was built from. -/
theorem motorsOf_packet {sent : Sent} (small : sent.Small) (profile : Profile) :
    motorsOf profile sent.packet =
      if sent.cmd = Cmd.rumble then some (sent.payload.getD 4 0, sent.payload.getD 5 0)
      else none := by
  rw [motorsOf, (Sent.sound small profile).2]

/-- No arm of the dispatch sends a RUMBLE packet. -/
theorem dispatch_still (counter : SeqCounter) (raw : List UInt8) :
    ∀ packet, .send packet ∈ (dispatch counter raw).2 → packet.getD 0 0 ≠ Cmd.rumble := by
  have one : ∀ {cmd : UInt8} (options seq : UInt8) (payload : List UInt8), cmd ≠ Cmd.rumble →
      ∀ packet, .send packet ∈ [Action.send (buildPacket cmd options seq payload)] →
        packet.getD 0 0 ≠ Cmd.rumble := by
    intro cmd options seq payload other packet member
    cases List.mem_singleton.mp member
    exact other
  intro packet member
  by_cases audio : raw.getD 0 0 = Cmd.audioControl
  · rw [dispatch_audioControl counter audio] at member
    rcases List.mem_append.mp member with volume | ack
    · unfold volumeReply at volume
      split at volume
      · rcases List.mem_cons.mp volume with forward | reply
        · cases forward
        · exact one _ _ _ (by decide) packet reply
      · cases volume
    · split at ack
      · exact one _ _ _ (by decide) packet ack
      · cases ack
  · simp only [dispatch, if_neg audio] at member
    split at member
    · cases List.mem_singleton.mp member
    split at member
    · cases List.mem_singleton.mp member
    split at member
    · exact one _ _ _ (by decide) packet member
    · cases member

/-- **Answering a packet does not move the motors.** -/
theorem handle_still (monitor : Monitor) {raw : List UInt8} (nonempty : raw ≠ []) :
    ∃ after effects, handle monitor raw = .ok (after, effects) ∧ commanded effects = [] := by
  obtain ⟨after, effects, handled, -, same⟩ := handle_ok monitor nonempty
  refine ⟨after, effects, handled, List.filterMap_eq_nil_iff.mpr fun sent member => ?_⟩
  obtain ⟨effect, happened, sent_⟩ := List.mem_filterMap.mp member
  have action : .send sent.packet ∈ (dispatch monitor.seq raw).2 := by
    rw [← same]
    refine List.mem_map.mpr ⟨effect, happened, ?_⟩
    cases effect with
    | send other =>
      cases sent_
      rfl
    | forwardGamepad | forwardGuide | forwardMedia => cases sent_
  exact if_neg (dispatch_still monitor.seq raw sent.packet action)

end Iteration

/-! ### Runs -/

/-- **A run sends what its polls return**, in order. -/
theorem runMonitor_commands (polls : List Poll) : ∀ (ff : ForceFeedback) (monitor : Monitor),
    ∃ trace, runMonitor monitor (ticksOf ff polls) = .ok trace ∧
      commanded (effectsOf trace) =
        (produce ForceFeedback.pollRumble ff ((iterations polls).map Poll.fetched)).2.filterMap
          id := by
  induction polls with
  | nil => exact fun _ _ => ⟨[], rfl, rfl⟩
  | cons poll rest ih =>
    obtain ⟨fetched, read⟩ := poll
    intro ff monitor
    rw [ticksOf]
    have outputs : ∀ later : List Poll, (produce ForceFeedback.pollRumble ff
        ((⟨fetched, read⟩ :: later).map Poll.fetched)).2.filterMap id =
        (ff.pollRumble fetched).2.toList ++ (produce ForceFeedback.pollRumble
          (ff.pollRumble fetched).1 (later.map Poll.fetched)).2.filterMap id := by
      intro later
      rw [List.map_cons, produce]
      rcases ff.pollRumble fetched with ⟨next, _ | motors⟩ <;> rfl
    generalize ff.pollRumble fetched = polled at outputs ⊢
    obtain ⟨next, rumble⟩ := polled
    have sent := commanded_pollRumble monitor rumble
    simp only [runMonitor]
    generalize pollRumble monitor rumble = requested at sent ⊢
    obtain ⟨middle, requested⟩ := requested
    have idle : read ≠ .disconnected → ∃ trace,
        (runMonitor middle (ticksOf next rest)).map ((⟨rumble, read⟩, requested) :: ·) =
          .ok trace ∧ commanded (effectsOf trace) = (produce ForceFeedback.pollRumble ff
            ((iterations (⟨fetched, read⟩ :: rest)).map Poll.fetched)).2.filterMap id := by
      intro alive
      obtain ⟨later, ran, commands⟩ := ih next middle
      refine ⟨(⟨rumble, read⟩, requested) :: later, by rw [ran]; rfl, ?_⟩
      rw [iterations, if_neg alive, outputs, effectsOf_cons, commanded_append, sent, commands]
    cases read with
    | timeout => exact idle (by simp)
    | disconnected =>
      refine ⟨[(⟨rumble, .disconnected⟩, requested)], rfl, ?_⟩
      rw [iterations, if_pos rfl, outputs, effectsOf_cons, commanded_append, sent]
      rfl
    | data raw =>
      by_cases empty : raw = []
      · simp only [if_pos empty]
        exact idle (by simp)
      · obtain ⟨after, effects, handled, still⟩ := handle_still middle empty
        obtain ⟨later, ran, commands⟩ := ih next after
        simp only [if_neg empty, handled, bind, Except.bind, ran]
        refine ⟨(⟨rumble, .data raw⟩, requested ++ effects) :: later, rfl, ?_⟩
        rw [iterations, if_neg (by simp), outputs, effectsOf_cons, commanded_append,
          commanded_append, sent, still, List.append_nil, commands]

/-- **The motors behind a run.** Whatever applications upload, erase, play and stop, however their
events are cut into polls, and whatever is read in between: the run returns a trace; the packets
that it sends tell the controller, in order, what the polls return, at most one command in an
iteration, all of them percentages; and behind the run the motors do what the last play or stop
among the events that were fetched asks, with the effect that was stored under its id by then. -/
theorem motors_follow (profile : Profile) (monitor : Monitor) (polls : List Poll) :
    ∃ trace, runMonitor monitor (ticksOf .create polls) = .ok trace ∧
      (packetsOf trace).filterMap (motorsOf profile) = (produce ForceFeedback.pollRumble .create
        ((iterations polls).map Poll.fetched)).2.filterMap id ∧
      ((packetsOf trace).filterMap (motorsOf profile)).length ≤ (iterations polls).length ∧
      (∀ command ∈ (packetsOf trace).filterMap (motorsOf profile), Scaled command) ∧
      motors profile (packetsOf trace) = wanted (fetchedBy polls) := by
  obtain ⟨trace, ran, commands⟩ := runMonitor_commands polls .create monitor
  have decoded : (packetsOf trace).filterMap (motorsOf profile) = commanded (effectsOf trace) := by
    obtain ⟨same, last, returned, orderly, -⟩ := runMonitor_ok (ticksOf .create polls) monitor
    cases ran.symm.trans returned
    rw [packetsOf, commanded, List.filterMap_map]
    refine List.filterMap_congr fun sent member => ?_
    exact motorsOf_packet (orderly.small sent member) profile
  refine ⟨trace, ran, ?_⟩
  unfold motors
  rw [decoded, commands]
  refine ⟨rfl, ?_, fun command member => ?_, ?_⟩
  · refine (List.length_filterMap_le _ _).trans ?_
    rw [length_produce, List.length_map]
  · obtain ⟨answer, returned, same⟩ := List.mem_filterMap.mp member
    exact pollAll_scaled _ _ answer returned command same
  · rw [fetchedBy, ← poll_wanted, ← pollAll_eq]
    rfl

end Wolverine.Input
