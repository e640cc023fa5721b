/-
**Stopping the isochronous engines.**

The event thread runs `on_out` and `on_in`, which submit their transfer again unless `running` is
cleared; `stop` runs on another thread. `iso.rs` joins the event thread first and cancels then;
`iso_audio.py` cancels first, and waits for its event thread for a second at most. The statements
of either `stop` are executed between any steps of the event thread and of libusb.

* `stop_quiesces` — the port: behind the join nothing is submitted, and what `stop` leaves is what
  it did not drain.
* `stop_leaves_one` — the driver: at most one transfer is in flight without being cancelled.
-/

import Wolverine.Base.Quiesce
import Wolverine.Iso.Start

namespace Wolverine.Iso

open Wolverine.Quiesce

/-! ### `iso.rs` -/

namespace IsoAudio

/-- `IsoAudio::stop`: the store is relaxed; `close` stands for everything behind the drain. -/
def stopStatements (count : Nat) : List (Statement (Fin count)) :=
  .store false :: .join true :: ((List.finRange count).map .cancel ++ [.drain, .close])

/-- The transfers of an engine. -/
def slotsOf (held : Holdings) (k : Fin held.xfers.length) : Slot :=
  if held.xfers[k].pending then .inFlight else .idle

/-- The transfers that were drained. -/
def drainedOf {count : Nat} (slots : Fin count → Slot) (k : Nat) : Bool :=
  if inside : k < count then slots ⟨k, inside⟩ = .idle else true

theorem joinFirst_stopStatements (count : Nat) : JoinFirst (stopStatements count) := by
  intro front index back cut
  match front, cut with
  | first :: second :: more, cut =>
    obtain ⟨-, cut⟩ := List.cons_eq_cons.mp cut
    obtain ⟨rfl, -⟩ := List.cons_eq_cons.mp cut
    exact List.mem_cons_of_mem _ List.mem_cons_self

/-- Whatever was executed behind the store, the join was. -/
theorem joined_of_mem {count : Nat} {pool : Pool (Fin count)}
    (executed : Executed (stopStatements count) pool) {statement : Statement (Fin count)}
    (member : statement ∈ pool.done) (behind : statement ≠ .store false) :
    .join true ∈ pool.done := by
  have cut := executed.program
  match done : pool.done with
  | [] =>
    rw [done] at member
    cases member
  | [first] =>
    rw [done] at cut member
    obtain ⟨rfl, -⟩ := List.cons_eq_cons.mp cut
    exact absurd (List.mem_singleton.mp member) behind
  | first :: second :: more =>
    rw [done] at cut
    obtain ⟨-, cut⟩ := List.cons_eq_cons.mp cut
    obtain ⟨rfl, -⟩ := List.cons_eq_cons.mp cut
    exact List.mem_cons_of_mem _ List.mem_cons_self

/-- What an engine leaves is given back exactly when all of its transfers are idle. -/
theorem drop_drainedOf {held : Holdings} (engine : held.engine = true)
    (noList : held.deviceList = false) {slots : Fin held.xfers.length → Slot}
    (idle : ∀ k, slotsOf held k = .idle → slots k = .idle) :
    (drop (drainedOf slots) held).Released ↔ ∀ k, slots k = .idle := by
  rw [drop_released_iff engine noList]
  have drained : ∀ k (inside : k < held.xfers.length),
      drainedOf slots k = true ↔ slots ⟨k, inside⟩ = .idle := by
    intro k inside
    rw [drainedOf, dif_pos inside, decide_eq_true_iff]
  refine ⟨fun all k => ?_, fun all k inside _ => (drained k inside).mpr (all ⟨k, inside⟩)⟩
  cases pending : held.xfers[k].pending with
  | true => exact (drained k k.isLt).mp (all k k.isLt pending)
  | false =>
    apply idle
    rw [slotsOf, pending]
    rfl

/-- **How the engine stops.** -/
structure Quiesced (held : Holdings) (pool : Pool (Fin held.xfers.length)) : Prop where
  /-- Behind the join the event thread is gone, also when the engine state is dropped. -/
  alone : .join true ∉ pool.todo → pool.worker = .exited
  alive : pool.alive = false → pool.worker = .exited
  late : pool.late.length ≤ 1
  quiet : .join true ∉ pool.todo → ∀ next, Step pool next → ∀ k, next.slots k = .inFlight →
    pool.slots k = .inFlight
  cancelled : ∀ k, .cancel k ∉ pool.todo → pool.slots k = .inFlight → pool.cancelled k = true
  finishes : ∃ last, Steps pool last ∧ last.todo = []
  released : (drop (drainedOf pool.slots) held).Released ↔ ∀ k, pool.slots k = .idle

/-- **The shutdown of the port.** However `stop`, the event thread and libusb interleave: once the
event thread sees that `running` is cleared, at most one transfer is submitted. Behind the join the
event thread is gone, so `stop` has libusb and the engine state for itself, nothing is submitted
any more, and every transfer still in flight is cancelled. `stop` can always go on to its end, and
then everything is given back exactly when all transfers are idle. -/
theorem stop_quiesces {answers : Answers} {bus addr : UInt8} {outNumXfers : Nat} {held : Holdings}
    (returned : start answers bus addr outNumXfers Holdings.nothing = .ok () held)
    {pool : Pool (Fin held.xfers.length)}
    (ran : Steps (Pool.start (stopStatements held.xfers.length) (slotsOf held)) pool) :
    Quiesced held pool := by
  have executed := Executed.steps ran
  have first := joinFirst_stopStatements held.xfers.length
  have accounted := Accounted.steps (fun front index back cut => .inr (first front index back cut))
    (fun _ : True => first) ran
  have member : ∀ statement ∈ stopStatements held.xfers.length, statement ∉ pool.todo →
      statement ∈ pool.done := by
    intro statement inside ahead
    rw [← executed.program] at inside
    exact (List.mem_append.mp inside).resolve_right ahead
  have alone : .join true ∉ pool.todo → pool.worker = .exited := fun ahead =>
    executed.joined (member _ (List.mem_cons_of_mem _ List.mem_cons_self) ahead)
  constructor
  case alone => exact alone
  case alive =>
    exact fun dropped => executed.joined
      (joined_of_mem executed (executed.alive.mp dropped) nofun)
  case late => exact le_trans (Nat.le_add_right _ _) (Flagged.steps ran).late
  case quiet => exact fun ahead next stepped k => quiet (alone ahead) stepped k
  case cancelled =>
    intro k ahead flying
    have cancels : Statement.cancel k ∈ stopStatements held.xfers.length := by
      simp [stopStatements]
    exact (accounted k (member _ cancels ahead) flying).resolve_right fun both => both.1 trivial
  case finishes => exact finishes ran
  case released =>
    have engine : held.engine = true := by rw [start_returned returned]; rfl
    have noList : held.deviceList = false := by rw [start_returned returned]; rfl
    exact drop_drainedOf engine noList fun k idle => idle_stays ran idle

/-- Everything is accepted. -/
def willing : Answers where
  init := true
  deviceList := some [{ busNumber := 1, deviceAddress := 5, descriptor := some wolverine }]
  opens := fun _ => true
  claims := true
  allocs := fun _ => true
  submits := fun _ => true
  spawnError := none

/-- Five transfers in flight. -/
theorem stop_quiesces_willing :
    start willing 1 5 1 Holdings.nothing = .ok () { withXfers willing 5 with thread := true } ∧
    Quiesced { withXfers willing 5 with thread := true }
      (Pool.start (stopStatements 5) (slotsOf { withXfers willing 5 with thread := true })) :=
  ⟨rfl, @stop_quiesces willing 1 5 1 _ rfl _ .refl⟩

end IsoAudio

/-! ### `iso_audio.py` -/

/-- `stop` of the driver: under the interpreter lock every store is in view at once, and the join
has a timeout. -/
def pyStopStatements (count : Nat) : List (Statement (Fin count)) :=
  .store true :: ((List.finRange count).map .cancel ++ [.drain, .join false, .close])

theorem guarded_pyStopStatements (count : Nat) : Guarded (pyStopStatements count) := by
  intro front index back cut
  match front, cut with
  | first :: more, cut =>
    obtain ⟨rfl, -⟩ := List.cons_eq_cons.mp cut
    exact .inl List.mem_cons_self

/-- **The shutdown of the driver.** However `stop`, the event thread and libusb interleave, at most
one transfer is submitted once `_running` is cleared, and of the transfers that `stop` has got to,
at most that one is in flight without being cancelled. `stop` can always go on to its end; and
whichever transfer is in flight at the start, it may be that one, when `stop` closes the handle. -/
theorem stop_leaves_one (count : Nat) (slots : Fin count → Slot) :
    (∀ pool, Steps (Pool.start (pyStopStatements count) slots) pool →
      pool.late.length ≤ 1 ∧
      (∀ j k, .cancel j ∉ pool.todo → .cancel k ∉ pool.todo →
        pool.slots j = .inFlight → pool.slots k = .inFlight →
        pool.cancelled j = false → pool.cancelled k = false → j = k) ∧
      ∃ last, Steps pool last ∧ last.todo = []) ∧
    ∀ k, slots k = .inFlight →
      ∃ last, Steps (Pool.start (pyStopStatements count) slots) last ∧ last.todo = [.close] ∧
        last.slots k = .inFlight ∧ last.cancelled k = false := by
  refine ⟨fun pool ran => ⟨?_, fun j k jDone kDone jFlies kFlies jLeft kLeft => ?_, finishes ran⟩,
    fun k flying => ?_⟩
  · exact le_trans (Nat.le_add_right _ _) (Flagged.steps ran).late
  · have executed := Executed.steps ran
    have accounted := Accounted.steps (guarded_pyStopStatements count) False.elim ran
    have late : ∀ k, .cancel k ∉ pool.todo → pool.slots k = .inFlight → pool.cancelled k = false →
        k ∈ pool.late := by
      intro k ahead flying left
      have cancels : Statement.cancel k ∈ pyStopStatements count := by simp [pyStopStatements]
      rw [← executed.program] at cancels
      have done := (List.mem_append.mp cancels).resolve_right ahead
      exact ((accounted k done flying).resolve_left (Bool.eq_false_iff.mp left)).2
    have bound := le_trans (Nat.le_add_right _ _) (Flagged.steps ran).late
    have one := late j jDone jFlies jLeft
    have other := late k kDone kFlies kLeft
    match lates : pool.late with
    | [] =>
      rw [lates] at one
      cases one
    | [only] =>
      rw [lates] at one other
      exact (List.mem_singleton.mp one).trans (List.mem_singleton.mp other).symm
    | _ :: _ :: _ =>
      rw [lates] at bound
      exact absurd bound (by simp)
  · have cut : pyStopStatements count = (.store true ::
        ((List.finRange count).map .cancel ++ [.drain, .join false])) ++ [.close] := by
      simp [pyStopStatements]
    rw [cut]
    exact straggles (by simp) flying

end Wolverine.Iso
