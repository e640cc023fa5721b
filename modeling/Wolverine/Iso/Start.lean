/-
**`IsoAudio::start` and what it leaves behind when it fails.**

`start` runs against the answers of libusb and of the system, over a ledger of what is held
(`Holdings`): the libusb context, the device list, the handle, the claimed interface, the boxed
engine state, the event thread, and every transfer with its buffer. An early return of the source
is a failure that keeps the ledger.

* `openInterface_opened`, `openInterface_failed` — opening the device holds a handle, or nothing.
* `submitXfers_ok`, `submitXfers_error` — the transfers held after the loop, and at a failed
  allocation.
* `launch_alloc_failed` — what a failed allocation leaves: everything is still held, and the
  transfers submitted so far are in flight on dropped buffers.
* `start_all_or_nothing_iff` — `start` gives everything back whenever it fails, exactly when nothing
  fails behind the claim of the interface.
* `start_returned`, `drop_released_iff` — what a `start` that returned holds; dropping it does give
  everything back, once the cancelled transfers are drained.
-/

import Wolverine.Base.Machine

namespace Wolverine.Iso.IsoAudio

open Wolverine.Machine

/-! ### What is held -/

/-- A transfer that was allocated. -/
structure Xfer where
  /-- It is in flight. -/
  pending : Bool
  freed : Bool
  /-- Its buffer was dropped. -/
  dropped : Bool
  deriving DecidableEq, Repr

/-- What is held. -/
structure Holdings where
  context : Bool
  deviceList : Bool
  handle : Bool
  interface : Bool
  /-- The box of the engine state is not reclaimed. -/
  engine : Bool
  /-- The event thread runs. -/
  thread : Bool
  /-- Every transfer that was ever allocated. -/
  xfers : List Xfer
  deriving DecidableEq, Repr

/-- Nothing is held, and no transfer in flight writes to a dropped buffer. -/
structure Holdings.Released (held : Holdings) : Prop where
  inFlight : ∀ xfer ∈ held.xfers, ¬ (xfer.pending = true ∧ xfer.dropped = true)
  xfers : ∀ xfer ∈ held.xfers, xfer.freed = true
  thread : held.thread = false
  engine : held.engine = false
  interface : held.interface = false
  handle : held.handle = false
  deviceList : held.deviceList = false
  context : held.context = false

namespace Holdings

def nothing : Holdings where
  context := false
  deviceList := false
  handle := false
  interface := false
  engine := false
  thread := false
  xfers := []

/-- `libusb_exit`. -/
def exit (held : Holdings) : Holdings := { held with context := false }

/-- `libusb_close`. -/
def close (held : Holdings) : Holdings := { held with handle := false }

/-- `libusb_release_interface`. -/
def release (held : Holdings) : Holdings := { held with interface := false }

/-- One more transfer; a submission that libusb refuses is ignored. -/
def submit (held : Holdings) (accepted : Bool) : Holdings :=
  { held with
    xfers := held.xfers ++ [{ pending := accepted, freed := false, dropped := false }] }

/-- The vector of the buffers goes out of scope. -/
def dropBufs (held : Holdings) : Holdings :=
  { held with xfers := held.xfers.map fun xfer => { xfer with dropped := true } }

/-- `libusb_free_transfer` on every transfer. -/
def freeXfers (held : Holdings) : Holdings :=
  { held with xfers := held.xfers.map fun xfer => { xfer with freed := true } }

/-- Cancel every transfer and handle events for a second: those that are drained are no longer in
flight. -/
def drain (held : Holdings) (drained : Nat → Bool) : Holdings :=
  { held with
    xfers := held.xfers.mapIdx fun k xfer => { xfer with pending := xfer.pending && !drained k } }

end Holdings

theorem released_nothing : Holdings.nothing.Released :=
  ⟨List.forall_mem_nil _, List.forall_mem_nil _, rfl, rfl, rfl, rfl, rfl, rfl⟩

/-! ### The answers of libusb and of the system -/

structure Descriptor where
  idVendor : UInt16
  idProduct : UInt16
  deriving DecidableEq, Repr

structure UsbDevice where
  busNumber : UInt8
  deviceAddress : UInt8
  /-- Nothing where `libusb_get_device_descriptor` fails. -/
  descriptor : Option Descriptor
  deriving DecidableEq, Repr

/-- `gip::VID` and `gip::PID`. -/
def wolverine : Descriptor := { idVendor := 0x1532, idProduct := 0x0a14 }

structure Answers where
  init : Bool
  /-- Nothing where `libusb_get_device_list` fails. -/
  deviceList : Option (List UsbDevice)
  /-- `libusb_open` gives a handle. -/
  opens : UsbDevice → Bool
  claims : Bool
  /-- The allocation of the transfer with this number gives one. -/
  allocs : Nat → Bool
  /-- The submission of the transfer with this number is accepted. -/
  submits : Nat → Bool
  /-- The error of the spawn, if it fails. -/
  spawnError : Option String

/-- The device of the list that `open_interface` chooses. -/
def chosen (list : List UsbDevice) (bus addr : UInt8) : Option UsbDevice :=
  list.find? fun dev =>
    dev.busNumber = bus ∧ dev.deviceAddress = addr ∧ dev.descriptor = some wolverine

/-- The chosen device is there, and can be opened. -/
def Answers.opensChosen (answers : Answers) (list : List UsbDevice) (bus addr : UInt8) : Bool :=
  match chosen list bus addr with
  | none => false
  | some dev => answers.opens dev

/-! ### `start` -/

/-- The number of IN transfers. -/
def inNumXfers : Nat := 4

/-- `open_interface`. -/
def openInterface (answers : Answers) (bus addr : UInt8) : EStateM String Holdings Unit :=
  match answers.deviceList with
  | none => throw "libusb_get_device_list failed"
  | some list => do
    modify fun held => { held with deviceList := true }
    modify fun held => { held with handle := answers.opensChosen list bus addr }
    modify fun held => { held with deviceList := false }
    ensure (answers.opensChosen list bus addr)
      ("libusb: Wolverine not found / open failed at bus " ++ toString bus ++ " addr " ++
        toString addr)

/-- One iteration of a transfer loop. -/
def submitXfer (answers : Answers) (failed : String) : EStateM String Holdings Unit := do
  let held ← get
  ensure (answers.allocs held.xfers.length) failed
  set (held.submit (answers.submits held.xfers.length))

/-- A transfer loop. -/
def submitXfers (answers : Answers) (failed : String) : Nat → EStateM String Holdings Unit
  | 0 => pure ()
  | count + 1 => do
    submitXfer answers failed
    submitXfers answers failed count

/-- Spawn the event thread. -/
def spawn (answers : Answers) : EStateM String Holdings Unit :=
  match answers.spawnError with
  | none => modify fun held => { held with thread := true }
  | some error => throw ("spawn iso thread: " ++ error)

/-- From the transfers on, an early return drops the buffers. -/
def launch (answers : Answers) (outNumXfers : Nat) : EStateM String Holdings Unit :=
  onFailure Holdings.dropBufs do
    submitXfers answers "libusb_alloc_transfer (OUT) failed" outNumXfers
    submitXfers answers "libusb_alloc_transfer (IN) failed" inNumXfers
    spawn answers

/-- `IsoAudio::start`, with the setting `WOLVERINE_OUT_XFERS`; the result owns what is held. -/
def start (answers : Answers) (bus addr : UInt8) (outNumXfers : Nat) :
    EStateM String Holdings Unit := do
  ensure answers.init "libusb_init failed"
  modify fun held => { held with context := true }
  onFailure Holdings.exit (openInterface answers bus addr)
  onFailure (fun held => held.close.exit)
    (ensure answers.claims "libusb claim interface 1 (iso audio) failed")
  modify fun held => { held with interface := true }
  modify fun held => { held with engine := true }
  launch answers outNumXfers

/-! ### `stop` -/

/-- `IsoAudio::stop`; an engine that is null was stopped before. -/
def stop (drained : Nat → Bool) (held : Holdings) : Holdings :=
  if held.engine then
    let quiet := { held with thread := false }
    { (quiet.drain drained).freeXfers.release.close.exit with engine := false }
  else held

/-- The drop of an `IsoAudio`: it stops, and then the fields are dropped. -/
def drop (drained : Nat → Bool) (held : Holdings) : Holdings := (stop drained held).dropBufs

/-! ### Opening the device -/

/-- The device is listed, and can be opened. -/
def Answers.opened (answers : Answers) (bus addr : UInt8) : Prop :=
  ∃ list, answers.deviceList = some list ∧ answers.opensChosen list bus addr = true

theorem openInterface_opened {answers : Answers} {bus addr : UInt8}
    (opened : answers.opened bus addr) (held : Holdings) :
    openInterface answers bus addr held =
      .ok () { held with handle := true, deviceList := false } := by
  obtain ⟨list, listed, opens⟩ := opened
  unfold openInterface
  simp only [listed, opens]
  rfl

/-- An opening that fails holds nothing: the device list is freed on every path. -/
theorem openInterface_failed {answers : Answers} {bus addr : UInt8}
    (closed : ¬ answers.opened bus addr) (held : Holdings) (noHandle : held.handle = false)
    (noList : held.deviceList = false) :
    ∃ error, openInterface answers bus addr held = .error error held := by
  unfold openInterface
  cases listed : answers.deviceList with
  | none => exact ⟨_, rfl⟩
  | some list =>
    have opens : answers.opensChosen list bus addr = false :=
      Bool.eq_false_iff.mpr fun opens => closed ⟨list, listed, opens⟩
    obtain ⟨context, deviceList, handle, interface, engine, thread, xfers⟩ := held
    cases noHandle
    cases noList
    simp only [opens]
    exact ⟨_, rfl⟩   -- the handle of a failed open is null

/-! ### The transfer loops -/

/-- The transfers that a loop allocates, from a number on. -/
def submitted (answers : Answers) (first count : Nat) : List Xfer :=
  (List.range' first count).map fun k =>
    { pending := answers.submits k, freed := false, dropped := false }

theorem submitted_succ (answers : Answers) (first count : Nat) :
    submitted answers first (count + 1) =
      { pending := answers.submits first, freed := false, dropped := false } ::
        submitted answers (first + 1) count := by
  rw [submitted, List.range'_succ, List.map_cons, submitted]

theorem submitXfer_ok {answers : Answers} (failed : String) {held : Holdings}
    (allocated : answers.allocs held.xfers.length = true) :
    submitXfer answers failed held =
      .ok () (held.submit (answers.submits held.xfers.length)) := by
  unfold submitXfer
  rw [proceed_get, proceed (ensure_holds allocated failed held)]
  rfl

theorem submitXfer_error {answers : Answers} (failed : String) {held : Holdings}
    (null : answers.allocs held.xfers.length = false) :
    submitXfer answers failed held = .error failed held := by
  unfold submitXfer
  rw [proceed_get, abort (ensure_fails null failed held)]

theorem length_submit (held : Holdings) (accepted : Bool) :
    (held.submit accepted).xfers.length = held.xfers.length + 1 := by
  rw [Holdings.submit, List.length_append, List.length_singleton]

theorem submit_submitted (answers : Answers) (held : Holdings) (count : Nat) :
    { held.submit (answers.submits held.xfers.length) with
      xfers := (held.submit (answers.submits held.xfers.length)).xfers ++
        submitted answers (held.xfers.length + 1) count } =
      { held with
        xfers := held.xfers ++ submitted answers held.xfers.length (count + 1) } := by
  rw [submitted_succ, Holdings.submit, List.append_assoc, List.singleton_append]

/-- Where every allocation succeeds, the loop adds all of its transfers. -/
theorem submitXfers_ok {answers : Answers} (failed : String) (count : Nat) {held : Holdings}
    (allocated : ∀ k < count, answers.allocs (held.xfers.length + k) = true) :
    submitXfers answers failed count held = .ok ()
      { held with xfers := held.xfers ++ submitted answers held.xfers.length count } := by
  induction count generalizing held with
  | zero =>
    rw [submitted, List.range'_zero, List.map_nil, List.append_nil]
    rfl
  | succ count ih =>
    have rest : ∀ k < count, answers.allocs
        ((held.submit (answers.submits held.xfers.length)).xfers.length + k) = true := by
      intro k below
      rw [length_submit, Nat.add_assoc, Nat.add_comm 1]
      exact allocated (k + 1) (Nat.succ_lt_succ below)
    rw [submitXfers, proceed (submitXfer_ok failed (allocated 0 (Nat.succ_pos count))), ih rest,
      length_submit, submit_submitted]

/-- At the first allocation that fails, the loop has added the transfers before it. -/
theorem submitXfers_error {answers : Answers} (failed : String) {count k : Nat} (below : k < count)
    {held : Holdings} (allocated : ∀ j < k, answers.allocs (held.xfers.length + j) = true)
    (null : answers.allocs (held.xfers.length + k) = false) :
    submitXfers answers failed count held = .error failed
      { held with xfers := held.xfers ++ submitted answers held.xfers.length k } := by
  induction count generalizing held k with
  | zero => exact absurd below (Nat.not_lt_zero k)
  | succ count ih =>
    rw [submitXfers]
    cases k with
    | zero =>
      rw [abort (submitXfer_error failed null), submitted, List.range'_zero, List.map_nil,
        List.append_nil]
    | succ k =>
      have rest : ∀ j < k, answers.allocs
          ((held.submit (answers.submits held.xfers.length)).xfers.length + j) = true := by
        intro j before
        rw [length_submit, Nat.add_assoc, Nat.add_comm 1]
        exact allocated (j + 1) (Nat.succ_lt_succ before)
      have nullRest : answers.allocs
          ((held.submit (answers.submits held.xfers.length)).xfers.length + k) = false := by
        rw [length_submit, Nat.add_assoc, Nat.add_comm 1]
        exact null
      rw [proceed (submitXfer_ok failed (allocated 0 (Nat.succ_pos k))),
        ih (Nat.lt_of_succ_lt_succ below) rest nullRest, length_submit, submit_submitted]

theorem submitted_append (answers : Answers) (count more : Nat) :
    submitted answers 0 count ++ submitted answers count more =
      submitted answers 0 (count + more) := by
  rw [submitted, submitted, submitted, ← List.map_append, ← List.range'_append_1, Nat.zero_add]

theorem length_submitted (answers : Answers) (first count : Nat) :
    (submitted answers first count).length = count := by
  rw [submitted, List.length_map, List.length_range']

/-! ### Behind the claim -/

/-- What is held behind the claim, with a number of transfers. -/
def withXfers (answers : Answers) (count : Nat) : Holdings :=
  { Holdings.nothing with
    context := true, handle := true, interface := true, engine := true
    xfers := submitted answers 0 count }

theorem length_withXfers (answers : Answers) (count : Nat) :
    (withXfers answers count).xfers.length = count :=
  length_submitted answers 0 count

/-- A loop that begins behind a number of transfers, and allocates all of its own. -/
theorem submitXfers_behind {answers : Answers} (failed : String) {before : Nat} (count : Nat)
    (allocated : ∀ k < before + count, answers.allocs k = true) :
    submitXfers answers failed count (withXfers answers before) =
      .ok () (withXfers answers (before + count)) := by
  rw [submitXfers_ok failed count]
  · rw [length_withXfers, withXfers, submitted_append, withXfers]
  · intro k below
    rw [length_withXfers]
    exact allocated _ (Nat.add_lt_add_left below before)

theorem submitXfers_behind_error {answers : Answers} (failed : String) {before count k : Nat}
    (below : k < count) (allocated : ∀ j < before + k, answers.allocs j = true)
    (null : answers.allocs (before + k) = false) :
    submitXfers answers failed count (withXfers answers before) =
      .error failed (withXfers answers (before + k)) := by
  rw [submitXfers_error failed below]
  · rw [length_withXfers, withXfers, submitted_append, withXfers]
  · intro j earlier
    rw [length_withXfers]
    exact allocated _ (Nat.add_lt_add_left earlier before)
  · rw [length_withXfers]
    exact null

theorem submitOut_ok {answers : Answers} (failed : String) {outNumXfers : Nat}
    (allocated : ∀ k < outNumXfers, answers.allocs k = true) :
    submitXfers answers failed outNumXfers (withXfers answers 0) =
      .ok () (withXfers answers outNumXfers) := by
  rw [submitXfers_behind failed outNumXfers] <;> rw [Nat.zero_add]
  exact allocated

/-- All transfers are allocated: only the spawn can fail. -/
theorem launch_allocated {answers : Answers} {outNumXfers : Nat}
    (allocated : ∀ k < outNumXfers + inNumXfers, answers.allocs k = true) :
    launch answers outNumXfers (withXfers answers 0) =
      onFailure Holdings.dropBufs (spawn answers)
        (withXfers answers (outNumXfers + inNumXfers)) := by
  have first := submitOut_ok "libusb_alloc_transfer (OUT) failed"
    fun k below => allocated k (Nat.lt_add_right inNumXfers below)
  have second := submitXfers_behind "libusb_alloc_transfer (IN) failed" inNumXfers allocated
  unfold launch onFailure
  rw [proceed first, proceed second]

/-- **A failed allocation** leaves the transfers before it, in flight where they were accepted, with
their buffers dropped; and nothing else is given back. -/
theorem launch_alloc_failed {answers : Answers} {outNumXfers k : Nat}
    (below : k < outNumXfers + inNumXfers) (allocated : ∀ j < k, answers.allocs j = true)
    (null : answers.allocs k = false) :
    ∃ error, launch answers outNumXfers (withXfers answers 0) =
      .error error (withXfers answers k).dropBufs := by
  unfold launch
  by_cases out : k < outNumXfers
  · rw [← Nat.zero_add k] at allocated null ⊢
    have failed := submitXfers_behind_error "libusb_alloc_transfer (OUT) failed" out allocated null
    exact ⟨_, onFailure_error _ (abort failed _)⟩
  · obtain ⟨more, rfl⟩ := Nat.exists_eq_add_of_le (Nat.le_of_not_lt out)
    have first := submitOut_ok "libusb_alloc_transfer (OUT) failed"
      fun k before => allocated k (Nat.lt_add_right more before)
    have failed := submitXfers_behind_error "libusb_alloc_transfer (IN) failed"
      (Nat.lt_of_add_lt_add_left below) allocated null
    have second := (proceed first fun _ => submitXfers answers
      "libusb_alloc_transfer (IN) failed" inNumXfers >>= fun _ => spawn answers).trans
      (abort failed _)
    exact ⟨_, onFailure_error _ second⟩

/-! ### The failures of `start` -/

/-- The interface is claimed. -/
structure Answers.Claims (answers : Answers) (bus addr : UInt8) : Prop where
  init : answers.init = true
  opened : answers.opened bus addr
  claims : answers.claims = true

/-- Behind the claim, `start` is its launch. -/
theorem start_claimed {answers : Answers} {bus addr : UInt8} (claims : answers.Claims bus addr)
    (outNumXfers : Nat) :
    start answers bus addr outNumXfers Holdings.nothing =
      launch answers outNumXfers (withXfers answers 0) := by
  unfold start
  rw [proceed (ensure_holds claims.init _ _), proceed_modify,
    proceed (onFailure_ok _ (openInterface_opened claims.opened _)),
    proceed (onFailure_ok _ (ensure_holds claims.claims _ _))]
  rfl

/-- Up to the claim, a failure gives everything back. -/
theorem start_unclaimed {answers : Answers} {bus addr : UInt8}
    (fails : ¬ answers.Claims bus addr) (outNumXfers : Nat) :
    ∃ error, start answers bus addr outNumXfers Holdings.nothing =
      .error error Holdings.nothing := by
  unfold start
  cases init : answers.init with
  | false => exact ⟨_, abort (ensure_fails rfl _ _) _⟩
  | true =>
    rw [proceed (ensure_holds rfl _ _), proceed_modify]
    by_cases opened : answers.opened bus addr
    · have refused : answers.claims = false :=
        Bool.eq_false_iff.mpr fun claims => fails ⟨init, opened, claims⟩
      rw [proceed (onFailure_ok _ (openInterface_opened opened _))]
      exact ⟨_, abort (onFailure_error _ (ensure_fails refused _ _)) _⟩
    · obtain ⟨error, failed⟩ := openInterface_failed opened
        { Holdings.nothing with context := true } rfl rfl
      exact ⟨error, abort (onFailure_error _ failed) _⟩

/-- Where an allocation fails, one is the first. -/
theorem first_failed_alloc {answers : Answers} {count : Nat}
    (fails : ¬ ∀ k < count, answers.allocs k = true) :
    ∃ k < count, (∀ j < k, answers.allocs j = true) ∧ answers.allocs k = false := by
  push Not at fails
  obtain ⟨below, null⟩ := Nat.find_spec fails
  refine ⟨Nat.find fails, below, fun j before => ?_, Bool.eq_false_iff.mpr null⟩
  by_contra other
  exact Nat.find_min fails before ⟨before.trans below, other⟩

/-- **`start` gives everything back whenever it fails** exactly when, once the interface is claimed,
every allocation and the spawn of the thread succeed. -/
theorem start_all_or_nothing_iff (answers : Answers) (bus addr : UInt8) (outNumXfers : Nat) :
    (∀ error held, start answers bus addr outNumXfers Holdings.nothing = .error error held →
      held.Released) ↔
      (answers.Claims bus addr →
        (∀ k < outNumXfers + inNumXfers, answers.allocs k = true) ∧
          answers.spawnError = none) := by
  by_cases claims : answers.Claims bus addr
  · rw [start_claimed claims, forall_prop_of_true claims]
    by_cases allocated : ∀ k < outNumXfers + inNumXfers, answers.allocs k = true
    · rw [launch_allocated allocated, and_iff_right allocated, onFailure, spawn]
      cases answers.spawnError with
      | none =>
        refine iff_of_true (fun error held failed => ?_) rfl
        cases failed
      | some error =>
        refine iff_of_false (fun released => ?_) fun absurd => ?_
        · cases (released _ _ rfl).engine
        · cases absurd
    · obtain ⟨k, below, before, null⟩ := first_failed_alloc allocated
      obtain ⟨error, failed⟩ := launch_alloc_failed below before null
      refine iff_of_false (fun released => ?_) fun both => allocated both.1
      cases (released _ _ failed).engine
  · obtain ⟨error, failed⟩ := start_unclaimed claims outNumXfers
    refine iff_of_true (fun other held same => ?_) fun both => absurd both claims
    cases failed.symm.trans same
    exact released_nothing

/-- The device on bus 1 at address 5; the second transfer cannot be allocated. -/
def secondAllocFails : Answers where
  init := true
  deviceList := some [{ busNumber := 1, deviceAddress := 5, descriptor := some wolverine }]
  opens := fun _ => true
  claims := true
  allocs := fun k => k != 1
  submits := fun _ => true
  spawnError := none

/-- The first transfer is in flight on a dropped buffer. -/
theorem not_start_all_or_nothing :
    ¬ ∀ answers bus addr outNumXfers error held,
      start answers bus addr outNumXfers Holdings.nothing = .error error held →
        held.Released := by
  intro released
  have failed : start secondAllocFails 1 5 6 Holdings.nothing =
      .error "libusb_alloc_transfer (OUT) failed" (withXfers secondAllocFails 1).dropBufs := rfl
  exact (released _ _ _ _ _ _ failed).inFlight _ List.mem_cons_self ⟨rfl, rfl⟩

/-! ### What `start` returns, and its end -/

/-- A `start` that returned holds everything, with all of its transfers. -/
theorem start_returned {answers : Answers} {bus addr : UInt8} {outNumXfers : Nat}
    {held : Holdings}
    (returned : start answers bus addr outNumXfers Holdings.nothing = .ok () held) :
    held = { withXfers answers (outNumXfers + inNumXfers) with thread := true } := by
  by_cases claims : answers.Claims bus addr
  · rw [start_claimed claims] at returned
    by_cases allocated : ∀ k < outNumXfers + inNumXfers, answers.allocs k = true
    · rw [launch_allocated allocated, onFailure, spawn] at returned
      cases spawned : answers.spawnError with
      | none =>
        rw [spawned] at returned
        cases returned
        rfl
      | some error =>
        rw [spawned] at returned
        cases returned
    · obtain ⟨k, below, before, null⟩ := first_failed_alloc allocated
      obtain ⟨error, failed⟩ := launch_alloc_failed below before null
      cases failed.symm.trans returned
  · obtain ⟨error, failed⟩ := start_unclaimed claims outNumXfers
    cases failed.symm.trans returned

/-- A second `stop` does nothing. -/
theorem stop_stop (drained again : Nat → Bool) (held : Holdings) :
    stop again (stop drained held) = stop drained held := by
  cases engine : held.engine with
  | false => rw [stop, stop, engine, if_neg Bool.false_ne_true, engine, if_neg Bool.false_ne_true]
  | true => rw [stop, stop, engine, if_pos rfl, if_neg Bool.false_ne_true]

/-- What the drop of a running engine leaves. -/
theorem drop_running {held : Holdings} (engine : held.engine = true)
    (noList : held.deviceList = false) (drained : Nat → Bool) :
    drop drained held =
      { Holdings.nothing with
        xfers := held.xfers.mapIdx fun k xfer =>
          { pending := xfer.pending && !drained k, freed := true, dropped := true } } := by
  have xfers : ((held.drain drained).freeXfers.dropBufs).xfers = held.xfers.mapIdx fun k xfer =>
      { pending := xfer.pending && !drained k, freed := true, dropped := true } := by
    refine List.ext_getElem ?_ fun k _ _ => ?_
    · simp only [Holdings.dropBufs, Holdings.freeXfers, Holdings.drain, List.length_map,
        List.length_mapIdx]
    · simp only [Holdings.dropBufs, Holdings.freeXfers, Holdings.drain, List.getElem_map,
        List.getElem_mapIdx]
  rw [← xfers, drop, stop, if_pos engine]
  obtain ⟨context, deviceList, handle, interface, engine, thread, xfers⟩ := held
  cases noList
  rfl

/-- **Dropping an `IsoAudio` gives everything back** exactly when every transfer in flight is
drained within the second. -/
theorem drop_released_iff {held : Holdings} (engine : held.engine = true)
    (noList : held.deviceList = false) (drained : Nat → Bool) :
    (drop drained held).Released ↔
      ∀ k (inside : k < held.xfers.length), held.xfers[k].pending = true → drained k = true := by
  rw [drop_running engine noList]
  refine ⟨fun released k inside pending => ?_, fun all => ?_⟩
  · by_contra stuck
    refine released.inFlight _ (List.mem_mapIdx.mpr ⟨k, inside, rfl⟩) ⟨?_, rfl⟩
    rw [pending, Bool.eq_false_iff.mpr stuck]
    rfl
  · refine ⟨fun xfer member => ?_, fun xfer member => ?_, rfl, rfl, rfl, rfl, rfl, rfl⟩
    · obtain ⟨k, inside, rfl⟩ := List.mem_mapIdx.mp member
      intro ⟨pending, _⟩
      rw [Bool.and_eq_true] at pending
      rw [all k inside pending.1] at pending
      cases pending.2
    · obtain ⟨k, inside, rfl⟩ := List.mem_mapIdx.mp member
      rfl

end Wolverine.Iso.IsoAudio
