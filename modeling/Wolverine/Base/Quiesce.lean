/-
**Stopping a worker that keeps transfers in flight.**

A worker runs callbacks of completed transfers; a callback submits its transfer again unless a flag
is cleared. Another thread stops it: it executes a list of statements that clear the flag, join the
worker, cancel transfers, drain completions, and drop what the callbacks use. The flag may be
cleared before the worker has that in view. `Step` is any step of either thread or of the
controller that completes transfers, in any order.

* `late_le_one` — once the cleared flag is in view, at most one transfer is submitted: by the
  callback that had passed its check.
* `exited_of_joined` — behind the join the worker does nothing more, so no transfer is submitted.
* `cancelled_of_joined`, `cancelled_or_late` — what is in flight was cancelled, or is that one.
* `finishes` — the stopping thread can always go on to its end.
* `straggles` — where it does not wait for the worker, a transfer may be left in flight.
-/

import Mathlib.Tactic

namespace Wolverine.Quiesce

variable {Index : Type}

/-! ### The threads -/

/-- Where a transfer is. -/
inductive Slot
  | idle
  | inFlight
  /-- Its callback did not run yet. A transfer that is `gone` is not submitted again. -/
  | completed (gone : Bool)
  deriving DecidableEq, Repr

/-- Where the worker is. -/
inductive Worker (Index : Type)
  /-- About to load the flag. -/
  | top
  | handling
  /-- In a callback that has passed its check. -/
  | submitting (index : Index)
  | reporting
  | exited
  deriving DecidableEq, Repr

/-- What the stopping thread executes. -/
inductive Statement (Index : Type)
  /-- Clear the flag; a fenced store is in view at once. -/
  | store (fenced : Bool)
  /-- Wait for the worker; only a patient one waits until it is gone. -/
  | join (patient : Bool)
  | cancel (index : Index)
  | drain
  /-- Drop what the callbacks use. -/
  | close
  deriving DecidableEq, Repr

structure Pool (Index : Type) where
  slots : Index → Slot
  /-- The flag is cleared. -/
  stored : Bool
  /-- The worker has the cleared flag in view. -/
  visible : Bool
  worker : Worker Index
  /-- What the stopping thread has executed. -/
  done : List (Statement Index)
  todo : List (Statement Index)
  /-- What the callbacks use was not dropped. -/
  alive : Bool
  /-- It was cancelled since it was submitted. -/
  cancelled : Index → Bool
  /-- The transfers that were submitted with the cleared flag in view. -/
  late : List Index

/-- The worker serves, and nothing was stopped. -/
def Pool.start (program : List (Statement Index)) (slots : Index → Slot) : Pool Index where
  slots
  stored := false
  visible := false
  worker := .top
  done := []
  todo := program
  alive := true
  cancelled := fun _ => false
  late := []

/-- The stopping thread goes on to its next statement. -/
def Pool.advance (pool : Pool Index) (statement : Statement Index)
    (rest : List (Statement Index)) : Pool Index :=
  { pool with done := pool.done ++ [statement], todo := rest }

section Steps

variable [DecidableEq Index]

/-- A callback takes its transfer. -/
def Pool.take (pool : Pool Index) (index : Index) : Pool Index :=
  { pool with slots := Function.update pool.slots index .idle }

/-- Cancel a transfer, if it is in flight. -/
def Pool.cancel (pool : Pool Index) (index : Index) : Pool Index :=
  { pool with cancelled := if pool.slots index = .inFlight then
      Function.update pool.cancelled index true else pool.cancelled }

/-- The worker submits a transfer. -/
def Pool.submit (pool : Pool Index) (index : Index) : Pool Index :=
  { pool with
    slots := Function.update pool.slots index .inFlight
    cancelled := Function.update pool.cancelled index false
    worker := .handling
    late := if pool.visible then pool.late ++ [index] else pool.late }

/-- **One step of the system.** -/
inductive Step : Pool Index → Pool Index → Prop
  | store {pool rest fenced} (next : pool.todo = .store fenced :: rest) :
      Step pool ({ pool with stored := true, visible := pool.visible || fenced }.advance
        (.store fenced) rest)
  | join {pool rest patient} (next : pool.todo = .join patient :: rest)
      (gone : patient = true → pool.worker = .exited) :
      Step pool (pool.advance (.join patient) rest)
  | cancel {pool rest index} (next : pool.todo = .cancel index :: rest) :
      Step pool ((pool.cancel index).advance (.cancel index) rest)
  /-- A callback on the stopping thread, which has cleared the flag itself. -/
  | drainCallback {pool rest index gone} (next : pool.todo = .drain :: rest)
      (stored : pool.stored = true) (completed : pool.slots index = .completed gone) :
      Step pool (pool.take index)
  | drain {pool rest} (next : pool.todo = .drain :: rest) : Step pool (pool.advance .drain rest)
  | close {pool rest} (next : pool.todo = .close :: rest) :
      Step pool ({ pool with alive := false }.advance .close rest)
  | enter {pool} (at_ : pool.worker = .top) (unseen : pool.visible = false) :
      Step pool { pool with worker := .handling }
  | exit {pool} (at_ : pool.worker = .top) (stored : pool.stored = true) :
      Step pool { pool with worker := .exited, visible := true }
  | resubmits {pool index} (at_ : pool.worker = .handling) (unseen : pool.visible = false)
      (completed : pool.slots index = .completed false) :
      Step pool { pool.take index with worker := .submitting index }
  | stops {pool index} (at_ : pool.worker = .handling) (stored : pool.stored = true)
      (completed : pool.slots index = .completed false) :
      Step pool { pool.take index with visible := true }
  | gone {pool index} (at_ : pool.worker = .handling)
      (completed : pool.slots index = .completed true) : Step pool (pool.take index)
  | submit {pool index} (at_ : pool.worker = .submitting index) : Step pool (pool.submit index)
  /-- The submission is refused. -/
  | refused {pool index} (at_ : pool.worker = .submitting index) :
      Step pool { pool with worker := .handling }
  | report {pool} (at_ : pool.worker = .handling) : Step pool { pool with worker := .reporting }
  | return_ {pool} (at_ : pool.worker = .reporting) : Step pool { pool with worker := .top }
  | completes {pool index} (gone : Bool) (flying : pool.slots index = .inFlight) :
      Step pool { pool with slots := Function.update pool.slots index (.completed gone) }
  | propagates {pool} (stored : pool.stored = true) : Step pool { pool with visible := true }

/-- Any steps, in any order. -/
abbrev Steps : Pool Index → Pool Index → Prop := Relation.ReflTransGen Step

end Steps

/-! ### The flag -/

/-- A callback is under way that will submit with the cleared flag in view. -/
def Pool.straggling (pool : Pool Index) : Nat :=
  match pool.worker with
  | .submitting _ => if pool.visible then 1 else 0
  | _ => 0

/-- What every step keeps, whatever the stopping thread executes. -/
structure Flagged (pool : Pool Index) : Prop where
  stored : pool.visible = true → pool.stored = true
  exited : pool.worker = .exited → pool.visible = true
  early : pool.visible = false → pool.late = []
  late : pool.late.length + pool.straggling ≤ 1

namespace Flagged

variable {pool next : Pool Index}

theorem straggling_le_one (pool : Pool Index) : pool.straggling ≤ 1 := by
  unfold Pool.straggling
  split
  · split <;> simp
  · exact Nat.zero_le 1

/-- Without the cleared flag in view, nothing was submitted late. -/
theorem unseen_late (flagged : Flagged pool) (unseen : pool.visible = false) :
    pool.late.length = 0 := by
  rw [flagged.early unseen, List.length_nil]

/-- The cleared flag comes into view. -/
theorem seen (flagged : Flagged pool) (stored : next.stored = true)
    (worker : next.worker = pool.worker ∨ next.straggling = 0)
    (exited : next.worker = .exited → next.visible = true) (late : next.late = pool.late)
    (visible : next.visible = pool.visible ∨ next.visible = true) : Flagged next := by
  refine ⟨fun _ => stored, exited, fun unseen => ?_, ?_⟩
  · rcases visible with same | seen
    · rw [late]
      exact flagged.early (same.symm.trans unseen)
    · rw [seen] at unseen
      cases unseen
  · rw [late]
    cases before : pool.visible with
    | false =>
      have small := straggling_le_one next
      rw [flagged.unseen_late before]
      omega
    | true =>
      have view : next.visible = true := visible.elim (·.trans before) id
      have bound := flagged.late
      rcases worker with same | none
      · have straggling : next.straggling = pool.straggling := by
          rw [Pool.straggling, Pool.straggling, same, view, before]
        omega
      · omega

/-- The worker moves on, without a submission. -/
theorem moved (flagged : Flagged pool) (stored : next.stored = pool.stored)
    (visible : next.visible = pool.visible) (late : next.late = pool.late)
    (exited : next.worker = .exited → next.visible = true)
    (straggling : next.straggling = 0) : Flagged next := by
  refine ⟨?_, exited, ?_, ?_⟩
  · rw [visible, stored]
    exact flagged.stored
  · rw [visible, late]
    exact flagged.early
  · have bound := flagged.late
    rw [late, straggling]
    omega

theorem start (program : List (Statement Index)) (slots : Index → Slot) :
    Flagged (Pool.start program slots) := by
  constructor
  · nofun
  · nofun
  · exact fun _ => rfl
  · exact Nat.zero_le 1

/-- **Every step keeps it.** -/
theorem step [DecidableEq Index] (flagged : Flagged pool) (stepped : Step pool next) :
    Flagged next := by
  cases stepped with
  | @store rest fenced next =>
    refine flagged.seen rfl (.inl rfl) (fun exited => ?_) rfl ?_
    · exact (Bool.or_eq_true _ _).mpr (.inl (flagged.exited exited))
    · cases fenced with
      | false => exact .inl (Bool.or_false _)
      | true => exact .inr (Bool.or_true _)
  | join => exact ⟨flagged.stored, flagged.exited, flagged.early, flagged.late⟩
  | cancel => exact ⟨flagged.stored, flagged.exited, flagged.early, flagged.late⟩
  | drainCallback => exact ⟨flagged.stored, flagged.exited, flagged.early, flagged.late⟩
  | drain => exact ⟨flagged.stored, flagged.exited, flagged.early, flagged.late⟩
  | close => exact ⟨flagged.stored, flagged.exited, flagged.early, flagged.late⟩
  | enter => exact flagged.moved rfl rfl rfl nofun rfl
  | exit _ stored => exact flagged.seen stored (.inr rfl) (fun _ => rfl) rfl (.inr rfl)
  | resubmits at_ unseen =>
    refine flagged.moved rfl rfl rfl nofun ?_
    show (if pool.visible = true then 1 else 0) = 0
    rw [unseen]
    rfl
  | stops at_ stored => exact flagged.seen stored (.inl rfl) (fun _ => rfl) rfl (.inr rfl)
  | gone => exact ⟨flagged.stored, flagged.exited, flagged.early, flagged.late⟩
  | @submit index at_ =>
    have bound := flagged.late
    rw [Pool.straggling, at_] at bound
    refine ⟨flagged.stored, nofun, fun unseen => ?_, ?_⟩
    · exact (if_neg (Bool.eq_false_iff.mp unseen)).trans (flagged.early unseen)
    · show (if pool.visible = true then pool.late ++ [index] else pool.late).length + 0 ≤ 1
      cases view : pool.visible with
      | false =>
        rw [if_neg Bool.false_ne_true, flagged.unseen_late view]
        exact Nat.zero_le 1
      | true =>
        simp only [view, if_true] at bound
        rw [if_pos rfl, List.length_append]
        exact bound
  | refused => exact flagged.moved rfl rfl rfl nofun rfl
  | report => exact flagged.moved rfl rfl rfl nofun rfl
  | return_ => exact flagged.moved rfl rfl rfl nofun rfl
  | completes => exact ⟨flagged.stored, flagged.exited, flagged.early, flagged.late⟩
  | propagates stored => exact flagged.seen stored (.inl rfl) (fun _ => rfl) rfl (.inr rfl)

theorem steps [DecidableEq Index] {program : List (Statement Index)} {slots : Index → Slot}
    (ran : Steps (Pool.start program slots) pool) : Flagged pool := by
  induction ran with
  | refl => exact start program slots
  | tail _ stepped ih => exact ih.step stepped

end Flagged

/-! ### The stopping thread -/

section Stopping

variable {program : List (Statement Index)} {pool next : Pool Index}

/-- What was executed. -/
structure Executed (program : List (Statement Index)) (pool : Pool Index) : Prop where
  program : pool.done ++ pool.todo = program
  stored : pool.stored = true ↔ ∃ fenced, .store fenced ∈ pool.done
  fenced : .store true ∈ pool.done → pool.visible = true
  joined : .join true ∈ pool.done → pool.worker = .exited
  alive : pool.alive = false ↔ .close ∈ pool.done

namespace Executed

/-- The stopping thread does nothing. -/
theorem wait (executed : Executed program pool) (done : next.done = pool.done)
    (todo : next.todo = pool.todo) (stored : next.stored = pool.stored)
    (alive : next.alive = pool.alive) (visible : pool.visible = true → next.visible = true)
    (worker : pool.worker = .exited → next.worker = .exited) : Executed program next := by
  constructor
  · rw [done, todo]
    exact executed.program
  · rw [done, stored]
    exact executed.stored
  · rw [done]
    exact visible ∘ executed.fenced
  · rw [done]
    exact worker ∘ executed.joined
  · rw [done, alive]
    exact executed.alive

/-- The worker moves, so it was not joined. -/
theorem work (executed : Executed program pool) (working : pool.worker ≠ .exited)
    (done : next.done = pool.done) (todo : next.todo = pool.todo)
    (stored : next.stored = pool.stored) (alive : next.alive = pool.alive)
    (visible : pool.visible = true → next.visible = true) : Executed program next :=
  executed.wait done todo stored alive visible fun exited => absurd exited working

/-- The stopping thread goes on. -/
theorem advance (executed : Executed program pool) {statement : Statement Index}
    {rest : List (Statement Index)} (todo : pool.todo = statement :: rest)
    {after : Pool Index} (done : after.done = pool.done)
    (stored : after.stored = true ↔ pool.stored = true ∨ ∃ fenced, statement = .store fenced)
    (fenced : pool.visible = true ∨ statement = .store true → after.visible = true)
    (joined : pool.worker = .exited ∨ statement = .join true → after.worker = .exited)
    (alive : after.alive = false ↔ pool.alive = false ∨ statement = .close) :
    Executed program (after.advance statement rest) := by
  have member : ∀ other, other ∈ after.done ++ [statement] ↔
      other ∈ pool.done ∨ statement = other := by
    intro other
    rw [done, List.mem_append, List.mem_singleton, eq_comm]
  constructor
  · show (after.done ++ [statement]) ++ rest = program
    rw [done, ← executed.program, todo, List.append_assoc]
    rfl
  · show after.stored = true ↔ ∃ fenced, .store fenced ∈ after.done ++ [statement]
    rw [stored, executed.stored]
    simp only [member, exists_or]
  · intro stored
    exact fenced (((member _).mp stored).imp executed.fenced id)
  · intro waited
    exact joined (((member _).mp waited).imp executed.joined id)
  · show after.alive = false ↔ .close ∈ after.done ++ [statement]
    rw [alive, member, executed.alive]

theorem start (program : List (Statement Index)) (slots : Index → Slot) :
    Executed program (Pool.start program slots) := by
  constructor
  · rfl
  · exact ⟨nofun, fun ⟨_, member⟩ => absurd member List.not_mem_nil⟩
  · nofun
  · nofun
  · exact ⟨nofun, nofun⟩

/-- **Every step keeps it.** -/
theorem step [DecidableEq Index] (executed : Executed program pool) (stepped : Step pool next) :
    Executed program next := by
  cases stepped with
  | @store rest fenced next =>
    refine executed.advance next rfl (iff_of_true rfl (.inr ⟨fenced, rfl⟩)) ?_ ?_ ?_
    · rintro (seen | same)
      · exact (Bool.or_eq_true _ _).mpr (.inl seen)
      · cases same
        exact Bool.or_true _
    · exact (·.elim id nofun)
    · simp
  | join next gone =>
    refine executed.advance next rfl (by simp) (by simp) ?_ (by simp)
    rintro (exited | same)
    · exact exited
    · cases same
      exact gone rfl
  | cancel next =>
    exact executed.advance next rfl (by simp [Pool.cancel]) (by simp [Pool.cancel])
      (by simp [Pool.cancel]) (by simp [Pool.cancel])
  | drainCallback => exact executed.wait rfl rfl rfl rfl id id
  | drain next => exact executed.advance next rfl (by simp) (by simp) (by simp) (by simp)
  | close next => exact executed.advance next rfl (by simp) (by simp) (by simp) (by simp)
  | enter at_ => exact executed.work (by rw [at_]; nofun) rfl rfl rfl rfl id
  | exit at_ => exact executed.work (by rw [at_]; nofun) rfl rfl rfl rfl fun _ => rfl
  | resubmits at_ => exact executed.work (by rw [at_]; nofun) rfl rfl rfl rfl id
  | stops at_ => exact executed.work (by rw [at_]; nofun) rfl rfl rfl rfl fun _ => rfl
  | gone => exact executed.wait rfl rfl rfl rfl id id
  | submit at_ => exact executed.work (by rw [at_]; nofun) rfl rfl rfl rfl id
  | refused at_ => exact executed.work (by rw [at_]; nofun) rfl rfl rfl rfl id
  | report at_ => exact executed.work (by rw [at_]; nofun) rfl rfl rfl rfl id
  | return_ at_ => exact executed.work (by rw [at_]; nofun) rfl rfl rfl rfl id
  | completes => exact executed.wait rfl rfl rfl rfl id id
  | propagates => exact executed.wait rfl rfl rfl rfl (fun _ => rfl) id

theorem steps [DecidableEq Index] {slots : Index → Slot}
    (ran : Steps (Pool.start program slots) pool) : Executed program pool := by
  induction ran with
  | refl => exact start program slots
  | tail _ stepped ih => exact ih.step stepped

end Executed

/-- What was executed before a cancellation. -/
theorem Executed.before (executed : Executed program pool) {index : Index}
    (cancelled : .cancel index ∈ pool.done) :
    ∃ front back, program = front ++ .cancel index :: back ∧ ∀ statement ∈ front,
      statement ∈ pool.done := by
  obtain ⟨front, back, cut⟩ := List.append_of_mem cancelled
  refine ⟨front, back ++ pool.todo, ?_, fun statement member => ?_⟩
  · rw [← executed.program, cut, List.append_assoc]
    rfl
  · rw [cut]
    exact List.mem_append_left _ member

end Stopping

/-! ### Transfers -/

section Transfers

variable [DecidableEq Index] {program : List (Statement Index)} {pool next : Pool Index}

/-- A transfer that is put elsewhere was not in flight before, if it is now. -/
theorem update_inFlight {slots : Index → Slot} {index other : Index} {slot : Slot}
    (elsewhere : slot ≠ .inFlight)
    (flying : Function.update slots index slot other = .inFlight) : slots other = .inFlight := by
  rw [Function.update_apply] at flying
  split at flying
  · exact absurd flying elsewhere
  · exact flying

/-- A step submits, or leaves no more transfers in flight and every cancellation. -/
theorem Step.submits_or (stepped : Step pool next) :
    (∃ index, pool.worker = .submitting index ∧ next = pool.submit index) ∨
      (∀ index, next.slots index = .inFlight → pool.slots index = .inFlight ∧
        (pool.cancelled index = true → next.cancelled index = true)) ∧ next.late = pool.late := by
  have idle : ∀ {slot : Slot} {index : Index}, slot ≠ .inFlight →
      ∀ other, Function.update pool.slots index slot other = .inFlight →
        pool.slots other = .inFlight ∧
          (pool.cancelled other = true → pool.cancelled other = true) :=
    fun elsewhere other flying => ⟨update_inFlight elsewhere flying, id⟩
  cases stepped with
  | @submit index at_ => exact .inl ⟨index, at_, rfl⟩
  | @cancel rest index next =>
    refine .inr ⟨fun other flying => ⟨flying, fun cancelled => ?_⟩, rfl⟩
    show (if pool.slots index = .inFlight then Function.update pool.cancelled index true
      else pool.cancelled) other = true
    split
    · rw [Function.update_apply]
      split
      · rfl
      · exact cancelled
    · exact cancelled
  | drainCallback => exact .inr ⟨idle nofun, rfl⟩
  | resubmits => exact .inr ⟨idle nofun, rfl⟩
  | stops => exact .inr ⟨idle nofun, rfl⟩
  | gone => exact .inr ⟨idle nofun, rfl⟩
  | completes => exact .inr ⟨idle nofun, rfl⟩
  | store | join | drain | close | enter | exit | refused | report | return_ | propagates =>
    exact .inr ⟨fun other flying => ⟨flying, id⟩, rfl⟩

/-- **A worker that is gone submits nothing.** -/
theorem quiet (exited : pool.worker = .exited) (stepped : Step pool next) (index : Index)
    (flying : next.slots index = .inFlight) : pool.slots index = .inFlight := by
  rcases stepped.submits_or with ⟨other, submitting, -⟩ | ⟨kept, -⟩
  · cases exited.symm.trans submitting
  · exact (kept index flying).1

/-- A transfer that was never submitted. -/
def Untouched (index : Index) (pool : Pool Index) : Prop :=
  pool.slots index = .idle ∧ pool.worker ≠ .submitting index

theorem Untouched.take {index : Index} (untouched : pool.slots index = .idle) (other : Index) :
    (pool.take other).slots index = .idle := by
  show Function.update pool.slots other .idle index = .idle
  rw [Function.update_apply]
  split
  · rfl
  · exact untouched

theorem Untouched.step {index : Index} (untouched : Untouched index pool)
    (stepped : Step pool next) : Untouched index next := by
  obtain ⟨idle, off⟩ := untouched
  cases stepped with
  | drainCallback | stops | gone => exact ⟨Untouched.take idle _, off⟩
  | resubmits at_ unseen completed =>
    refine ⟨Untouched.take idle _, ?_⟩
    rintro ⟨⟩
    cases idle.symm.trans completed
  | @submit other at_ =>
    refine ⟨(Function.update_of_ne ?_ _ _).trans idle, nofun⟩
    rintro rfl
    exact off at_
  | @completes other gone flying =>
    refine ⟨(Function.update_of_ne ?_ _ _).trans idle, off⟩
    rintro rfl
    cases idle.symm.trans flying
  | enter | exit | refused | report | return_ => exact ⟨idle, nofun⟩
  | store | join | cancel | drain | close | propagates => exact ⟨idle, off⟩

/-- **A transfer that was not in flight at the start stays idle.** -/
theorem idle_stays {slots : Index → Slot} (ran : Steps (Pool.start program slots) pool)
    {index : Index} (idle : slots index = .idle) : pool.slots index = .idle := by
  suffices untouched : Untouched index pool from untouched.1
  induction ran with
  | refl => exact ⟨idle, nofun⟩
  | tail _ stepped ih => exact ih.step stepped

/-- A transfer whose cancellation was executed just now is cancelled, if it is in flight. -/
theorem Step.cancels (stepped : Step pool next) {index : Index}
    (executed : .cancel index ∈ next.done) : .cancel index ∈ pool.done ∨
      (next.slots index = .inFlight → next.cancelled index = true) := by
  cases stepped with
  | @cancel rest other next =>
    rcases List.mem_append.mp executed with earlier | here
    · exact .inl earlier
    · cases List.mem_singleton.mp here
      refine .inr fun flying => ?_
      have before : pool.slots index = .inFlight := flying
      show (if pool.slots index = .inFlight then Function.update pool.cancelled index true
        else pool.cancelled) index = true
      rw [if_pos before, Function.update_self]
  | store | join | drain | close =>
    rcases List.mem_append.mp executed with earlier | here
    · exact .inl earlier
    · cases List.mem_singleton.mp here
  | drainCallback | enter | exit | resubmits | stops | gone | submit | refused | report | return_
    | completes | propagates => exact .inl executed

/-- A cancellation comes behind the join. -/
def JoinFirst (program : List (Statement Index)) : Prop :=
  ∀ front index back, program = front ++ .cancel index :: back → .join true ∈ front

/-- A cancellation comes behind the join, or behind a fenced store. -/
def Guarded (program : List (Statement Index)) : Prop :=
  ∀ front index back, program = front ++ .cancel index :: back →
    .store true ∈ front ∨ .join true ∈ front

/-- **What is in flight behind its cancellation** was cancelled; where the worker is not joined
first, it may also have been submitted late. -/
def Accounted (joins : Prop) (pool : Pool Index) : Prop :=
  ∀ index, .cancel index ∈ pool.done → pool.slots index = .inFlight →
    pool.cancelled index = true ∨ ¬ joins ∧ index ∈ pool.late

theorem Accounted.step {joins : Prop} (accounted : Accounted joins pool)
    (executed : Executed program pool) (guarded : Guarded program)
    (first : joins → JoinFirst program) (stepped : Step pool next) : Accounted joins next := by
  intro index cancelled flying
  rcases stepped.cancels cancelled with earlier | here
  swap
  · exact .inl (here flying)
  rcases stepped.submits_or with ⟨other, submitting, rfl⟩ | ⟨kept, late⟩
  · obtain ⟨front, back, cut, before⟩ := executed.before earlier
    -- a worker that submits was not joined, so the fenced store came first
    have unjoined : .join true ∉ front := fun member =>
      absurd (submitting.symm.trans (executed.joined (before _ member))) nofun
    have fenced := (guarded front index back cut).resolve_right unjoined
    have visible := executed.fenced (before _ fenced)
    have lately : (pool.submit other).late = pool.late ++ [other] := if_pos visible
    rw [lately]
    by_cases same : index = other
    · exact .inr ⟨fun joined => unjoined (first joined front index back cut),
        List.mem_append_right _ (List.mem_singleton.mpr same)⟩
    · have before : pool.slots index = .inFlight :=
        (Function.update_of_ne same _ _).symm.trans flying
      refine (accounted index earlier before).imp (fun marked => ?_) fun late =>
        ⟨late.1, List.mem_append_left _ late.2⟩
      exact (Function.update_of_ne same _ _).trans marked
  · obtain ⟨before, marks⟩ := kept index flying
    rw [late]
    exact (accounted index earlier before).imp marks id

theorem Accounted.steps {joins : Prop} (guarded : Guarded program)
    (first : joins → JoinFirst program) {slots : Index → Slot}
    (ran : Steps (Pool.start program slots) pool) : Accounted joins pool := by
  induction ran with
  | refl => exact fun _ absent => absurd absent List.not_mem_nil
  | tail before stepped ih => exact ih.step (Executed.steps before) guarded first stepped

end Transfers

/-! ### The end -/

section Progress

variable [DecidableEq Index] {program : List (Statement Index)} {pool : Pool Index}

/-- A worker exits once the flag is cleared. -/
theorem worker_exits (stored : pool.stored = true) : ∃ next, Steps pool next ∧
    next.worker = .exited ∧ next.todo = pool.todo ∧ next.stored = true := by
  have top : ∀ pool : Pool Index, pool.stored = true → pool.worker = .top →
      ∃ next, Steps pool next ∧ next.worker = .exited ∧ next.todo = pool.todo ∧
        next.stored = true :=
    fun pool stored at_ => ⟨_, .single (.exit at_ stored), rfl, rfl, stored⟩
  have handling : ∀ pool : Pool Index, pool.stored = true → pool.worker = .handling →
      ∃ next, Steps pool next ∧ next.worker = .exited ∧ next.todo = pool.todo ∧
        next.stored = true := by
    intro pool stored at_
    obtain ⟨next, ran, exited⟩ := top { pool with worker := .top } stored rfl
    have reported : Step { pool with worker := .reporting } { pool with worker := .top } :=
      @Step.return_ _ _ { pool with worker := .reporting } rfl
    exact ⟨next, .head (.report at_) (.head reported ran), exited⟩
  cases at_ : pool.worker with
  | top => exact top pool stored at_
  | handling => exact handling pool stored at_
  | submitting index =>
    obtain ⟨next, ran, exited⟩ := handling { pool with worker := .handling } stored rfl
    exact ⟨next, .head (.refused at_) ran, exited⟩
  | reporting =>
    obtain ⟨next, ran, exited⟩ := top { pool with worker := .top } stored rfl
    exact ⟨next, .head (.return_ at_) ran, exited⟩
  | exited => exact ⟨pool, .refl, at_, rfl, stored⟩

/-- With the flag cleared, the next statement can be executed. -/
theorem executes (stored : pool.stored = true) {statement : Statement Index}
    {rest : List (Statement Index)} (todo : pool.todo = statement :: rest) :
    ∃ next, Steps pool next ∧ next.todo = rest ∧ next.stored = true := by
  cases statement with
  | store => exact ⟨_, .single (.store todo), rfl, rfl⟩
  | join =>
    obtain ⟨gone, ran, exited, same, stored⟩ := worker_exits stored
    exact ⟨_, .tail ran (.join (same.trans todo) fun _ => exited), rfl, stored⟩
  | cancel => exact ⟨_, .single (.cancel todo), rfl, stored⟩
  | drain => exact ⟨_, .single (.drain todo), rfl, stored⟩
  | close => exact ⟨_, .single (.close todo), rfl, stored⟩

theorem finishes_stored (stored : pool.stored = true) :
    ∃ last, Steps pool last ∧ last.todo = [] := by
  generalize todo : pool.todo = statements
  induction statements generalizing pool with
  | nil => exact ⟨pool, .refl, todo⟩
  | cons statement rest ih =>
    obtain ⟨next, ran, todo, stored⟩ := executes stored todo
    obtain ⟨last, later, ended⟩ := ih stored todo
    exact ⟨last, ran.trans later, ended⟩

/-- **The stopping thread can always go on to its end**, if it clears the flag first. -/
theorem finishes {fenced : Bool} {rest : List (Statement Index)} {slots : Index → Slot}
    (ran : Steps (Pool.start (.store fenced :: rest) slots) pool) :
    ∃ last, Steps pool last ∧ last.todo = [] := by
  have executed := Executed.steps ran
  have cut := executed.program
  cases done : pool.done with
  | nil =>
    rw [done] at cut
    obtain ⟨last, later, ended⟩ := @finishes_stored _ _ ({ pool with
      stored := true, visible := pool.visible || fenced }.advance (.store fenced) rest) rfl
    exact ⟨last, .head (.store cut) later, ended⟩
  | cons statement others =>
    rw [done] at cut
    obtain ⟨rfl, -⟩ := List.cons_eq_cons.mp cut
    apply finishes_stored
    rw [executed.stored, done]
    exact ⟨fenced, List.mem_cons_self⟩

/-- A stopping thread that does not wait for the worker can overtake it. -/
theorem overtakes {front back : List (Statement Index)} (impatient : .join true ∉ front)
    (todo : pool.todo = front ++ back) :
    ∃ last, Steps pool last ∧ last.todo = back ∧ last.worker = pool.worker := by
  induction front generalizing pool with
  | nil => exact ⟨pool, .refl, todo, rfl⟩
  | cons statement rest ih =>
    rw [List.mem_cons, not_or] at impatient
    have one : ∃ next, Step pool next ∧ next.todo = rest ++ back ∧
        next.worker = pool.worker := by
      cases statement with
      | store => exact ⟨_, .store todo, rfl, rfl⟩
      | join patient =>
        exact ⟨_, .join todo fun waits => absurd (congrArg _ waits.symm) impatient.1, rfl, rfl⟩
      | cancel => exact ⟨_, .cancel todo, rfl, rfl⟩
      | drain => exact ⟨_, .drain todo, rfl, rfl⟩
      | close => exact ⟨_, .close todo, rfl, rfl⟩
    obtain ⟨next, stepped, todo, same⟩ := one
    obtain ⟨last, later, ended, worker⟩ := ih impatient.2 todo
    exact ⟨last, .head stepped later, ended, worker.trans same⟩

/-- **Then its last callback submits on its own.** -/
theorem straggles {front back : List (Statement Index)} (impatient : .join true ∉ front)
    {slots : Index → Slot} {index : Index} (flying : slots index = .inFlight) :
    ∃ last, Steps (Pool.start (front ++ back) slots) last ∧ last.todo = back ∧
      last.slots index = .inFlight ∧ last.cancelled index = false := by
  let handling : Pool Index := { Pool.start (front ++ back) slots with worker := .handling }
  let completed : Pool Index :=
    { handling with slots := Function.update slots index (.completed false) }
  let checked : Pool Index := { completed.take index with worker := .submitting index }
  have entered : Step (Pool.start (front ++ back) slots) handling := .enter rfl rfl
  have completes : Step handling completed := .completes false flying
  have checks : Step completed checked := .resubmits rfl rfl (Function.update_self ..)
  obtain ⟨last, ran, ended, worker⟩ := @overtakes _ _ checked _ back impatient rfl
  have submitted : Step last (last.submit index) := .submit worker
  have whole := Relation.ReflTransGen.head entered (.head completes (.head checks ran))
  exact ⟨_, whole.tail submitted, ended, Function.update_self .., Function.update_self ..⟩

end Progress

end Wolverine.Quiesce
