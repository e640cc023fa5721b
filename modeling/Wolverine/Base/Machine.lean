/-
**Runs of a machine whose steps may fault.**

A step is a program that may fault: `ok_of_bind` peels one call off a program that returned,
`bind_of_ok` and `run_bind` run one.

A machine is a step function `State → Event → Except Fault State`; a run feeds it a list of events
and stops at the first fault. `run_invariant` is the one induction over runs: an invariant that
every step allowed by a side condition keeps holds at the end of every run whose steps all meet
that condition (`Meets`).

Two machines that answer every event by related states, or both by faults, end alike
(`run_corresponds`).

A machine with outputs has a step function `State → Event → State × Output`. `produce_simulates` is
the simulation rule: two machines that answer every event alike from related states, and stay
related, answer every list of events alike. `produce_sum` is the ledger rule: what every step adds
to a measure is what its output weighs. Where they stay related only under a condition (`Along`),
`along_iff` says that they part at the first event that does not meet it.

A program over a state may mirror a program over a view of it (`Mirrors`): they return alike, or
fail alike, and the view of the one state is the other. The rules follow the text of a program.

A program may keep its state when it fails, and clean it up (`onFailure`): `proceed` and `abort` run
one step of it.
-/

import Mathlib.Tactic

namespace Wolverine.Machine

variable {State Event Fault : Type}

/-! ### Steps of a program -/

section Steps

variable {Result Other : Type}

theorem bind_of_ok {act : Except Fault Result} {result : Result} (returned : act = .ok result)
    (rest : Result → Except Fault Other) : (act >>= rest) = rest result := by
  rw [returned]
  rfl

/-- A program that returned got past its first step. -/
theorem ok_of_bind {act : Except Fault Result} {rest : Result → Except Fault Other} {last : Other}
    (returned : (act >>= rest) = .ok last) :
    ∃ result, act = .ok result ∧ rest result = .ok last := by
  cases act with
  | error fault => cases returned
  | ok result => exact ⟨result, rfl, returned⟩

/-- A program that faulted returns nothing. -/
theorem error_not_ok {fault : Fault} :
    ¬ ∃ result, (.error fault : Except Fault Result) = .ok result := by
  rintro ⟨_, returned⟩
  cases returned

theorem run_bind {act : StateT State (Except Fault) Result}
    {rest : Result → StateT State (Except Fault) Other} {state next : State} {result : Result}
    (ran : act state = .ok (result, next)) : (act >>= rest) state = rest result next := by
  simp only [Bind.bind, StateT.bind, Except.bind, ran]

/-- A step that does not touch the state. -/
theorem run_lift {act : Except Fault Result} {rest : Result → StateT State (Except Fault) Other}
    {result : Result} (returned : act = .ok result) (state : State) :
    ((liftM act : StateT State (Except Fault) Result) >>= rest) state = rest result state := by
  rw [returned]
  rfl

end Steps

/-! ### Runs -/

/-- The run of a machine over a list of events: the first fault ends it. -/
def run (step : State → Event → Except Fault State) : State → List Event → Except Fault State
  | state, [] => .ok state
  | state, event :: rest =>
    match step state event with
    | .ok next => run step next rest
    | .error fault => .error fault

/-- Every step of the run meets a condition on its event and on the state before it. -/
def Meets (condition : State → Event → Prop) (step : State → Event → Except Fault State) :
    State → List Event → Prop
  | _, [] => True
  | state, event :: rest =>
    condition state event ∧ ∀ next, step state event = .ok next → Meets condition step next rest

section Rules

variable {step : State → Event → Except Fault State}

theorem run_cons {state next : State} {event : Event} (stepped : step state event = .ok next)
    (rest : List Event) : run step state (event :: rest) = run step next rest := by
  rw [run, stepped]

theorem run_cons_ok {state last : State} {event : Event} {rest : List Event}
    (ran : run step state (event :: rest) = .ok last) :
    ∃ next, step state event = .ok next ∧ run step next rest = .ok last := by
  rw [run] at ran
  cases stepped : step state event with
  | ok next => exact ⟨next, rfl, by rw [stepped] at ran; exact ran⟩
  | error fault => rw [stepped] at ran; cases ran

theorem run_append {state middle : State} {events : List Event}
    (ran : run step state events = .ok middle) (more : List Event) :
    run step state (events ++ more) = run step middle more := by
  induction events generalizing state with
  | nil =>
    cases ran
    rfl
  | cons event rest ih =>
    obtain ⟨next, stepped, ranRest⟩ := run_cons_ok ran
    rw [List.cons_append, run_cons stepped, ih ranRest]

/-- **The run rule.** An invariant kept by every step that meets the condition holds at the end
of every run whose steps all meet it. -/
theorem run_invariant {Inv : State → Prop} {condition : State → Event → Prop}
    (kept : ∀ state event next, Inv state → condition state event →
      step state event = .ok next → Inv next) :
    ∀ (events : List Event) (state last : State), Inv state → Meets condition step state events →
      run step state events = .ok last → Inv last := by
  intro events
  induction events with
  | nil =>
    intro state last start _ ran
    cases ran
    exact start
  | cons event rest ih =>
    intro state last start meets ran
    obtain ⟨next, stepped, ranRest⟩ := run_cons_ok ran
    exact ih next last (kept state event next start meets.1 stepped) (meets.2 next stepped) ranRest

/-- **The run rule for machines that cannot fault.** Where every event of a kind is answered, and
keeps an invariant on the events so far and the state, a run over events of that kind ends, with the
invariant. -/
theorem run_total {Inv : List Event → State → Prop} {condition : Event → Prop}
    (total : ∀ done state event, Inv done state → condition event →
      ∃ next, step state event = .ok next ∧ Inv (done ++ [event]) next) :
    ∀ (events done : List Event) (state : State), Inv done state →
      (∀ event ∈ events, condition event) →
      ∃ last, run step state events = .ok last ∧ Inv (done ++ events) last := by
  intro events
  induction events with
  | nil => exact fun done state start _ => ⟨state, rfl, (List.append_nil done).symm ▸ start⟩
  | cons event rest ih =>
    intro done state start all
    obtain ⟨next, stepped, kept⟩ := total done state event start (all event List.mem_cons_self)
    rw [run_cons stepped, List.append_cons]
    exact ih _ next kept fun other member => all other (List.mem_cons_of_mem _ member)

/-- **The run rule for faults.** A run that ends in a fault reached a state with the invariant, and
faulted in a step from there. -/
theorem run_fault {Inv : State → Prop} {condition : State → Event → Prop}
    (kept : ∀ state event next, Inv state → condition state event →
      step state event = .ok next → Inv next) :
    ∀ (events : List Event) (state : State) (fault : Fault), Inv state →
      Meets condition step state events → run step state events = .error fault →
      ∃ last event, Inv last ∧ condition last event ∧ step last event = .error fault := by
  intro events
  induction events with
  | nil => nofun
  | cons event rest ih =>
    intro state fault start meets ran
    rw [run] at ran
    cases stepped : step state event with
    | ok next =>
      rw [stepped] at ran
      exact ih next fault (kept state event next start meets.1 stepped) (meets.2 next stepped) ran
    | error other =>
      rw [stepped] at ran
      cases ran
      exact ⟨state, event, start, meets.1, stepped⟩

/-- **The run rule for faults to avoid.** Where the condition says exactly which steps avoid a kind
of fault, a run avoids it exactly when all of its steps meet the condition. -/
theorem run_avoids_iff {Inv : State → Prop} {condition : State → Event → Prop}
    {Bad : Fault → Prop}
    (kept : ∀ state event next, Inv state → step state event = .ok next → Inv next)
    (exact_ : ∀ state event, Inv state →
      (condition state event ↔ ∀ fault, step state event = .error fault → ¬ Bad fault)) :
    ∀ (events : List Event) (state : State), Inv state →
      ((∀ fault, run step state events = .error fault → ¬ Bad fault) ↔
        Meets condition step state events) := by
  intro events
  induction events with
  | nil => exact fun state _ => iff_of_true (fun fault ran => by cases ran) trivial
  | cons event rest ih =>
    intro state start
    rw [Meets, exact_ state event start]
    cases stepped : step state event with
    | ok next =>
      rw [run_cons stepped, ih next (kept state event next start stepped)]
      refine ⟨fun meets => ⟨fun fault raised => ?_, fun other same => ?_⟩,
        fun both => both.2 next rfl⟩
      · cases raised
      · cases same
        exact meets
    | error fault =>
      have ran : run step state (event :: rest) = .error fault := by rw [run, stepped]
      rw [ran]
      exact ⟨fun avoids => ⟨avoids, fun next stepped => by cases stepped⟩, fun both => both.1⟩

/-- A condition on the events alone is met when every event meets it. -/
theorem meets_of_forall {condition : Event → Prop} {events : List Event}
    (all : ∀ event ∈ events, condition event) (state : State) :
    Meets (fun _ event => condition event) step state events := by
  induction events generalizing state with
  | nil => trivial
  | cons event rest ih =>
    exact ⟨all event List.mem_cons_self,
      fun next _ => ih (fun other member => all other (List.mem_cons_of_mem _ member)) next⟩

/-- Renaming the events. -/
theorem run_map {Given : Type} (rename : Given → Event) (events : List Given) (state : State) :
    run step state (events.map rename) =
      run (fun state event => step state (rename event)) state events := by
  induction events generalizing state with
  | nil => rfl
  | cons event rest ih =>
    rw [List.map_cons, run, run]
    cases step state (rename event) with
    | ok next => exact ih next
    | error fault => rfl

end Rules

/-! ### Two machines that fault together -/

section Together

variable {Other OtherFault : Type}

/-- Both results are states that are related, or both are faults that are. -/
inductive Corresponds (Related : State → Other → Prop) (Alike : Fault → OtherFault → Prop) :
    Except Fault State → Except OtherFault Other → Prop
  | ok {state : State} {other : Other} (related : Related state other) :
      Corresponds Related Alike (.ok state) (.ok other)
  | error {fault : Fault} {otherFault : OtherFault} (alike : Alike fault otherFault) :
      Corresponds Related Alike (.error fault) (.error otherFault)

/-- **The simulation rule for machines that fault.** Where related states answer every event of a
kind by related states or by faults that are alike, so do runs over events of that kind. -/
theorem run_corresponds {Related : State → Other → Prop} {Alike : Fault → OtherFault → Prop}
    {condition : Event → Prop} {step : State → Event → Except Fault State}
    {otherStep : Other → Event → Except OtherFault Other}
    (simulates : ∀ state other event, Related state other → condition event →
      Corresponds Related Alike (step state event) (otherStep other event)) :
    ∀ (events : List Event) (state : State) (other : Other), Related state other →
      (∀ event ∈ events, condition event) →
      Corresponds Related Alike (run step state events) (run otherStep other events) := by
  intro events
  induction events with
  | nil => exact fun state other related _ => .ok related
  | cons event rest ih =>
    intro state other related all
    have first := simulates state other event related (all event List.mem_cons_self)
    rw [run, run]
    generalize step state event = stepped at first ⊢
    generalize otherStep other event = otherStepped at first ⊢
    cases first with
    | ok next => exact ih _ _ next fun later member => all later (List.mem_cons_of_mem _ member)
    | error alike => exact .error alike

end Together

/-! ### Machines with outputs -/

section Outputs

variable {Abstract Output : Type}

/-- The run of a machine with outputs: its last state, and one output for each event. -/
def produce (step : State → Event → State × Output) : State → List Event → State × List Output
  | state, [] => (state, [])
  | state, event :: rest =>
    let (next, output) := step state event
    let (last, outputs) := produce step next rest
    (last, output :: outputs)

theorem length_produce (step : State → Event → State × Output) (events : List Event) :
    ∀ state : State, (produce step state events).2.length = events.length := by
  induction events with
  | nil => exact fun _ => rfl
  | cons event rest ih => exact fun state => congrArg Nat.succ (ih (step state event).1)

/-- **The simulation rule.** -/
theorem produce_simulates {Related : State → Abstract → Prop}
    {step : State → Event → State × Output} {spec : Abstract → Event → Abstract × Output}
    (simulates : ∀ state abstract event, Related state abstract →
      Related (step state event).1 (spec abstract event).1 ∧
        (step state event).2 = (spec abstract event).2) :
    ∀ (events : List Event) (state : State) (abstract : Abstract), Related state abstract →
      Related (produce step state events).1 (produce spec abstract events).1 ∧
        (produce step state events).2 = (produce spec abstract events).2 := by
  intro events
  induction events with
  | nil => exact fun state abstract related => ⟨related, rfl⟩
  | cons event rest ih =>
    intro state abstract related
    obtain ⟨next, answer⟩ := simulates state abstract event related
    obtain ⟨last, answers⟩ := ih _ _ next
    exact ⟨last, congrArg₂ List.cons answer answers⟩

/-- **The ledger rule.** Where every step adds to a measure what its output weighs, a run adds what
its outputs weigh. -/
theorem produce_sum {Amount : Type} [AddMonoid Amount] {Inv : State → Prop}
    {measure : State → Amount} {weight : Output → Amount} {step : State → Event → State × Output}
    (kept : ∀ state event, Inv state → Inv (step state event).1)
    (added : ∀ state event, Inv state →
      measure (step state event).1 = measure state + weight (step state event).2) :
    ∀ (events : List Event) (state : State), Inv state →
      measure (produce step state events).1 =
        measure state + ((produce step state events).2.map weight).sum := by
  intro events
  induction events with
  | nil => exact fun state _ => (add_zero (measure state)).symm
  | cons event rest ih =>
    intro state start
    calc measure (produce step state (event :: rest)).1
        = measure (step state event).1 +
            ((produce step (step state event).1 rest).2.map weight).sum :=
          ih _ (kept state event start)
      _ = measure state + ((produce step state (event :: rest)).2.map weight).sum := by
          rw [added state event start, add_assoc]
          rfl

/-- Every event meets the condition in the state that it comes to. -/
def Along (condition : State → Event → Prop) (step : State → Event → State × Output) :
    State → List Event → Prop
  | _, [] => True
  | state, event :: rest => condition state event ∧ Along condition step (step state event).1 rest

section Along

variable {Answer : Type} {Related : State → Abstract → Prop} {proper : Event → Prop}
  {condition : Abstract → Event → Prop} {step : State → Event → State × Output}
  {spec : Abstract → Event → Abstract × Answer} {render : Answer → Output}

/-- The simulation rule for machines that stay related under a condition. -/
theorem produce_simulates_along
    (simulates : ∀ state abstract event, Related state abstract → proper event →
      condition abstract event → Related (step state event).1 (spec abstract event).1 ∧
        (step state event).2 = render (spec abstract event).2) :
    ∀ (events : List Event) (state : State) (abstract : Abstract), Related state abstract →
      (∀ event ∈ events, proper event) → Along condition spec abstract events →
      Related (produce step state events).1 (produce spec abstract events).1 ∧
        (produce step state events).2 = (produce spec abstract events).2.map render := by
  intro events
  induction events with
  | nil => exact fun state abstract related _ _ => ⟨related, rfl⟩
  | cons event rest ih =>
    intro state abstract related all along
    obtain ⟨next, answer⟩ :=
      simulates state abstract event related (all event List.mem_cons_self) along.1
    obtain ⟨last, answers⟩ :=
      ih _ _ next (fun other member => all other (List.mem_cons_of_mem _ member)) along.2
    exact ⟨last, congrArg₂ List.cons answer answers⟩

/-- **The rule for machines that part.** Where related states have a property, and an event after
which it holds met the condition, the property holds after every number of events exactly when every
event meets the condition. -/
theorem along_iff {Same : State → Prop}
    (same : ∀ state abstract, Related state abstract → Same state)
    (simulates : ∀ state abstract event, Related state abstract → proper event →
      condition abstract event → Related (step state event).1 (spec abstract event).1)
    (parts : ∀ state abstract event, Related state abstract → proper event →
      Same (step state event).1 → condition abstract event) :
    ∀ (events : List Event) (state : State) (abstract : Abstract), Related state abstract →
      (∀ event ∈ events, proper event) →
      ((∀ n, Same (produce step state (events.take n)).1) ↔
        Along condition spec abstract events) := by
  intro events
  induction events with
  | nil =>
    intro state abstract related _
    refine iff_of_true (fun n => ?_) trivial
    rw [List.take_nil]
    exact same state abstract related
  | cons event rest ih =>
    intro state abstract related all
    have here : proper event := all event List.mem_cons_self
    have later : ∀ other ∈ rest, proper other :=
      fun other member => all other (List.mem_cons_of_mem _ member)
    constructor
    · intro always
      have met : condition abstract event := parts state abstract event related here (always 1)
      have next := simulates state abstract event related here met
      exact ⟨met, (ih _ _ next later).mp fun n => always (n + 1)⟩
    · rintro ⟨met, along⟩ n
      cases n with
      | zero => exact same state abstract related
      | succ n =>
        have next := simulates state abstract event related here met
        exact (ih _ _ next later).mpr along n

end Along

end Outputs

/-! ### Programs over a state and over a view of it -/

section Programs

variable {Abstract Result Other : Type} {view : State → Abstract}

/-- The first program returns what the second returns from the view of the state, and leaves a
state with the view that the second leaves. -/
def Mirrors (view : State → Abstract) (act : StateT State (Except Fault) Result)
    (spec : StateT Abstract (Except Fault) Result) : Prop :=
  ∀ state, (act state).map (Prod.map id view) = spec (view state)

theorem mirrors_pure (result : Result) :
    Mirrors view (pure result : StateT State (Except Fault) Result) (pure result) :=
  fun _ => rfl

/-- A computation that does not touch the state. -/
theorem mirrors_lift (act : Except Fault Result) :
    Mirrors view (liftM act : StateT State (Except Fault) Result) (liftM act) := by
  intro state
  cases act <;> rfl

theorem Mirrors.bind {act : StateT State (Except Fault) Result}
    {spec : StateT Abstract (Except Fault) Result}
    {rest : Result → StateT State (Except Fault) Other}
    {specRest : Result → StateT Abstract (Except Fault) Other} (first : Mirrors view act spec)
    (second : ∀ result, Mirrors view (rest result) (specRest result)) :
    Mirrors view (act >>= rest) (spec >>= specRest) := by
  intro state
  have acted := first state
  simp only [Bind.bind, StateT.bind, Except.bind]
  cases returned : act state with
  | error fault =>
    rw [returned] at acted
    rw [← acted]
    rfl
  | ok pair =>
    rw [returned] at acted
    rw [← acted]
    exact second pair.1 pair.2

theorem mirrors_ite {condition : Prop} [Decidable condition]
    {act other : StateT State (Except Fault) Result}
    {spec specOther : StateT Abstract (Except Fault) Result} (yes : Mirrors view act spec)
    (no : Mirrors view other specOther) :
    Mirrors view (if condition then act else other) (if condition then spec else specOther) := by
  split
  · exact yes
  · exact no

end Programs

/-! ### Programs that keep their state when they fail -/

section Failures

variable {Result Other : Type} {act : EStateM Fault State Result} {state next : State}
  {result : Result} {fault : Fault}

/-- Fail unless the condition holds. -/
def ensure (condition : Bool) (fault : Fault) : EStateM Fault State Unit :=
  if condition then pure () else throw fault

/-- Clean up where the program fails. -/
def onFailure (cleanup : State → State) (act : EStateM Fault State Result) :
    EStateM Fault State Result := fun state =>
  match act state with
  | .ok result next => .ok result next
  | .error fault next => .error fault (cleanup next)

theorem proceed (returned : act state = .ok result next)
    (rest : Result → EStateM Fault State Other) : (act >>= rest) state = rest result next := by
  simp only [Bind.bind, EStateM.bind, returned]

theorem abort (failed : act state = .error fault next)
    (rest : Result → EStateM Fault State Other) : (act >>= rest) state = .error fault next := by
  simp only [Bind.bind, EStateM.bind, failed]

theorem proceed_get (rest : State → EStateM Fault State Other) (state : State) :
    (get >>= rest) state = rest state state :=
  rfl

theorem proceed_modify (change : State → State) (rest : Unit → EStateM Fault State Other)
    (state : State) : (modify change >>= rest) state = rest () (change state) :=
  rfl

theorem ensure_holds {condition : Bool} (holds : condition = true) (fault : Fault)
    (state : State) : ensure condition fault state = .ok () state := by
  rw [holds]
  rfl

theorem ensure_fails {condition : Bool} (fails : condition = false) (fault : Fault)
    (state : State) : ensure condition fault state = .error fault state := by
  rw [fails]
  rfl

theorem onFailure_ok (cleanup : State → State) (returned : act state = .ok result next) :
    onFailure cleanup act state = .ok result next := by
  rw [onFailure, returned]

theorem onFailure_error (cleanup : State → State) (failed : act state = .error fault next) :
    onFailure cleanup act state = .error fault (cleanup next) := by
  rw [onFailure, failed]

end Failures

end Wolverine.Machine
