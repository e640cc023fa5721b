/-
**Programs that call an environment.**

A program asks for calls and goes on with their answers; between two calls it may raise a fault.
`Program.run` interprets the calls by a handler over a state, which may fault too.

* `Follows` — the program has made the calls of a trace, was given its answers, and a program is
  left. `Reaches`: what is left asks for a call. What holds on every trace holds for every handler
  (`run_ok_iff`).
* `Reaches.call`, `Reaches.ofExcept`, `not_reaches_done` — a trace that reaches a call is taken
  apart along the text of the program.
* `run_bind` — a run of a composition is the composition of the runs.
-/

import Wolverine.Base.Machine

namespace Wolverine

open Machine (ok_of_bind)

inductive Program (Call : Type) (Answer : Call → Type) (Fault Result : Type) : Type
  | done (result : Result)
  | raise (fault : Fault)
  | call (asked : Call) (next : Answer asked → Program Call Answer Fault Result)

namespace Program

variable {Call : Type} {Answer : Call → Type} {Fault Result Other State : Type}

/-! ### Composition -/

protected def bind (program : Program Call Answer Fault Result)
    (rest : Result → Program Call Answer Fault Other) : Program Call Answer Fault Other :=
  match program with
  | done result => rest result
  | raise fault => raise fault
  | call asked next => call asked fun answer => (next answer).bind rest

instance : Monad (Program Call Answer Fault) where
  pure := done
  bind := Program.bind

/-- The program of one call. -/
def request (asked : Call) : Program Call Answer Fault (Answer asked) := call asked done

/-- A computation that may fault, without a call. -/
def ofExcept : Except Fault Result → Program Call Answer Fault Result
  | .ok result => done result
  | .error fault => raise fault

/-! ### Traces -/

/-- A call and its answer. -/
abbrev Event (Answer : Call → Type) : Type := Σ asked, Answer asked

/-- The program has made these calls with these answers, and the second program is left. -/
inductive Follows : Program Call Answer Fault Result → List (Event Answer) →
    Program Call Answer Fault Result → Prop
  | nil (program : Program Call Answer Fault Result) : Follows program [] program
  | cons {asked : Call} {next : Answer asked → Program Call Answer Fault Result}
      (answer : Answer asked) {trace : List (Event Answer)}
      {rest : Program Call Answer Fault Result} (follows : Follows (next answer) trace rest) :
      Follows (call asked next) (⟨asked, answer⟩ :: trace) rest

/-- After the trace, the program asks for a call. -/
def Reaches (program : Program Call Answer Fault Result) (trace : List (Event Answer))
    (asked : Call) : Prop :=
  ∃ next, Follows program trace (call asked next)

/-- A program has reached every call of a trace that it follows. -/
theorem Follows.reaches {program rest : Program Call Answer Fault Result}
    {before after : List (Event Answer)} {asked : Call} {answer : Answer asked}
    (follows : Follows program (before ++ ⟨asked, answer⟩ :: after) rest) :
    Reaches program before asked := by
  induction before generalizing program with
  | nil =>
    cases follows
    exact ⟨_, .nil _⟩
  | cons event before ih =>
    cases follows with
    | cons answer follows =>
      obtain ⟨next, followed⟩ := ih follows
      exact ⟨next, .cons _ followed⟩

section Inversion

variable {asked : Call} {trace : List (Event Answer)}

theorem not_reaches_done {result : Result} :
    ¬ Reaches (done result : Program Call Answer Fault Result) trace asked := by
  rintro ⟨_, follows⟩
  cases follows

/-- A call that is reached is the next one, or lies behind it. -/
theorem Reaches.call {first : Call} {next : Answer first → Program Call Answer Fault Result}
    (reaches : Reaches (.call first next) trace asked) :
    (trace = [] ∧ asked = first) ∨
      ∃ answer rest, trace = ⟨first, answer⟩ :: rest ∧ Reaches (next answer) rest asked := by
  obtain ⟨after, follows⟩ := reaches
  cases follows with
  | nil => exact .inl ⟨rfl, rfl⟩
  | cons answer follows => exact .inr ⟨_, _, rfl, after, follows⟩

/-- Behind a call that is another one. -/
theorem Reaches.behind {first : Call} {rest : Answer first → Program Call Answer Fault Result}
    (reaches : Reaches (request first >>= rest) trace asked) (other : asked ≠ first) :
    ∃ answer later, trace = ⟨first, answer⟩ :: later ∧ Reaches (rest answer) later asked := by
  have reachesCall : Reaches (.call first rest) trace asked := reaches
  rcases reachesCall.call with ⟨_, same⟩ | behind
  · exact absurd same other
  · exact behind

/-- A computation on the way returned. -/
theorem Reaches.ofExcept {act : Except Fault Result}
    {rest : Result → Program Call Answer Fault Other}
    (reaches : Reaches (ofExcept act >>= rest) trace asked) :
    ∃ result, act = .ok result ∧ Reaches (rest result) trace asked := by
  cases act with
  | ok result => exact ⟨result, rfl, reaches⟩
  | error fault =>
    obtain ⟨_, follows⟩ := reaches
    cases follows

end Inversion

/-! ### Runs -/

section Runs

variable (handler : ∀ asked, StateT State (Except Fault) (Answer asked))

/-- The run of a program whose calls the handler answers. -/
def run : Program Call Answer Fault Result → StateT State (Except Fault) Result
  | done result => pure result
  | raise fault => fun _ => .error fault
  | call asked next => handler asked >>= fun answer => run (next answer)

theorem run_request (asked : Call) : run handler (request asked) = handler asked :=
  bind_pure (handler asked)

theorem run_ofExcept (act : Except Fault Result) :
    run handler (ofExcept act) = (liftM act : StateT State (Except Fault) Result) := by
  cases act <;> rfl

theorem run_bind (program : Program Call Answer Fault Result)
    (rest : Result → Program Call Answer Fault Other) :
    run handler (program >>= rest) =
      run handler program >>= fun result => run handler (rest result) := by
  induction program with
  | done result => exact (pure_bind result fun result => run handler (rest result)).symm
  | raise fault => rfl
  | call asked next ih =>
    calc run handler (call asked next >>= rest)
        = handler asked >>= fun answer => run handler (next answer >>= rest) := rfl
      _ = handler asked >>= fun answer =>
            run handler (next answer) >>= fun result => run handler (rest result) := by
          rw [funext ih]
      _ = run handler (call asked next) >>= fun result => run handler (rest result) :=
          (bind_assoc (handler asked) _ _).symm

/-- The handler gives these answers to these calls, one after the other. -/
def Answers : State → List (Event Answer) → State → Prop
  | state, [], last => state = last
  | state, ⟨asked, answer⟩ :: rest, last =>
    ∃ middle, handler asked state = .ok (answer, middle) ∧ Answers middle rest last

variable {handler}

/-- **A run returns where the program follows the answers of the handler to its end.** -/
theorem run_ok_iff {program : Program Call Answer Fault Result} {state last : State}
    {result : Result} :
    run handler program state = .ok (result, last) ↔
      ∃ trace, Follows program trace (done result) ∧ Answers handler state trace last := by
  induction program generalizing state with
  | done other =>
    refine ⟨fun ran => ?_, ?_⟩
    · cases ran
      exact ⟨[], .nil _, rfl⟩
    · rintro ⟨trace, follows, answers⟩
      cases follows
      cases answers
      rfl
  | raise fault =>
    refine ⟨nofun, ?_⟩
    rintro ⟨trace, follows, _⟩
    cases follows
  | call asked next ih =>
    refine ⟨fun ran => ?_, ?_⟩
    · obtain ⟨⟨answer, middle⟩, answered, ranRest⟩ := ok_of_bind ran
      obtain ⟨trace, follows, answers⟩ := (ih answer).mp ranRest
      exact ⟨_, .cons answer follows, middle, answered, answers⟩
    · rintro ⟨trace, follows, answers⟩
      cases follows with
      | cons answer follows =>
        obtain ⟨middle, answered, answers⟩ := answers
        exact (Machine.run_bind answered).trans ((ih answer).mpr ⟨_, follows, answers⟩)

/-! ### Runs that return -/

variable (handler) in
/-- The run of the program returns. -/
def Returns (program : Program Call Answer Fault Result) (state : State) : Prop :=
  ∃ result last, run handler program state = .ok (result, last)

theorem returns_done (result : Result) (state : State) :
    Returns handler (done result : Program Call Answer Fault Result) state :=
  ⟨result, state, rfl⟩

/-- A call that is answered. -/
theorem returns_request {asked : Call} {rest : Answer asked → Program Call Answer Fault Result}
    {state middle : State} {answer : Answer asked}
    (answered : handler asked state = .ok (answer, middle)) :
    Returns handler (request asked >>= rest) state ↔ Returns handler (rest answer) middle := by
  have ran : run handler (request asked >>= rest) state = run handler (rest answer) middle :=
    Machine.run_bind answered
  rw [Returns, ran, Returns]

/-- A call that faults. -/
theorem not_returns_request {asked : Call} {rest : Answer asked → Program Call Answer Fault Result}
    {state : State} {fault : Fault} (faulted : handler asked state = .error fault) :
    ¬ Returns handler (request asked >>= rest) state := by
  rintro ⟨result, last, ran⟩
  obtain ⟨_, answered, _⟩ := ok_of_bind (show handler asked state >>= _ = _ from ran)
  cases faulted.symm.trans answered

/-- A computation on the way. -/
theorem returns_ofExcept {act : Except Fault Result}
    {rest : Result → Program Call Answer Fault Other} {state : State} :
    Returns handler (ofExcept act >>= rest) state ↔
      ∃ result, act = .ok result ∧ Returns handler (rest result) state := by
  cases act with
  | ok result =>
    refine ⟨fun returns => ⟨result, rfl, returns⟩, ?_⟩
    rintro ⟨_, same, returns⟩
    cases same
    exact returns
  | error fault =>
    refine iff_of_false ?_ ?_
    · rintro ⟨_, _, ran⟩
      cases ran
    · rintro ⟨_, same, _⟩
      cases same

/-- One that returns. -/
theorem returns_built {act : Except Fault Result} {rest : Result → Program Call Answer Fault Other}
    {state : State} {result : Result} (built : act = .ok result) :
    Returns handler (ofExcept act >>= rest) state ↔ Returns handler (rest result) state := by
  rw [built]
  rfl

end Runs

end Program

end Wolverine
