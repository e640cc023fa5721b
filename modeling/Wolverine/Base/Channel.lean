/-
**Two parties over lossless channels in order.**

One party sends messages; the other reads them one at a time and answers each with a list of
replies, or has stopped reading (`React`). Between any two actions of the sender the reader takes
any number of steps.

* `settled_step` — what the channel settles to does not depend on how far the reader has come.
* `settled_send`, `settled_await` — sending and waiting act on what the channel settles to, so
  every interleaving has the outcome of the one in which the reader is never behind.
* `await_false` — a wait ends without its reply only if that reply never comes.
-/

import Mathlib.Tactic

namespace Wolverine.Fifo

variable {Party Message Reply : Type}

/-- A reader: `none` where it no longer reads. -/
abbrev React (Party Message Reply : Type) := Party → Option (Message → Party × List Reply)

/-- The messages and the replies in flight, and the reader. -/
structure Channel (Party Message Reply : Type) where
  inbox : List Message
  outbox : List Reply
  party : Party

/-- What becomes of the reader, and what it replies, once it has read all it reads. -/
def digest (react : React Party Message Reply) : Party → List Message → Party × List Reply
  | party, [] => (party, [])
  | party, message :: rest =>
    match react party with
    | none => (party, [])
    | some read =>
      let (next, replies) := read message
      let (last, later) := digest react next rest
      (last, replies ++ later)

/-- Read up to the first wanted reply. -/
def seek (wanted : Reply → Bool) : List Reply → Bool × List Reply
  | [] => (false, [])
  | reply :: rest => if wanted reply then (true, rest) else seek wanted rest

namespace Channel

def send (messages : List Message) (ch : Channel Party Message Reply) :
    Channel Party Message Reply :=
  { ch with inbox := ch.inbox ++ messages }

/-- The reader reads one message, if there is one and it still reads. -/
def step (react : React Party Message Reply) (ch : Channel Party Message Reply) :
    Channel Party Message Reply :=
  match ch.inbox, react ch.party with
  | message :: rest, some read =>
    { inbox := rest, outbox := ch.outbox ++ (read message).2, party := (read message).1 }
  | _, _ => ch

/-- Wait for a wanted reply while the reader takes at most `steps` steps. -/
def await (react : React Party Message Reply) (wanted : Reply → Bool) :
    Nat → Channel Party Message Reply → Bool × Channel Party Message Reply
  | steps, ch =>
    let (found, rest) := seek wanted ch.outbox
    let ch := { ch with outbox := rest }
    if found then (true, ch)
    else
      match steps with
      | 0 => (false, ch)
      | steps + 1 => await react wanted steps (ch.step react)

/-- The reader, and the replies that the sender has not read, once every message is read. -/
def settled (react : React Party Message Reply) (ch : Channel Party Message Reply) :
    Party × List Reply :=
  let (last, later) := digest react ch.party ch.inbox
  (last, ch.outbox ++ later)

end Channel

section Rules

variable {react : React Party Message Reply} {wanted : Reply → Bool}

theorem digest_stopped {party : Party} (stopped : react party = none) (messages : List Message) :
    digest react party messages = (party, []) := by
  cases messages with
  | nil => rfl
  | cons message rest => rw [digest, stopped]

theorem digest_cons {party : Party} {read : Message → Party × List Reply}
    (reads : react party = some read) (message : Message) (rest : List Message) :
    digest react party (message :: rest) =
      ((digest react (read message).1 rest).1,
        (read message).2 ++ (digest react (read message).1 rest).2) := by
  rw [digest, reads]

theorem digest_append (messages more : List Message) : ∀ party : Party,
    digest react party (messages ++ more) =
      ((digest react (digest react party messages).1 more).1,
        (digest react party messages).2 ++
          (digest react (digest react party messages).1 more).2) := by
  induction messages with
  | nil => exact fun party => rfl
  | cons message rest ih =>
    intro party
    cases reads : react party with
    | none => simp only [digest_stopped reads, List.append_nil]
    | some read =>
      rw [List.cons_append, digest_cons reads, digest_cons reads, ih]
      exact Prod.ext rfl (List.append_assoc _ _ _).symm

theorem seek_append (replies more : List Reply) :
    seek wanted (replies ++ more) =
      if (seek wanted replies).1 then (true, (seek wanted replies).2 ++ more)
      else seek wanted more := by
  induction replies with
  | nil => rfl
  | cons reply rest ih =>
    rw [List.cons_append, seek, seek, ih]
    split <;> rfl

/-- What was not found is not left behind. -/
theorem seek_false {replies : List Reply} (missed : (seek wanted replies).1 = false) :
    (seek wanted replies).2 = [] := by
  induction replies with
  | nil => rfl
  | cons reply rest ih =>
    rw [seek] at missed ⊢
    split at missed
    · cases missed
    · rw [if_neg ‹_›]
      exact ih missed

namespace Channel

variable {ch : Channel Party Message Reply}

theorem step_stopped (stopped : react ch.party = none) : ch.step react = ch := by
  unfold step
  rw [stopped]
  cases ch.inbox <;> rfl

theorem step_reads {party : Party} {read : Message → Party × List Reply}
    (reads : react party = some read) (message : Message) (rest : List Message)
    (outbox : List Reply) :
    step react ⟨message :: rest, outbox, party⟩ =
      ⟨rest, outbox ++ (read message).2, (read message).1⟩ := by
  unfold step
  rw [reads]

/-- **A step of the reader does not change what the channel settles to.** -/
theorem settled_step : settled react (ch.step react) = settled react ch := by
  obtain ⟨inbox, outbox, party⟩ := ch
  cases reads : react party with
  | none => rw [step_stopped reads]
  | some read =>
    cases inbox with
    | nil => rfl
    | cons message rest =>
      rw [step_reads reads]
      simp only [settled, digest_cons reads, List.append_assoc]

theorem settled_iterate (steps : Nat) :
    settled react ((step react)^[steps] ch) = settled react ch := by
  induction steps with
  | zero => rfl
  | succ steps ih => rw [Function.iterate_succ_apply', settled_step, ih]

/-- The reader gets to where it settles once it has taken a step for each message. -/
theorem party_iterate : ((step react)^[ch.inbox.length] ch).party = (settled react ch).1 := by
  obtain ⟨inbox, outbox, party⟩ := ch
  induction inbox generalizing outbox party with
  | nil => rfl
  | cons message rest ih =>
    cases reads : react party with
    | none =>
      rw [Function.iterate_fixed (step_stopped reads)]
      simp only [settled, digest_stopped reads]
    | some read =>
      rw [List.length_cons, Function.iterate_succ_apply, step_reads reads, ih]
      simp only [settled, digest_cons reads]

/-- **Messages are read after those sent before.** -/
theorem settled_send (messages : List Message) :
    settled react (ch.send messages) =
      ((digest react (settled react ch).1 messages).1,
        (settled react ch).2 ++ (digest react (settled react ch).1 messages).2) := by
  simp only [settled, send, digest_append, List.append_assoc]

/-- The steps that are enough for a wait: one for each message, unless the reader has stopped. -/
def Enough (react : React Party Message Reply) (steps : Nat)
    (ch : Channel Party Message Reply) : Prop :=
  ch.inbox.length ≤ steps ∨ react ch.party = none

theorem enough_step {steps : Nat} (enough : Enough react (steps + 1) ch) :
    Enough react steps (ch.step react) := by
  obtain ⟨inbox, outbox, party⟩ := ch
  cases reads : react party with
  | none =>
    rw [step_stopped reads]
    exact Or.inr reads
  | some read =>
    have short : inbox.length ≤ steps + 1 :=
      enough.resolve_right fun stopped => by rw [reads] at stopped; cases stopped
    cases inbox with
    | nil => exact Or.inl (Nat.zero_le steps)
    | cons message rest =>
      rw [step_reads reads]
      exact Or.inl (Nat.le_of_succ_le_succ short)

/-- A wanted reply that has arrived ends the wait. -/
theorem await_arrived (found : (seek wanted ch.outbox).1 = true) (steps : Nat) :
    await react wanted steps ch = (true, { ch with outbox := (seek wanted ch.outbox).2 }) := by
  unfold await
  simp only [found, if_true]

theorem await_zero (missed : (seek wanted ch.outbox).1 = false) :
    await react wanted 0 ch = (false, { ch with outbox := [] }) := by
  unfold await
  simp only [missed, seek_false missed, Bool.false_eq_true, if_false]

/-- Without one the reader takes a step. -/
theorem await_succ (missed : (seek wanted ch.outbox).1 = false) (steps : Nat) :
    await react wanted (steps + 1) ch =
      await react wanted steps (step react { ch with outbox := [] }) := by
  rw [await]
  simp only [missed, seek_false missed, Bool.false_eq_true, if_false]

/-- What has arrived is read before what is still to come. -/
theorem seek_settled :
    seek wanted (settled react ch).2 =
      if (seek wanted ch.outbox).1 then
        (true, (seek wanted ch.outbox).2 ++ (digest react ch.party ch.inbox).2)
      else seek wanted (digest react ch.party ch.inbox).2 :=
  seek_append ch.outbox (digest react ch.party ch.inbox).2

/-- **A wait takes the first wanted reply that ever comes**, and leaves the later ones. -/
theorem settled_await (steps : Nat) : ∀ ch : Channel Party Message Reply,
    Enough react steps ch →
      (await react wanted steps ch).1 = (seek wanted (settled react ch).2).1 ∧
        settled react (await react wanted steps ch).2 =
          ((settled react ch).1, (seek wanted (settled react ch).2).2) := by
  induction steps with
  | zero =>
    intro ch enough
    cases found : (seek wanted ch.outbox).1 with
    | true =>
      rw [await_arrived found, seek_settled, if_pos found]
      exact ⟨rfl, rfl⟩
    | false =>
      have read : digest react ch.party ch.inbox = (ch.party, []) := by
        rcases enough with none | stopped
        · rw [List.length_eq_zero_iff.mp (Nat.le_zero.mp none)]
          rfl
        · exact digest_stopped stopped _
      rw [await_zero found, seek_settled, if_neg (found ▸ Bool.false_ne_true)]
      simp only [settled, read, seek, List.append_nil, and_self]
  | succ steps ih =>
    intro ch enough
    cases found : (seek wanted ch.outbox).1 with
    | true =>
      rw [await_arrived found, seek_settled, if_pos found]
      exact ⟨rfl, rfl⟩
    | false =>
      have settles : settled react ({ ch with outbox := [] } : Channel _ _ _) =
          ((settled react ch).1, (digest react ch.party ch.inbox).2) := rfl
      have later := ih (step react { ch with outbox := [] }) (enough_step enough)
      rw [settled_step, settles] at later
      rw [await_succ found, seek_settled, if_neg (found ▸ Bool.false_ne_true)]
      exact later

/-- **A wait that finds nothing is right**: however long the reader goes on, the reply does not
come. -/
theorem await_false {steps : Nat} (enough : Enough react steps ch)
    (missed : (await react wanted steps ch).1 = false) (more : Nat) :
    ((step react)^[more] (await react wanted steps ch).2).outbox = [] := by
  have waited := @settled_await _ _ _ react wanted steps ch enough
  have nothing : (seek wanted (settled react ch).2).2 = [] := seek_false (waited.1 ▸ missed)
  have settles := congrArg Prod.snd ((settled_iterate more).trans waited.2)
  rw [nothing] at settles
  exact (List.append_eq_nil_iff.mp settles).1

end Channel

end Rules

end Wolverine.Fifo
