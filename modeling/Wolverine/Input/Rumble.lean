/-
**Force feedback: `poll_rumble`.**

Every poll drains a batch of events: uploads and erasures of effects, plays and stops. The rumble
effects are kept in a map, and the last play or stop of the batch is the command that is sent.

* `latest` — the reference: the effect stored under an id, found by looking back through all events.
  An upload that carries no id has the number of such uploads before it.
* `pollAll_eq` — the batches of a history do what one batch with all its events does.
* `rumble_batching` — the map and the last command, from the history alone.
* `assigned_fresh` — the ids that are assigned are unused exactly when every earlier effect with the
  same number was erased in time.
-/

import Wolverine.Base.Machine

namespace Wolverine.Input

open Wolverine.Machine

/-! ### Events -/

/-- The strong and the weak magnitude. -/
abbrev Magnitudes := UInt16 × UInt16

inductive FfEffectKind
  | rumble (strong weak : UInt16)
  | other
  deriving DecidableEq, Repr

/-- What `process_ff_upload` returns; a negative id asks for one. -/
structure Upload where
  effectId : Int16
  kind : FfEffectKind
  deriving DecidableEq, Repr

/-- An event of the gamepad device. An upload or an erasure comes with what its transaction
returns, if it succeeds. -/
inductive FfEvent
  | upload (processed : Option Upload)
  | erase (processed : Option UInt32)
  | forceFeedback (id : UInt16) (value : Int32)
  | other
  deriving DecidableEq, Repr

/-- The fields of `Uinput` that force feedback uses. -/
structure ForceFeedback where
  ffEffects : Int16 → Option Magnitudes
  nextEffectId : Int16

def ForceFeedback.create : ForceFeedback where
  ffEffects := fun _ => none
  nextEffectId := 0

/-! ### Polls -/

/-- Scale an FF magnitude (0..=0xffff) to the GIP rumble range (0..=100). -/
def scaleMag (m : UInt16) : UInt8 := (m.toUInt32 * 100 / 0xffff).toUInt8

namespace ForceFeedback

/-- The id of an upload: its own, or the next one. -/
def idOf (ff : ForceFeedback) (up : Upload) : Int16 :=
  if up.effectId < 0 then ff.nextEffectId else up.effectId

/-- The counter behind an upload. -/
def counterAfter (ff : ForceFeedback) (up : Upload) : Int16 :=
  if up.effectId < 0 then max (ff.nextEffectId + 1) 0 else ff.nextEffectId

def upload (ff : ForceFeedback) (up : Upload) : ForceFeedback where
  ffEffects := match up.kind with
    | .rumble strong weak => Function.update ff.ffEffects (ff.idOf up) (some (strong, weak))
    | .other => ff.ffEffects
  nextEffectId := ff.counterAfter up

def erase (ff : ForceFeedback) (id : Int16) : ForceFeedback :=
  { ff with ffEffects := Function.update ff.ffEffects id none }

/-- The command of a play (a value other than 0) or of a stop. -/
def command (ff : ForceFeedback) (id : UInt16) (value : Int32) : UInt8 × UInt8 :=
  if value ≠ 0 then
    ((ff.ffEffects id.toInt16).map fun magnitudes =>
      (scaleMag magnitudes.1, scaleMag magnitudes.2)).getD (0, 0)
  else (0, 0)

/-- One event of a batch, with the command so far. -/
def event (polled : ForceFeedback × Option (UInt8 × UInt8)) :
    FfEvent → ForceFeedback × Option (UInt8 × UInt8)
  | .upload (some up) => (polled.1.upload up, polled.2)
  | .erase (some id) => (polled.1.erase id.toUInt16.toInt16, polled.2)
  | .forceFeedback id value => (polled.1, some (polled.1.command id value))
  | _ => polled

/-- One poll. A poll that cannot fetch events, as there are none or for another reason, returns at
once. -/
def pollRumble (ff : ForceFeedback) (fetched : Option (List FfEvent)) :
    ForceFeedback × Option (UInt8 × UInt8) :=
  match fetched with
  | none => (ff, none)
  | some events => events.foldl event (ff, none)

end ForceFeedback

/-- The events of all polls. -/
def historyOf (polls : List (Option (List FfEvent))) : List FfEvent :=
  polls.flatMap fun fetched => fetched.getD []

/-- The last command that was returned. -/
def lastCommand (commands : List (Option (UInt8 × UInt8))) : Option (UInt8 × UInt8) :=
  (commands.filterMap id).getLast?

/-! ### Batches -/

section Batches

/-- Only a play or a stop looks at the command so far, and replaces it. -/
theorem event_cases (ff : ForceFeedback) (event : FfEvent) :
    (∃ next, ∀ command, ForceFeedback.event (ff, command) event = (next, command)) ∨
      ∃ id value, event = .forceFeedback id value ∧
        ∀ command, ForceFeedback.event (ff, command) event = (ff, some (ff.command id value)) := by
  rcases event with (_ | up) | (_ | request) | ⟨id, value⟩ | _
  · exact .inl ⟨ff, fun _ => rfl⟩
  · exact .inl ⟨ff.upload up, fun _ => rfl⟩
  · exact .inl ⟨ff, fun _ => rfl⟩
  · exact .inl ⟨ff.erase request.toUInt16.toInt16, fun _ => rfl⟩
  · exact .inr ⟨id, value, rfl, fun _ => rfl⟩
  · exact .inl ⟨ff, fun _ => rfl⟩

/-- The command so far is only replaced. -/
theorem foldl_event (events : List FfEvent) :
    ∀ (ff : ForceFeedback) (command : Option (UInt8 × UInt8)),
    events.foldl ForceFeedback.event (ff, command) =
      ((events.foldl ForceFeedback.event (ff, none)).1,
        (events.foldl ForceFeedback.event (ff, none)).2 <|> command) := by
  induction events with
  | nil => exact fun _ _ => rfl
  | cons event rest ih =>
    intro ff command
    rw [List.foldl_cons, List.foldl_cons]
    rcases event_cases ff event with ⟨next, kept⟩ | ⟨id, value, -, replaced⟩
    · rw [kept, kept]
      exact ih next command
    · rw [replaced, replaced, ih ff (some (ff.command id value))]
      cases (rest.foldl ForceFeedback.event (ff, none)).2 <;> rfl

theorem lastCommand_cons (command : Option (UInt8 × UInt8))
    (commands : List (Option (UInt8 × UInt8))) :
    lastCommand (command :: commands) = (lastCommand commands <|> command) := by
  cases command with
  | none =>
    show lastCommand commands = _
    cases lastCommand commands <;> rfl
  | some motors =>
    show (motors :: commands.filterMap id).getLast? = _
    rw [List.getLast?_cons]
    show some ((lastCommand commands).getD motors) = _
    cases lastCommand commands <;> rfl

/-- **Batches do not matter.** The polls of a history leave the state, and return last the command,
of one poll with all its events. -/
theorem pollAll_eq (polls : List (Option (List FfEvent))) : ∀ ff : ForceFeedback,
    ((produce ForceFeedback.pollRumble ff polls).1,
      lastCommand (produce ForceFeedback.pollRumble ff polls).2) =
      (historyOf polls).foldl ForceFeedback.event (ff, none) := by
  induction polls with
  | nil => exact fun _ => rfl
  | cons fetched rest ih =>
    intro ff
    have polled :
        ff.pollRumble fetched = (fetched.getD []).foldl ForceFeedback.event (ff, none) := by
      cases fetched <;> rfl
    have later := ih (ff.pollRumble fetched).1
    rw [historyOf, List.flatMap_cons, List.foldl_append, ← polled, foldl_event, ← historyOf,
      ← later]
    exact Prod.ext rfl (lastCommand_cons _ _)

end Batches

/-! ### The reference -/

/-- An upload that asks for an id. -/
def FfEvent.asks : FfEvent → Bool
  | .upload (some up) => up.effectId < 0
  | _ => false

/-- The uploads that asked for an id. -/
def asked (history : List FfEvent) : Nat := history.countP FfEvent.asks

/-- The id of an upload that comes after others: its own, or their number. -/
def numberOf (history : List FfEvent) (up : Upload) : Int16 :=
  if up.effectId < 0 then .ofNat (asked history % 32768) else up.effectId

/-- What an event that comes after others makes of the effect stored under an id, if anything. -/
def touches (id : Int16) (history : List FfEvent) : FfEvent → Option (Option Magnitudes)
  | .upload (some up) =>
    match up.kind with
    | .rumble strong weak => if numberOf history up = id then some (some (strong, weak)) else none
    | .other => none
  | .erase (some request) => if request.toUInt16.toInt16 = id then some none else none
  | _ => none

/-- The effect stored under an id, looking back from the last event. -/
def lookBack (id : Int16) : List FfEvent → Option Magnitudes
  | [] => none
  | event :: earlier => (touches id earlier event).getD (lookBack id earlier)

/-- The effect stored under an id after a history. -/
def latest (id : Int16) (history : List FfEvent) : Option Magnitudes := lookBack id history.reverse

/-- A magnitude in percent of the largest one, rounded down. -/
def percentOf (m : UInt16) : Nat := m.toNat * 100 / 65535

example : percentOf 0 = 0 ∧ percentOf 0x7fff = 49 ∧ percentOf 0xffff = 100 := by decide

/-- The command of a play or a stop after a history: the magnitudes of the effect in percent, if
there is one. -/
def commandAfter (history : List FfEvent) (id : UInt16) (value : Int32) : UInt8 × UInt8 :=
  if value = 0 then (0, 0)
  else
    match latest id.toInt16 history with
    | some (strong, weak) => (.ofNat (percentOf strong), .ofNat (percentOf weak))
    | none => (0, 0)

/-- The state after a history. -/
def reached (history : List FfEvent) : ForceFeedback :=
  (history.foldl ForceFeedback.event (.create, none)).1

theorem percentOf_le (m : UInt16) : percentOf m ≤ 100 := by
  have below : m.toNat < 65536 := m.toNat_lt
  unfold percentOf
  omega

/-- **The code scales to percent**: nothing is cut off, neither of the product nor of the result. -/
theorem scaleMag_eq (m : UInt16) : scaleMag m = .ofNat (percentOf m) := by
  have below : m.toNat < 65536 := m.toNat_lt
  have product : (m.toUInt32 * 100).toNat = m.toNat * 100 := by
    rw [UInt32.toNat_mul, UInt16.toNat_toUInt32]
    apply Nat.mod_eq_of_lt
    show m.toNat * 100 < 4294967296
    omega
  apply UInt8.toNat_inj.mp
  rw [scaleMag, UInt32.toNat_toUInt8, UInt32.toNat_div, product]
  exact UInt8.toNat_ofNat'.symm

theorem asked_reverse (history : List FfEvent) : asked history.reverse = asked history :=
  List.countP_reverse

theorem asked_concat (history : List FfEvent) (event : FfEvent) :
    asked (history ++ [event]) = asked history + if event.asks then 1 else 0 := by
  rw [asked, List.countP_append, List.countP_singleton]
  rfl

theorem touches_reverse (id : Int16) (history : List FfEvent) (event : FfEvent) :
    touches id history.reverse event = touches id history event := by
  unfold touches numberOf
  rw [asked_reverse]

theorem latest_concat (id : Int16) (history : List FfEvent) (event : FfEvent) :
    latest id (history ++ [event]) = (touches id history event).getD (latest id history) := by
  rw [latest, List.reverse_concat, lookBack, touches_reverse]
  rfl

theorem reached_concat (history : List FfEvent) (event : FfEvent) :
    reached (history ++ [event]) = (ForceFeedback.event (reached history, none) event).1 := by
  rw [reached, List.foldl_append, reached, List.foldl_cons, List.foldl_nil]
  rcases event_cases (reached history) event with ⟨next, kept⟩ | ⟨id, value, -, replaced⟩
  · exact (congrArg Prod.fst (kept _)).trans (congrArg Prod.fst (kept none)).symm
  · exact (congrArg Prod.fst (replaced _)).trans (congrArg Prod.fst (replaced none)).symm

/-- The counter counts the uploads that asked, and starts again behind the largest id. -/
theorem next_number (count : Nat) :
    max (Int16.ofNat (count % 32768) + 1) 0 = Int16.ofNat ((count + 1) % 32768) := by
  have below : count % 32768 < 32768 := Nat.mod_lt _ (by decide)
  show (if Int16.ofNat (count % 32768) + 1 ≤ 0 then 0 else Int16.ofNat (count % 32768) + 1) = _
  rw [show Int16.ofNat (count % 32768) + 1 = Int16.ofNat (count % 32768 + 1) from
    (Int16.ofNat_add _ 1).symm]
  by_cases largest : count % 32768 = 32767
  · have again : (count + 1) % 32768 = 0 := by omega
    rw [largest, again]
    decide
  · have next : (count + 1) % 32768 = count % 32768 + 1 := by omega
    rw [next, if_neg]
    rw [Int16.le_iff_toInt_le, Int16.toInt_ofNat_of_lt (by omega)]
    show ¬ ((count % 32768 + 1 : Nat) : Int) ≤ 0
    omega

/-- What the reference says of a state after a history. -/
structure Refers (history : List FfEvent) (ff : ForceFeedback) : Prop where
  effects : ∀ id, ff.ffEffects id = latest id history
  counter : ff.nextEffectId = .ofNat (asked history % 32768)

namespace Refers

variable {history : List FfEvent} {ff : ForceFeedback}

theorem idOf_eq (refers : Refers history ff) (up : Upload) : ff.idOf up = numberOf history up := by
  rw [ForceFeedback.idOf, numberOf, refers.counter]

/-- An event that touches no effect and asks for no id. -/
theorem skip (refers : Refers history ff) {event : FfEvent}
    (aside : ∀ id, touches id history event = none) (asks : event.asks = false) :
    Refers (history ++ [event]) ff := by
  refine ⟨fun id => ?_, ?_⟩
  · rw [latest_concat, aside id]
    exact refers.effects id
  · rw [asked_concat, asks]
    exact refers.counter

theorem upload (refers : Refers history ff) (up : Upload) :
    Refers (history ++ [.upload (some up)]) (ff.upload up) := by
  refine ⟨fun id => ?_, ?_⟩
  · rw [latest_concat, ForceFeedback.upload, touches, refers.idOf_eq]
    cases up.kind with
    | other => exact refers.effects id
    | rumble strong weak =>
      by_cases own : numberOf history up = id
      · simp only [if_pos own, Option.getD_some]
        rw [own, Function.update_self]
      · simp only [if_neg own, Option.getD_none]
        rw [Function.update_of_ne (Ne.symm own)]
        exact refers.effects id
  · rw [asked_concat]
    show ff.counterAfter up = _
    by_cases asks : up.effectId < 0
    · have one : FfEvent.asks (.upload (some up)) = true := decide_eq_true asks
      rw [ForceFeedback.counterAfter, if_pos asks, refers.counter, next_number, one]
      rfl
    · have own : FfEvent.asks (.upload (some up)) = false := decide_eq_false asks
      rw [ForceFeedback.counterAfter, if_neg asks, refers.counter, own]
      rfl

theorem erase (refers : Refers history ff) (request : UInt32) :
    Refers (history ++ [.erase (some request)]) (ff.erase request.toUInt16.toInt16) := by
  refine ⟨fun id => ?_, ?_⟩
  · rw [latest_concat, ForceFeedback.erase, touches]
    by_cases own : request.toUInt16.toInt16 = id
    · rw [if_pos own, own]
      exact Function.update_self ..
    · rw [if_neg own]
      exact (Function.update_of_ne (Ne.symm own) _ _).trans (refers.effects id)
  · rw [asked_concat]
    exact refers.counter

theorem command_eq (refers : Refers history ff) (id : UInt16) (value : Int32) :
    ff.command id value = commandAfter history id value := by
  rw [ForceFeedback.command, commandAfter, refers.effects]
  by_cases stop : value = 0
  · rw [if_neg (not_not.mpr stop), if_pos stop]
  · rw [if_pos stop, if_neg stop]
    cases latest id.toInt16 history with
    | none => rfl
    | some magnitudes => exact Prod.ext (scaleMag_eq magnitudes.1) (scaleMag_eq magnitudes.2)

end Refers

/-- **The state is the one of the reference.** -/
theorem reached_refers (history : List FfEvent) : Refers history (reached history) := by
  induction history using List.reverseRecOn with
  | nil => exact ⟨fun _ => rfl, rfl⟩
  | append_singleton history event ih =>
    rw [reached_concat]
    rcases event with (_ | up) | (_ | request) | ⟨id, value⟩ | _
    · exact ih.skip (fun _ => rfl) rfl
    · exact ih.upload up
    · exact ih.skip (fun _ => rfl) rfl
    · exact ih.erase request
    · exact ih.skip (fun _ => rfl) rfl
    · exact ih.skip (fun _ => rfl) rfl

/-! ### Commands -/

/-- No event is a play or a stop. -/
def NoPlay (events : List FfEvent) : Prop := ∀ id value, .forceFeedback id value ∉ events

/-- Both magnitudes are within the GIP rumble range. -/
def Scaled (motors : UInt8 × UInt8) : Prop := motors.1 ≤ 100 ∧ motors.2 ≤ 100

theorem scaleMag_le (m : UInt16) : scaleMag m ≤ 100 := by
  rw [scaleMag_eq, UInt8.le_iff_toNat_le]
  exact (Nat.mod_le _ _).trans (percentOf_le m)

theorem command_scaled (ff : ForceFeedback) (id : UInt16) (value : Int32) :
    Scaled (ff.command id value) := by
  rw [ForceFeedback.command]
  split
  · cases ff.ffEffects id.toInt16 with
    | none => exact ⟨by decide, by decide⟩
    | some magnitudes => exact ⟨scaleMag_le magnitudes.1, scaleMag_le magnitudes.2⟩
  · exact ⟨by decide, by decide⟩

theorem foldl_scaled (events : List FfEvent) : ∀ (ff : ForceFeedback) command,
    (∀ motors, command = some motors → Scaled motors) → ∀ motors,
    (events.foldl ForceFeedback.event (ff, command)).2 = some motors → Scaled motors := by
  induction events with
  | nil => exact fun _ _ scaled => scaled
  | cons event rest ih =>
    intro ff command scaled
    rw [List.foldl_cons]
    rcases event_cases ff event with ⟨next, kept⟩ | ⟨id, value, -, replaced⟩
    · rw [kept]
      exact ih next command scaled
    · rw [replaced]
      refine ih ff (some (ff.command id value)) fun motors same => ?_
      cases same
      exact command_scaled ff id value

/-- Every command that a poll returns is within the GIP rumble range. -/
theorem pollAll_scaled (polls : List (Option (List FfEvent))) : ∀ ff : ForceFeedback,
    ∀ command ∈ (produce ForceFeedback.pollRumble ff polls).2, ∀ motors,
      command = some motors → Scaled motors := by
  induction polls with
  | nil => exact fun _ _ absent => by cases absent
  | cons fetched rest ih =>
    intro ff command member
    rcases List.mem_cons.mp member with rfl | later
    · cases fetched with
      | none => exact fun _ absent => by cases absent
      | some events => exact foldl_scaled events ff none fun _ absent => by cases absent
    · exact ih (ff.pollRumble fetched).1 command later

theorem foldl_noPlay {events : List FfEvent} (quiet : NoPlay events) :
    ∀ (ff : ForceFeedback) command,
      (events.foldl ForceFeedback.event (ff, command)).2 = command := by
  induction events with
  | nil => exact fun _ _ => rfl
  | cons event rest ih =>
    have behind : NoPlay rest := fun id value member => quiet id value (.tail _ member)
    intro ff command
    rw [List.foldl_cons]
    rcases event_cases ff event with ⟨next, kept⟩ | ⟨id, value, rfl, -⟩
    · rw [kept]
      exact ih behind next command
    · exact absurd List.mem_cons_self (quiet id value)

/-- **Rumble does not depend on batching.** However a history is cut into polls, failed ones
included, the map holds the latest effect of each id, and the last command that is returned is the
one that the last play or stop has in the history before it; without one, none is returned. All
magnitudes are at most 100. -/
theorem rumble_batching (polls : List (Option (List FfEvent))) :
    (∀ id, (produce ForceFeedback.pollRumble .create polls).1.ffEffects id =
      latest id (historyOf polls)) ∧
    (NoPlay (historyOf polls) →
      lastCommand (produce ForceFeedback.pollRumble .create polls).2 = none) ∧
    (∀ before id value after, historyOf polls = before ++ .forceFeedback id value :: after →
      NoPlay after → lastCommand (produce ForceFeedback.pollRumble .create polls).2 =
        some (commandAfter before id value)) ∧
    ∀ command ∈ (produce ForceFeedback.pollRumble .create polls).2, ∀ motors,
      command = some motors → Scaled motors := by
  have batched := pollAll_eq polls .create
  have state := congrArg Prod.fst batched
  have command := congrArg Prod.snd batched
  simp only at state command
  refine ⟨fun id => ?_, fun quiet => ?_, fun before id value after cut quiet => ?_,
    pollAll_scaled polls .create⟩
  · rw [state]
    exact (reached_refers (historyOf polls)).effects id
  · rw [command]
    exact foldl_noPlay quiet .create none
  · rw [command, cut, List.foldl_append, List.foldl_cons]
    show (after.foldl ForceFeedback.event
      (reached before, some ((reached before).command id value))).2 = _
    rw [foldl_noPlay quiet, (reached_refers before).command_eq]

/-! ### Assigned ids -/

/-- An upload of a rumble effect, after others, under an id: its own, or an assigned one. -/
def Stores (id : Int16) (history : List FfEvent) (event : FfEvent) : Prop :=
  ∃ up strong weak, event = .upload (some up) ∧ up.kind = .rumble strong weak ∧
    numberOf history up = id

/-- An erasure of an id. -/
def Erases (id : Int16) (event : FfEvent) : Prop :=
  ∃ request, event = .erase (some request) ∧ request.toUInt16.toInt16 = id

theorem touches_stored (id : Int16) (history : List FfEvent) (event : FfEvent) :
    (∃ magnitudes, touches id history event = some (some magnitudes)) ↔
      Stores id history event := by
  refine ⟨fun ⟨magnitudes, stored⟩ => ?_, fun ⟨up, strong, weak, same, kind, own⟩ => ?_⟩
  · rcases event with (_ | up) | (_ | request) | ⟨other, value⟩ | _
    · cases stored
    · rw [touches] at stored
      cases kind : up.kind with
      | other => simp only [kind, reduceCtorEq] at stored
      | rumble strong weak =>
        refine ⟨up, strong, weak, rfl, kind, ?_⟩
        by_contra foreign
        simp only [kind, if_neg foreign, reduceCtorEq] at stored
    · cases stored
    · rw [touches] at stored
      split at stored <;> cases stored
    · cases stored
    · cases stored
  · rw [same, touches]
    simp only [kind, if_pos own]
    exact ⟨_, rfl⟩

theorem touches_erased (id : Int16) (history : List FfEvent) (event : FfEvent) :
    touches id history event = some none ↔ Erases id event := by
  refine ⟨fun erased => ?_, fun ⟨request, same, own⟩ => ?_⟩
  · rcases event with (_ | up) | (_ | request) | ⟨other, value⟩ | _
    · cases erased
    · rw [touches] at erased
      cases kind : up.kind with
      | other => simp only [kind, reduceCtorEq] at erased
      | rumble strong weak =>
        simp only [kind] at erased
        split at erased <;> cases erased
    · cases erased
    · refine ⟨request, rfl, ?_⟩
      by_contra foreign
      rw [touches, if_neg foreign] at erased
      cases erased
    · cases erased
    · cases erased
  · rw [same, touches, if_pos own]

/-- An event of a history and one more is the last, or one of the history. -/
theorem cut_concat {history earlier between : List FfEvent} {last event : FfEvent}
    (cut : history ++ [last] = earlier ++ event :: between) :
    (earlier = history ∧ event = last ∧ between = []) ∨
      ∃ less, history = earlier ++ event :: less ∧ between = less ++ [last] := by
  rcases List.eq_nil_or_concat between with rfl | ⟨less, final, rfl⟩
  · obtain ⟨rfl, same⟩ := List.append_inj' cut rfl
    cases same
    exact .inl ⟨rfl, rfl, rfl⟩
  · rw [List.concat_eq_append, ← List.cons_append, ← List.append_assoc] at cut
    obtain ⟨rfl, same⟩ := List.append_inj' cut rfl
    cases same
    exact .inr ⟨less, rfl, List.concat_eq_append⟩

/-- Every effect that was stored under an id was erased since. -/
def AllErased (id : Int16) (history : List FfEvent) : Prop :=
  ∀ earlier event between, history = earlier ++ event :: between → Stores id earlier event →
    ∃ erasure ∈ between, Erases id erasure

/-- An event that does not touch the id. -/
theorem allErased_skip {id : Int16} {history : List FfEvent} {last : FfEvent}
    (untouched : touches id history last = none) :
    AllErased id (history ++ [last]) ↔ AllErased id history := by
  refine ⟨fun all earlier event between cut stored => ?_,
    fun all earlier event between cut stored => ?_⟩
  · obtain ⟨erasure, member, erased⟩ := all earlier event (between ++ [last])
      (by rw [cut, List.append_assoc, List.cons_append]) stored
    rcases List.mem_append.mp member with inside | here
    · exact ⟨erasure, inside, erased⟩
    · rw [List.mem_singleton.mp here] at erased
      have touched := (touches_erased id history last).mpr erased
      exact absurd (untouched.symm.trans touched) (Option.some_ne_none _).symm
  · rcases cut_concat cut with ⟨rfl, rfl, rfl⟩ | ⟨less, inside, rfl⟩
    · obtain ⟨magnitudes, touched⟩ := (touches_stored id _ _).mpr stored
      exact absurd (untouched.symm.trans touched) (Option.some_ne_none _).symm
    · obtain ⟨erasure, member, erased⟩ := all earlier event less inside stored
      exact ⟨erasure, List.mem_append_left _ member, erased⟩

theorem allErased_erase {id : Int16} {last : FfEvent} (erases : Erases id last)
    (history : List FfEvent) : AllErased id (history ++ [last]) := by
  intro earlier event between cut stored
  rcases cut_concat cut with ⟨-, rfl, -⟩ | ⟨less, -, rfl⟩
  · obtain ⟨up, strong, weak, upload, -⟩ := stored
    obtain ⟨request, erase, -⟩ := erases
    cases upload.symm.trans erase
  · exact ⟨last, List.mem_append_right _ (List.mem_singleton.mpr rfl), erases⟩

theorem not_allErased_store {id : Int16} {history : List FfEvent} {last : FfEvent}
    (stores : Stores id history last) : ¬ AllErased id (history ++ [last]) := by
  intro all
  obtain ⟨erasure, member, -⟩ := all history last [] rfl stores
  cases member

/-- **No effect is stored under an id** exactly when every one that was is erased. -/
theorem latest_eq_none (id : Int16) (history : List FfEvent) :
    latest id history = none ↔ AllErased id history := by
  induction history using List.reverseRecOn with
  | nil =>
    refine ⟨fun _ earlier event between cut => ?_, fun _ => rfl⟩
    cases earlier <;> cases cut
  | append_singleton history last ih =>
    rw [latest_concat]
    rcases touched : touches id history last with _ | (_ | magnitudes)
    · rw [allErased_skip touched]
      exact ih
    · exact iff_of_true rfl (allErased_erase ((touches_erased id history last).mp touched) history)
    · exact iff_of_false (Option.some_ne_none _)
        (not_allErased_store ((touches_stored id history last).mp ⟨magnitudes, touched⟩))

theorem numberOf_nonneg (history : List FfEvent) {up : Upload} (asks : up.effectId < 0) :
    0 ≤ numberOf history up := by
  rw [numberOf, if_pos asks]
  exact Int16.zero_le_ofNat_of_lt (Nat.mod_lt _ (by decide))

/-- **Assigned ids.** In the states that a history of events goes through, every upload that asks
for an id is given a non-negative one that no effect is stored under, exactly when before each of
these uploads all effects under its number (the count, modulo 32768, of the uploads before it that
asked) were erased. -/
theorem assigned_fresh (history : List FfEvent) :
    (∀ before up after, history = before ++ .upload (some up) :: after → up.effectId < 0 →
      0 ≤ (reached before).idOf up ∧
        (reached before).ffEffects ((reached before).idOf up) = none) ↔
    ∀ before up after, history = before ++ .upload (some up) :: after → up.effectId < 0 →
      AllErased (.ofNat (asked before % 32768)) before := by
  have each : ∀ before up, up.effectId < 0 → ((0 ≤ (reached before).idOf up ∧
      (reached before).ffEffects ((reached before).idOf up) = none) ↔
      AllErased (.ofNat (asked before % 32768)) before) := by
    intro before up asks
    have refers := reached_refers before
    have number : numberOf before up = .ofNat (asked before % 32768) := if_pos asks
    rw [refers.idOf_eq, refers.effects, ← latest_eq_none, ← number]
    exact and_iff_right (numberOf_nonneg before asks)
  refine ⟨fun all before up after cut asks => ?_, fun all before up after cut asks => ?_⟩
  · exact (each before up asks).mp (all before up after cut asks)
  · exact (each before up asks).mpr (all before up after cut asks)

/-- An effect that the uploader itself put under id 0, and a new one. -/
def ownThenNew : List FfEvent :=
  [.upload (some ⟨0, .rumble 0x4000 0x4000⟩), .upload (some ⟨-1, .rumble 0x8000 0x8000⟩)]

/-- The new effect is given the id of a stored one. -/
theorem not_assigned_fresh : ¬ ∀ history before up after,
    history = before ++ .upload (some up) :: after → up.effectId < 0 →
    0 ≤ (reached before).idOf up ∧
      (reached before).ffEffects ((reached before).idOf up) = none := by
  intro all
  have fresh := (all ownThenNew [.upload (some ⟨0, .rumble 0x4000 0x4000⟩)]
    ⟨-1, .rumble 0x8000 0x8000⟩ [] rfl (by decide)).2
  cases fresh

end Wolverine.Input
