/-
This file adds a history to a stateful call: a list of events that stands
beside the state and that the call itself never reads. A recorded call does what
the plain call does and writes down some of it on the way. That it does the same
is proved along its structure, and so is what every event it writes down
satisfies.
-/

import ZigOs.Lib.Call

namespace Call

variable {Failure State Event Value Next : Type}

/-- A state with the events so far beside it, the latest first. -/
structure Recorded (State Event : Type) where
  state : State
  events : List Event := []

/-- Run a call and write nothing down. -/
def quietly (call : Call Failure State Value) : Call Failure (Recorded State Event) Value :=
  within Recorded.state (fun after whole => { whole with state := after }) call

/-- Write an event down. -/
def record (event : State → Event) : Call Failure (Recorded State Event) Unit :=
  change fun whole => { whole with events := event whole.state :: whole.events }

@[simp] theorem quietly_apply (call : Call Failure State Value) (whole : Recorded State Event) :
    quietly call whole = ((call whole.state).1, { whole with state := (call whole.state).2 }) := rfl

/-! ### Forgetting the history -/

/-- Without its history the recorded call is the plain one. -/
def Erases (recorded : Call Failure (Recorded State Event) Value)
    (call : Call Failure State Value) : Prop :=
  ∀ whole, (recorded whole).1 = (call whole.state).1 ∧
    (recorded whole).2.state = (call whole.state).2

theorem erases_quietly (call : Call Failure State Value) :
    Erases (quietly call : Call Failure (Recorded State Event) Value) call := fun _ => ⟨rfl, rfl⟩

theorem erases_pure (value : Value) :
    Erases (pure value : Call Failure (Recorded State Event) Value) (pure value) :=
  fun _ => ⟨rfl, rfl⟩

variable {recorded : Call Failure (Recorded State Event) Value} {call : Call Failure State Value}

theorem erases_bind {recordedNext : Value → Call Failure (Recorded State Event) Next}
    {next : Value → Call Failure State Next} (first : Erases recorded call)
    (second : ∀ value, Erases (recordedNext value) (next value)) :
    Erases (recorded >>= recordedNext) (call >>= next) := fun whole => by
  obtain ⟨sameResult, sameState⟩ := first whole
  rw [bind_apply, bind_apply]
  rcases plain : call whole.state with ⟨failure | value, after⟩
  all_goals
    rcases outcome : recorded whole with ⟨result, middle⟩
    rw [outcome, plain] at sameResult sameState
    dsimp only at sameResult sameState
    subst sameResult sameState
  · exact ⟨rfl, rfl⟩
  · exact second value middle

/-- Writing an event down is no step of the plain call. -/
theorem erases_record {event : State → Event}
    {recordedNext : Unit → Call Failure (Recorded State Event) Next} {next : Call Failure State Next}
    (rest : Erases (recordedNext ()) next) : Erases (record event >>= recordedNext) next :=
  fun whole => rest { whole with events := event whole.state :: whole.events }

theorem erases_ite {condition : Prop} [Decidable condition]
    {other : Call Failure (Recorded State Event) Value} {otherCall : Call Failure State Value}
    (holds : Erases recorded call) (fails : Erases other otherCall) :
    Erases (if condition then recorded else other) (if condition then call else otherCall) := by
  split
  · exact holds
  · exact fails

theorem erases_attempt (erases : Erases recorded call) :
    Erases (attempt recorded) (attempt call) := fun whole => by
  obtain ⟨sameResult, sameState⟩ := erases whole
  exact ⟨congrArg Except.ok sameResult, sameState⟩

/-! ### What is written down -/

/-- Every event written down meanwhile satisfies the predicate. -/
def Records (allowed : Event → Prop) (before after : Recorded State Event) : Prop :=
  (∀ event ∈ before.events, allowed event) → ∀ event ∈ after.events, allowed event

variable {allowed : Event → Prop}

instance : Std.Refl (Records allowed : Recorded State Event → Recorded State Event → Prop) where
  refl _ := id

instance : IsTrans (Recorded State Event) (Records allowed) where
  trans _ _ _ first second := second ∘ first

theorem records_quietly (call : Call Failure State Value) :
    Keeps (Records allowed) (quietly call) := fun _ => id

theorem records_record {event : State → Event} {before : Recorded State Event}
    (permitted : allowed (event before.state)) :
    KeepsFrom (Records allowed) before (record event : Call Failure (Recorded State Event) Unit) := by
  intro earlier other member
  rcases List.mem_cons.mp member with rfl | old
  · exact permitted
  · exact earlier other old

end Call
