/-
This file is about machines that other parties share: each action of any of them
is a step that may be impossible, and a step can emit events. A condition on
actions says which runs are considered. What holds at the start and is kept by
every step that meets the condition holds wherever such a run leads.
-/

import Mathlib

namespace Runs

variable {State Action Event : Type}

/-- A machine takes an action to the next state and the events emitted on the way. -/
abbrev Machine (State Action Event : Type) := Action → State → Option (State × List Event)

/-- The states that runs of admitted actions lead to. -/
inductive Reached (machine : Machine State Action Event) (admitted : Action → State → Prop)
    (origin : State) : State → Prop where
  | origin : Reached machine admitted origin origin
  | step {before after : State} {action : Action} {events : List Event}
    (reached : Reached machine admitted origin before) (admits : admitted action before)
    (steps : machine action before = some (after, events)) :
    Reached machine admitted origin after

variable {machine : Machine State Action Event} {admitted : Action → State → Prop} {origin : State}

/-- An invariant of admitted steps. -/
theorem Reached.keeps {holds : State → Prop} (initially : holds origin)
    (kept : ∀ action before after events, holds before → admitted action before →
      machine action before = some (after, events) → holds after)
    {state : State} (reached : Reached machine admitted origin state) : holds state := by
  induction reached with
  | origin => exact initially
  | step _ admits steps hypothesis => exact kept _ _ _ _ hypothesis admits steps

/-- Take one action after the other and forget the events; impossible actions are passed over. -/
def run (machine : Machine State Action Event) : List Action → State → State
  | [], state => state
  | action :: rest, state =>
    match machine action state with
    | none => run machine rest state
    | some (after, _) => run machine rest after

/-- Every possible action is admitted where it is taken. -/
def Admits (machine : Machine State Action Event) (admitted : Action → State → Prop) :
    List Action → State → Prop
  | [], _ => True
  | action :: rest, state => admitted action state ∧
    Admits machine admitted rest (run machine [action] state)

/-- A run of admitted actions leads where it does. -/
theorem Reached.run {actions : List Action} {state : State}
    (reached : Reached machine admitted origin state) (admits : Admits machine admitted actions state) :
    Reached machine admitted origin (Runs.run machine actions state) := by
  induction actions generalizing state with
  | nil => exact reached
  | cons action rest hypothesis =>
    obtain ⟨admitsFirst, admitsRest⟩ := admits
    unfold Runs.run at admitsRest ⊢
    split
    · rename_i impossible
      rw [impossible] at admitsRest
      exact hypothesis reached admitsRest
    · rename_i after events steps
      rw [steps] at admitsRest
      exact hypothesis (reached.step admitsFirst steps) admitsRest

theorem admits_all (actions : List Action) (state : State) :
    Admits machine (fun _ _ => True) actions state := by
  induction actions generalizing state with
  | nil => trivial
  | cons action rest hypothesis => exact ⟨trivial, hypothesis _⟩

end Runs
