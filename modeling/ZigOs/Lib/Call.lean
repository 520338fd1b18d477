/-
This file is the calculus of fallible stateful calls that the kernel model is
written in. A call reads and changes a state and returns a value or a failure;
a failure does not roll the state back, so whatever was written before it
stays. Beside the monad the file holds the one rule most frame and invariant
arguments are instances of: a reflexive and transitive relation between the
state before and the state after, proved of the primitive steps, holds of every
call composed from them.
-/

import Mathlib

/-- A call on a state: the result, and the state it leaves behind whether or not it
failed. -/
structure Call (Failure State Value : Type) where
  run : State → Except Failure Value × State

namespace Call

open List

variable {Failure State Value Next : Type}

instance : CoeFun (Call Failure State Value) fun _ => State → Except Failure Value × State where
  coe := run

/-! ### The primitive calls -/

/-- Return a value and leave the state alone. -/
def ok (value : Value) : Call Failure State Value where
  run state := (.ok value, state)

/-- Fail and leave the state alone. -/
def fail (failure : Failure) : Call Failure State Value where
  run state := (.error failure, state)

/-- Run one call and, when it succeeds, the next one on the state it left. -/
def andThen (call : Call Failure State Value) (next : Value → Call Failure State Next) :
    Call Failure State Next where
  run state :=
    match call state with
    | (.ok value, after) => next value after
    | (.error failure, after) => (.error failure, after)

instance : Monad (Call Failure State) where
  pure := ok
  bind := andThen

/-- The whole state. -/
def state : Call Failure State State where
  run state := (.ok state, state)

/-- Change the state. -/
def change (step : State → State) : Call Failure State Unit where
  run state := (.ok (), step state)

/-- A result computed outside the state. -/
def lift (result : Except Failure Value) : Call Failure State Value where
  run state := (result, state)

/-- Fail exactly when the condition holds. -/
def failWhen (condition : Prop) [Decidable condition] (failure : Failure) :
    Call Failure State Unit :=
  if condition then fail failure else ok ()

/-- Run a call and hand its result, success or failure, to the caller. -/
def attempt (call : Call Failure State Value) : Call Failure State (Except Failure Value) where
  run state := (.ok (call state).1, (call state).2)

/-- Run a call and then a clean-up step, also when the call failed. -/
def closing (call : Call Failure State Value) (last : State → State) :
    Call Failure State Value where
  run state := ((call state).1, last (call state).2)

/-- Run a call on a component of a larger state. -/
def within {Whole : Type} (part : Whole → State) (replace : State → Whole → Whole)
    (call : Call Failure State Value) : Call Failure Whole Value where
  run whole := ((call (part whole)).1, replace (call (part whole)).2 whole)

variable (value : Value) (before : State)

@[simp] theorem pure_apply :
    (pure value : Call Failure State Value) before = (.ok value, before) := rfl

@[simp] theorem ok_apply : (ok value : Call Failure State Value) before = (.ok value, before) := rfl

@[simp] theorem fail_apply (failure : Failure) (before : State) :
    (fail failure : Call Failure State Value) before = (.error failure, before) := rfl

@[simp] theorem state_apply :
    (state : Call Failure State State) before = (.ok before, before) := rfl

@[simp] theorem change_apply (step : State → State) (before : State) :
    (change step : Call Failure State Unit) before = (.ok (), step before) := rfl

variable (result : Except Failure Value)

@[simp] theorem lift_apply (before : State) :
    (lift result : Call Failure State Value) before = (result, before) := rfl

variable (call : Call Failure State Value)

@[simp] theorem attempt_apply (before : State) :
    attempt call before = (.ok (call before).1, (call before).2) := rfl

@[simp] theorem closing_apply (last : State → State)
    (before : State) : closing call last before = ((call before).1, last (call before).2) := rfl

variable {Whole : Type}

@[simp] theorem within_apply (part : Whole → State) (replace : State → Whole → Whole)
    (call : Call Failure State Value) (whole : Whole) : within part replace call whole =
      ((call (part whole)).1, replace (call (part whole)).2 whole) := rfl

variable (condition : Prop)

@[simp] theorem failWhen_apply [Decidable condition] (failure : Failure) (before : State) :
    (failWhen condition failure : Call Failure State Unit) before =
      if condition then (.error failure, before) else (.ok (), before) := by
  unfold failWhen
  split <;> rfl

theorem ite_apply [Decidable condition] (first second : Call Failure State Value) (before : State) :
    (if condition then first else second) before =
      if condition then first before else second before := by
  split <;> rfl

/-- A sequence runs its second call exactly when the first one succeeds. -/
theorem bind_apply (next : Value → Call Failure State Next) (before : State) :
    (call >>= next) before =
      match call before with
      | (.ok value, after) => next value after
      | (.error failure, after) => (.error failure, after) := rfl

variable {call : Call Failure State Value} {before after : State} {value : Value}

theorem bind_of_ok {next : Value → Call Failure State Next}
    (result : call before = (.ok value, after)) : (call >>= next) before = next value after := by
  rw [bind_apply, result]

variable {failure : Failure}

theorem bind_of_error {next : Value → Call Failure State Next}
    (result : call before = (.error failure, after)) :
    (call >>= next) before = (.error failure, after) := by
  rw [bind_apply, result]

@[simp] theorem bind_state (next : State → Call Failure State Next) (before : State) :
    (state >>= next) before = next before before := rfl

@[simp] theorem bind_change (step : State → State) (next : Unit → Call Failure State Next)
    (before : State) : (change step >>= next) before = next () (step before) := rfl

@[simp] theorem bind_pure (value : Value) (next : Value → Call Failure State Next)
    (before : State) : (pure value >>= next) before = next value before := rfl

@[simp] theorem bind_failWhen [Decidable condition] (failure : Failure)
    (next : Unit → Call Failure State Next) (before : State) :
    (failWhen condition failure >>= next) before =
      if condition then (.error failure, before) else next () before := by
  rw [bind_apply, failWhen_apply]
  by_cases holds : condition
  · rw [if_pos holds, if_pos holds]
  · rw [if_neg holds, if_neg holds]

@[simp] theorem bind_lift_ok (value : Value) (next : Value → Call Failure State Next)
    (before : State) : (lift (.ok value) >>= next) before = next value before := rfl

@[simp] theorem bind_lift_error (failure : Failure) (next : Value → Call Failure State Next)
    (before : State) : (lift (.error failure) >>= next) before = (.error failure, before) := rfl

@[simp] theorem bind_attempt (call : Call Failure State Value)
    (next : Except Failure Value → Call Failure State Next) (before : State) :
    (attempt call >>= next) before = next (call before).1 (call before).2 := rfl

/-- The two ways a sequence can end. -/
theorem bind_cases {next : Value → Call Failure State Next} {result : Except Failure Next}
    (run : (call >>= next) before = (result, after)) :
    (∃ value middle, call before = (.ok value, middle) ∧ next value middle = (result, after)) ∨
      ∃ failure, call before = (.error failure, after) ∧ result = .error failure := by
  rw [bind_apply] at run
  rcases outcome : call before with ⟨failure | value, middle⟩
  · rw [outcome] at run
    cases run
    exact .inr ⟨failure, rfl, rfl⟩
  · rw [outcome] at run
    exact .inl ⟨value, middle, rfl, run⟩

/-- A sequence succeeds only when both of its calls do. -/
theorem bind_ok_cases {next : Value → Call Failure State Next} {final : Next}
    (run : (call >>= next) before = (.ok final, after)) :
    ∃ value middle, call before = (.ok value, middle) ∧ next value middle = (.ok final, after) := by
  rcases bind_cases run with succeeded | ⟨failure, _, impossible⟩
  · exact succeeded
  · cases impossible

/-! ### What a call keeps -/

/-- The relation holds between the state before the call and the state after it. -/
def Keeps (relation : State → State → Prop) (call : Call Failure State Value) : Prop :=
  ∀ before, relation before (call before).2

variable {condition : Prop} {first second : Call Failure State Value} {Item : Type}

section Keeps

variable {relation : State → State → Prop}

theorem keeps_change {step : State → State} (single : ∀ before, relation before (step before)) :
    Keeps relation (change step : Call Failure State Unit) := single

theorem keeps_ok [Std.Refl relation] (value : Value) :
    Keeps relation (ok value : Call Failure State Value) := fun before => refl before

theorem keeps_pure [Std.Refl relation] (value : Value) :
    Keeps relation (pure value : Call Failure State Value) := fun before => refl before

theorem keeps_fail [Std.Refl relation] (failure : Failure) :
    Keeps relation (fail failure : Call Failure State Value) :=
  fun before => refl before

theorem keeps_state [Std.Refl relation] :
    Keeps relation (state : Call Failure State State) := fun before => refl before

theorem keeps_lift [Std.Refl relation] : Keeps relation (lift result : Call Failure State Value) :=
  fun before => refl before

theorem keeps_failWhen [Std.Refl relation] (condition : Prop) [Decidable condition]
    (failure : Failure) :
    Keeps relation (failWhen condition failure : Call Failure State Unit) := fun before => by
  rw [failWhen_apply]
  split <;> exact refl before

theorem keeps_bind [IsTrans State relation] {next : Value → Call Failure State Next}
    (first : Keeps relation call)
    (second : ∀ value, Keeps relation (next value)) : Keeps relation (call >>= next) :=
  fun before => by
    have step := first before
    rw [bind_apply]
    rcases outcome : call before with ⟨failure | value, middle⟩
    · rwa [outcome] at step
    · rw [outcome] at step
      exact Trans.trans step (second value middle)

theorem keeps_state_bind [Std.Refl relation] [IsTrans State relation]
    {next : State → Call Failure State Next} (rest : ∀ before, Keeps relation (next before)) :
    Keeps relation (state >>= next) := keeps_bind keeps_state rest

theorem keeps_lift_bind [Std.Refl relation] [IsTrans State relation] {result : Except Failure Value}
    {next : Value → Call Failure State Next} (rest : ∀ value, Keeps relation (next value)) :
    Keeps relation (lift result >>= next) := keeps_bind (keeps_lift result) rest

theorem keeps_failWhen_bind [Std.Refl relation] [IsTrans State relation] [Decidable condition]
    {failure : Failure} {next : Unit → Call Failure State Next}
    (rest : ∀ done, Keeps relation (next done)) :
    Keeps relation (failWhen condition failure >>= next) :=
  keeps_bind (keeps_failWhen condition failure) rest

theorem keeps_ite [Decidable condition] (holds : Keeps relation first)
    (fails : Keeps relation second) : Keeps relation (if condition then first else second) := by
  split
  · exact holds
  · exact fails

theorem keeps_attempt (keeps : Keeps relation call) : Keeps relation (attempt call) := keeps

theorem keeps_closing [IsTrans State relation] {last : State → State} (keeps : Keeps relation call)
    (final : ∀ before, relation before (last before)) : Keeps relation (closing call last) :=
  fun before => IsTrans.trans _ _ _ (keeps before) (final _)

theorem keeps_within {part : Whole → State} {replace : State → Whole → Whole}
    {outer : Whole → Whole → Prop} (keeps : Keeps relation call)
    (lifts : ∀ whole after, relation (part whole) after → outer whole (replace after whole)) :
    Keeps outer (within part replace call) := fun whole => lifts whole _ (keeps (part whole))

/-- A loop keeps what each of its rounds keeps. -/
theorem foldl_keeps [Std.Refl relation] [IsTrans State relation] {step : State → Item → State}
    (single : ∀ before item, relation before (step before item)) (items : List Item)
    (before : State) : relation before (items.foldl step before) := by
  induction items generalizing before with
  | nil => exact refl before
  | cons item rest hypothesis =>
    exact Trans.trans (single before item) (hypothesis _)

end Keeps

/-! ### What a call keeps from a given state on -/

/-- The relation holds between this state and the one the call leaves. Where a later step
relies on what an earlier one looked up, the argument starts from the state at hand. -/
def KeepsFrom (relation : State → State → Prop) (before : State)
    (call : Call Failure State Value) : Prop := relation before (call before).2

variable {result : Except Failure Value}

section KeepsFrom

variable {relation : State → State → Prop} {before : State}

theorem Keeps.keepsFrom (keeps : Keeps relation call) :
    KeepsFrom relation before call := keeps before

theorem keeps_of_keepsFrom
    (anywhere : ∀ start, KeepsFrom relation start call) : Keeps relation call := anywhere

theorem keepsFrom_pure [Std.Refl relation] (value : Value) :
    KeepsFrom relation before (pure value : Call Failure State Value) := refl before

theorem keepsFrom_fail [Std.Refl relation] (failure : Failure) :
    KeepsFrom relation before (fail failure : Call Failure State Value) := refl before

theorem keepsFrom_state {next : State → Call Failure State Next}
    (rest : KeepsFrom relation before (next before)) :
    KeepsFrom relation before (state >>= next) := rest

theorem keepsFrom_lift [Std.Refl relation] {next : Value → Call Failure State Next}
    (rest : ∀ value, result = .ok value → KeepsFrom relation before (next value)) :
    KeepsFrom relation before (lift result >>= next) := by
  cases result with
  | ok value => exact rest value rfl
  | error failure => exact refl before

theorem keepsFrom_failWhen [Std.Refl relation] [Decidable condition]
    {next : Unit → Call Failure State Next}
    (rest : ¬ condition → KeepsFrom relation before (next ())) :
    KeepsFrom relation before (failWhen condition failure >>= next) := by
  unfold KeepsFrom
  rw [bind_failWhen]
  split
  · exact refl before
  · rename_i passes
    exact rest passes

theorem keepsFrom_bind [IsTrans State relation] {next : Value → Call Failure State Next}
    (first : KeepsFrom relation before call)
    (rest : ∀ value after, call before = (.ok value, after) → KeepsFrom relation after (next value)) :
    KeepsFrom relation before (call >>= next) := by
  unfold KeepsFrom at first ⊢
  rw [bind_apply]
  rcases outcome : call before with ⟨failure | value, middle⟩
  · rwa [outcome] at first
  · rw [outcome] at first
    exact Trans.trans first (rest value middle outcome)

theorem keepsFrom_change {step : State → State} (single : relation before (step before)) :
    KeepsFrom relation before (change step : Call Failure State Unit) := single

theorem keepsFrom_change_bind [IsTrans State relation] {step : State → State}
    {next : Unit → Call Failure State Next} (single : relation before (step before))
    (rest : KeepsFrom relation (step before) (next ())) :
    KeepsFrom relation before (change step >>= next) := IsTrans.trans _ _ _ single rest

theorem keepsFrom_attempt [IsTrans State relation]
    {next : Except Failure Value → Call Failure State Next} (first : KeepsFrom relation before call)
    (rest : KeepsFrom relation (call before).2 (next (call before).1)) :
    KeepsFrom relation before (attempt call >>= next) := IsTrans.trans _ _ _ first rest

theorem keepsFrom_ite [Decidable condition] (holds : condition → KeepsFrom relation before first)
    (fails : ¬ condition → KeepsFrom relation before second) :
    KeepsFrom relation before (if condition then first else second) := by
  split
  · rename_i true
    exact holds true
  · rename_i false
    exact fails false

end KeepsFrom

/-! ### What a call ends in -/

/-- The result of the call and the state it leaves satisfy the postcondition. -/
def Yields (post : Except Failure Value → State → Prop) (before : State)
    (call : Call Failure State Value) : Prop := post (call before).1 (call before).2

section Yields

variable {post : Except Failure Value → State → Prop} {before : State}

theorem yields_pure (holds : post (.ok value) before) :
    Yields post before (pure value : Call Failure State Value) := holds

theorem yields_pure_bind {value : Next} {next : Next → Call Failure State Value}
    (rest : Yields post before (next value)) :
    Yields post before ((pure value : Call Failure State Next) >>= next) := rest

theorem yields_fail (holds : post (.error failure) before) :
    Yields post before (fail failure : Call Failure State Value) := holds

theorem yields_state {next : State → Call Failure State Value}
    (rest : Yields post before (next before)) : Yields post before (state >>= next) := rest

theorem yields_lift {result : Except Failure Next} {next : Next → Call Failure State Value}
    (fails : ∀ failure, result = .error failure → post (.error failure) before)
    (rest : ∀ value, result = .ok value → Yields post before (next value)) :
    Yields post before (lift result >>= next) := by
  cases result with
  | ok value => exact rest value rfl
  | error failure => exact fails failure rfl

theorem yields_failWhen [Decidable condition] {next : Unit → Call Failure State Value}
    (fails : condition → post (.error failure) before)
    (rest : ¬ condition → Yields post before (next ())) :
    Yields post before (failWhen condition failure >>= next) := by
  unfold Yields
  rw [bind_failWhen]
  split
  · rename_i holds
    exact fails holds
  · rename_i passes
    exact rest passes

theorem yields_change {step : State → State} {next : Unit → Call Failure State Value}
    (rest : Yields post (step before) (next ())) : Yields post before (change step >>= next) := rest

theorem yields_attempt {call : Call Failure State Next}
    {next : Except Failure Next → Call Failure State Value}
    (rest : Yields post (call before).2 (next (call before).1)) :
    Yields post before (attempt call >>= next) := rest

theorem yields_bind {call : Call Failure State Next} {next : Next → Call Failure State Value}
    (fails : ∀ failure after, call before = (.error failure, after) → post (.error failure) after)
    (rest : ∀ value after, call before = (.ok value, after) → Yields post after (next value)) :
    Yields post before (call >>= next) := by
  unfold Yields
  rw [bind_apply]
  rcases outcome : call before with ⟨failure | value, middle⟩
  · exact fails failure middle outcome
  · exact rest value middle outcome

theorem yields_of_ok {call : Call Failure State Next} {next : Next → Call Failure State Value}
    {value : Next} (result : call before = (.ok value, after))
    (rest : Yields post after (next value)) : Yields post before (call >>= next) := by
  unfold Yields
  rwa [bind_of_ok result]

theorem yields_of_error {call : Call Failure State Next} {next : Next → Call Failure State Value}
    (result : call before = (.error failure, after))
    (ended : post (.error failure) after) : Yields post before (call >>= next) := by
  unfold Yields
  rwa [bind_of_error result]

theorem yields_ite [Decidable condition] (holds : condition → Yields post before first)
    (fails : ¬ condition → Yields post before second) :
    Yields post before (if condition then first else second) := by
  split
  · rename_i true
    exact holds true
  · rename_i false
    exact fails false

theorem Yields.imp {weaker : Except Failure Value → State → Prop} (yields : Yields post before call)
    (implies : ∀ result after, post result after → weaker result after) :
    Yields weaker before call := implies _ _ yields

end Yields

/-! ### What a successful call gives -/

/-- Whenever the call succeeds, its value and the state it leaves satisfy the postcondition. -/
def Gives (post : Value → State → Prop) (before : State) (call : Call Failure State Value) : Prop :=
  ∀ value after, call before = (.ok value, after) → post value after

section Gives

variable {post : Value → State → Prop} {before : State}

theorem gives_pure (holds : post value before) :
    Gives post before (pure value : Call Failure State Value) := by
  intro given after result
  cases result
  exact holds

theorem gives_fail (failure : Failure) :
    Gives post before (fail failure : Call Failure State Value) := by
  intro value after result
  cases result

theorem gives_state {next : State → Call Failure State Value}
    (rest : Gives post before (next before)) : Gives post before (state >>= next) := rest

theorem gives_change {step : State → State} {next : Unit → Call Failure State Value}
    (rest : Gives post (step before) (next ())) : Gives post before (change step >>= next) := rest

theorem gives_lift {result : Except Failure Next} {next : Next → Call Failure State Value}
    (rest : ∀ value, result = .ok value → Gives post before (next value)) :
    Gives post before (lift result >>= next) := by
  cases result with
  | ok value => exact rest value rfl
  | error failure => exact gives_fail failure

theorem gives_failWhen [Decidable condition] {next : Unit → Call Failure State Value}
    (rest : ¬ condition → Gives post before (next ())) :
    Gives post before (failWhen condition failure >>= next) := by
  intro value after result
  rw [bind_failWhen] at result
  by_cases holds : condition
  · rw [if_pos holds] at result
    cases result
  · rw [if_neg holds] at result
    exact rest holds value after result

theorem gives_bind {middle : Next → State → Prop} {call : Call Failure State Next}
    {next : Next → Call Failure State Value} (first : Gives middle before call)
    (rest : ∀ value after, middle value after → Gives post after (next value)) :
    Gives post before (call >>= next) := by
  intro final last result
  obtain ⟨value, after, succeeded, continued⟩ := bind_ok_cases result
  exact rest value after (first value after succeeded) final last continued

theorem gives_ite [Decidable condition] (holds : condition → Gives post before first)
    (fails : ¬ condition → Gives post before second) :
    Gives post before (if condition then first else second) := by
  split
  · rename_i true
    exact holds true
  · rename_i false
    exact fails false

theorem Gives.imp {weaker : Value → State → Prop} (gives : Gives post before call)
    (implies : ∀ value after, post value after → weaker value after) : Gives weaker before call :=
  fun value after result => implies value after (gives value after result)

/-- What each round of a loop gives, and later rounds do not undo, the whole loop gives for every
item. -/
theorem gives_forM {invariant : State → Prop} {relation : State → State → Prop} [Std.Refl relation]
    [IsTrans State relation] {post : Item → State → Prop} {round : Item → Call Failure State Unit}
    {items : List Item}
    (stable : ∀ item before after, relation before after → post item before → post item after)
    (single : ∀ item ∈ items, ∀ before, invariant before →
      Gives (fun _ after => invariant after ∧ relation before after ∧ post item after) before
        (round item)) (sound : invariant before) :
    Gives (fun _ after => invariant after ∧ relation before after ∧ ∀ item ∈ items, post item after)
      before (items.forM round) := by
  induction items generalizing before with
  | nil => exact gives_pure ⟨sound, refl before, fun _ member => absurd member not_mem_nil⟩
  | cons item rest hypothesis =>
    refine gives_bind (single item mem_cons_self before sound) fun _ middle first => ?_
    obtain ⟨kept, step, holds⟩ := first
    refine (hypothesis (fun other member => single other (mem_cons_of_mem _ member))
      kept).imp fun _ after last => ?_
    obtain ⟨final, steps, others⟩ := last
    refine ⟨final, Trans.trans step steps, fun other member => ?_⟩
    rcases mem_cons.mp member with rfl | later
    · exact stable other middle after steps holds
    · exact others other later

end Gives

/-! ### What a call does not fail with -/

/-- The call does not fail in this way from any state. -/
def Avoids (failure : Failure) (call : Call Failure State Value) : Prop :=
  ∀ before, (call before).1 ≠ .error failure

section Avoids

variable {failure : Failure}

theorem avoids_pure (value : Value) : Avoids failure (pure value : Call Failure State Value) :=
  fun _ same => by cases same

theorem avoids_fail {other : Failure} (different : other ≠ failure) :
    Avoids failure (fail other : Call Failure State Value) :=
  fun _ same => different (Except.error.inj same)

theorem avoids_state {next : State → Call Failure State Next}
    (rest : ∀ before, Avoids failure (next before)) : Avoids failure (state >>= next) :=
  fun before => rest before before

theorem avoids_change (step : State → State) :
    Avoids failure (change step : Call Failure State Unit) := fun _ same => by cases same

theorem avoids_lift {next : Value → Call Failure State Next} (passes : result ≠ .error failure)
    (rest : ∀ value, result = .ok value → Avoids failure (next value)) :
    Avoids failure (lift result >>= next) := by
  intro before same
  cases result with
  | ok value => exact rest value rfl before same
  | error other => exact passes (congrArg Except.error (Except.error.inj same))

theorem avoids_bind {next : Value → Call Failure State Next} (first : Avoids failure call)
    (rest : ∀ value, Avoids failure (next value)) : Avoids failure (call >>= next) := by
  intro before same
  rcases bind_cases (Prod.ext same rfl) with ⟨value, middle, -, run⟩ | ⟨other, run, isOther⟩
  · exact rest value middle (congrArg Prod.fst run)
  · have same := congrArg (@Except.error Failure Value) (Except.error.inj isOther).symm
    exact first before ((congrArg Prod.fst run).trans same)

theorem avoids_ite [Decidable condition] (holds : condition → Avoids failure first)
    (fails : ¬ condition → Avoids failure second) :
    Avoids failure (if condition then first else second) := by
  split
  · rename_i true
    exact holds true
  · rename_i false
    exact fails false

theorem avoids_failWhen [Decidable condition] {other : Failure} (different : other ≠ failure) :
    Avoids failure (failWhen condition other : Call Failure State Unit) :=
  avoids_ite (fun _ => avoids_fail different) fun _ => avoids_pure ()

theorem avoids_attempt {next : Except Failure Value → Call Failure State Next}
    (first : Avoids failure call)
    (rest : ∀ result, result ≠ .error failure → Avoids failure (next result)) :
    Avoids failure (attempt call >>= next) := fun before => rest _ (first before) _

theorem avoids_forM {items : List Item} {round : Item → Call Failure State Unit}
    (single : ∀ item ∈ items, Avoids failure (round item)) : Avoids failure (items.forM round) := by
  induction items with
  | nil => exact avoids_pure ()
  | cons item rest hypothesis =>
    exact avoids_bind (single item mem_cons_self) fun _ =>
      hypothesis fun other member => single other (mem_cons_of_mem _ member)

end Avoids

/-! ### Calls that fail without a trace -/

/-- If the call fails on this state, it leaves the state as it was. -/
def Atomic (call : Call Failure State Value) (before : State) : Prop :=
  ∀ failure after, call before = (.error failure, after) → after = before

section Atomic

variable {before : State}

theorem atomic_of_ok {call : Call Failure State Value} {value : Value} {after : State}
    (result : call before = (.ok value, after)) : Atomic call before := by
  intro failure final failed
  rw [result] at failed
  cases congrArg Prod.fst failed

theorem atomic_of_error {call : Call Failure State Value} {failure : Failure}
    (result : call before = (.error failure, before)) : Atomic call before := by
  intro other final failed
  rw [result] at failed
  exact (congrArg Prod.snd failed).symm

theorem not_atomic_of_error {call : Call Failure State Value} {failure : Failure} {after : State}
    (result : call before = (.error failure, after)) (changed : after ≠ before) :
    ¬ Atomic call before := fun atomic => changed (atomic failure after result)

theorem atomic_change (step : State → State) : Atomic (change step : Call Failure State Unit) before :=
  atomic_of_ok rfl

theorem atomic_state {next : State → Call Failure State Value} (rest : Atomic (next before) before) :
    Atomic (state >>= next) before := rest

theorem atomic_lift {next : Value → Call Failure State Next}
    (rest : ∀ value, result = .ok value → Atomic (next value) before) :
    Atomic (lift result >>= next) before := by
  cases result with
  | ok value => exact rest value rfl
  | error failure => exact atomic_of_error rfl

theorem atomic_failWhen [Decidable condition] {next : Unit → Call Failure State Value}
    (rest : ¬ condition → Atomic (next ()) before) :
    Atomic (failWhen condition failure >>= next) before := by
  by_cases holds : condition
  · exact atomic_of_error (by rw [bind_failWhen, if_pos holds])
  · intro other final failed
    rw [bind_failWhen, if_neg holds] at failed
    exact rest holds other final failed

/-- What comes last cannot fail. -/
theorem atomic_bind_pure {result : Value → Next} (atomic : Atomic call before) :
    Atomic (call >>= fun value => (pure (result value) : Call Failure State Next)) before := by
  intro failure final failed
  rw [bind_apply] at failed
  rcases outcome : call before with ⟨refusal | value, after⟩
  · rw [outcome] at failed
    obtain rfl : after = final := congrArg Prod.snd failed
    exact atomic _ _ outcome
  · rw [outcome] at failed
    cases congrArg Prod.fst failed

end Atomic

/-! ### Two runs side by side -/

/-- From the two states the calls have the same result and end in related states. -/
def Agree (relation : State → State → Prop) (first second : State)
    (call other : Call Failure State Value) : Prop :=
  (call first).1 = (other second).1 ∧ relation (call first).2 (other second).2

section Agree

variable {relation : State → State → Prop} {first second : State}

theorem agree_pure (related : relation first second) :
    Agree relation first second (pure value : Call Failure State Value) (pure value) :=
  ⟨rfl, related⟩

theorem agree_fail (related : relation first second) :
    Agree relation first second (fail failure : Call Failure State Value) (fail failure) :=
  ⟨rfl, related⟩

theorem agree_state {next otherNext : State → Call Failure State Value}
    (rest : Agree relation first second (next first) (otherNext second)) :
    Agree relation first second (state >>= next) (state >>= otherNext) := rest

theorem agree_lift {next otherNext : Value → Call Failure State Next}
    (related : relation first second)
    (rest : ∀ value, result = .ok value → Agree relation first second (next value) (otherNext value)) :
    Agree relation first second (lift result >>= next) (lift result >>= otherNext) := by
  cases result with
  | ok value => exact rest value rfl
  | error failure => exact ⟨rfl, related⟩

theorem agree_failWhen [Decidable condition] {next otherNext : Unit → Call Failure State Value}
    (related : relation first second)
    (rest : ¬ condition → Agree relation first second (next ()) (otherNext ())) :
    Agree relation first second (failWhen condition failure >>= next)
      (failWhen condition failure >>= otherNext) := by
  unfold Agree
  rw [bind_failWhen, bind_failWhen]
  by_cases holds : condition
  · rw [if_pos holds, if_pos holds]
    exact ⟨rfl, related⟩
  · rw [if_neg holds, if_neg holds]
    exact rest holds

variable {other : Call Failure State Value}

theorem agree_bind {next otherNext : Value → Call Failure State Next}
    (start : Agree relation first second call other)
    (rest : ∀ value middle otherMiddle, relation middle otherMiddle →
      Agree relation middle otherMiddle (next value) (otherNext value)) :
    Agree relation first second (call >>= next) (other >>= otherNext) := by
  obtain ⟨same, related⟩ := start
  unfold Agree
  rw [bind_apply, bind_apply]
  rcases outcome : call first with ⟨result, middle⟩
  rcases otherOutcome : other second with ⟨otherResult, otherMiddle⟩
  rw [outcome, otherOutcome] at same related
  dsimp only at same related
  subst same
  cases result with
  | ok value => exact rest value middle otherMiddle related
  | error failure => exact ⟨rfl, related⟩

theorem agree_ite [Decidable condition] {otherCall otherOther : Call Failure State Value}
    (holds : condition → Agree relation first second call otherCall)
    (fails : ¬ condition → Agree relation first second other otherOther) :
    Agree relation first second (if condition then call else other)
      (if condition then otherCall else otherOther) := by
  by_cases decided : condition
  · rw [if_pos decided, if_pos decided]
    exact holds decided
  · rw [if_neg decided, if_neg decided]
    exact fails decided

end Agree

end Call
