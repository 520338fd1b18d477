/-
This file takes checked computations apart: one that went through did so step by
step.
-/

import Mathlib.Logic.Basic

namespace Except

variable {Failure Value Next : Type}

theorem ok_bind (value : Value) (next : Value → Except Failure Next) :
    ((.ok value : Except Failure Value) >>= next) = next value := rfl

/-- A sequence that went through has a first step that did, and the rest after it. -/
theorem of_bind_ok {first : Except Failure Value} {next : Value → Except Failure Next} {final : Next}
    (through : first >>= next = .ok final) :
    ∃ value, first = .ok value ∧ next value = .ok final := by
  cases first with
  | error failure => cases through
  | ok value => exact ⟨value, rfl, through⟩

theorem of_map_ok {step : Value → Next} {first : Except Failure Value} {final : Next}
    (through : step <$> first = .ok final) : ∃ value, first = .ok value ∧ step value = final := by
  cases first with
  | error failure => cases through
  | ok value => exact ⟨value, rfl, Except.ok.inj through⟩

end Except
