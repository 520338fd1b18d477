/-
This file is the arithmetic of unsigned machine integers whose results must fit their
width. A computation either has a value or left its range on the way, and the first
step that does ends it. Each operation has its value exactly when the exact result is
representable.
-/

import Mathlib.Algebra.Group.Nat.Defs

namespace Checked

/-- The result of an operation does not fit. -/
inductive Overflow where
  | overflow
  deriving DecidableEq, Repr

/-- A computation in checked arithmetic. -/
abbrev Outcome (Value : Type) := Except Overflow Value

/-- A result of the given width. -/
def fit (width value : Nat) : Outcome Nat :=
  if value < 2 ^ width then .ok value else .error .overflow

def add (width first second : Nat) : Outcome Nat := fit width (first + second)

def mul (width first second : Nat) : Outcome Nat := fit width (first * second)

def sub (first second : Nat) : Outcome Nat :=
  if second ≤ first then .ok (first - second) else .error .overflow

variable {width first second : Nat} {Value : Type}

theorem add_bind (fits : first + second < 2 ^ width) (next : Nat → Outcome Value) :
    (add width first second >>= next) = next (first + second) := by
  rw [add, fit, if_pos fits]
  rfl

theorem mul_bind (fits : first * second < 2 ^ width) (next : Nat → Outcome Value) :
    (mul width first second >>= next) = next (first * second) := by
  rw [mul, fit, if_pos fits]
  rfl

theorem sub_bind (covers : second ≤ first) (next : Nat → Outcome Value) :
    (sub first second >>= next) = next (first - second) := by
  rw [sub, if_pos covers]
  rfl

theorem add_bind_overflow (exceeds : 2 ^ width ≤ first + second) (next : Nat → Outcome Value) :
    (add width first second >>= next) = .error .overflow := by
  rw [add, fit, if_neg (Nat.not_lt.mpr exceeds)]
  rfl

theorem mul_bind_overflow (exceeds : 2 ^ width ≤ first * second) (next : Nat → Outcome Value) :
    (mul width first second >>= next) = .error .overflow := by
  rw [mul, fit, if_neg (Nat.not_lt.mpr exceeds)]
  rfl

end Checked
