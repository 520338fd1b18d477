/-
This file moves the values of an array by one place, with every access checked:
`none` stands for an index out of range. Making room shifts from the end down and
closing a gap shifts from the gap up; both are described on the list that the
array holds.
-/

import Mathlib.Data.List.Induction
import Mathlib.Order.Basic

namespace Shifting

variable {Value : Type}

def write (cells : List Value) (index : Nat) (value : Value) : Option (List Value) :=
  if index < cells.length then some (cells.set index value) else none

/-- The first cells, as many as asked for. -/
def slice (cells : List Value) (length : Nat) : Option (List Value) :=
  if length ≤ cells.length then some (cells.take length) else none

/-- Move the values between the two indices one place up, the last one first. -/
def shiftUp (cells : List Value) (first : Nat) : Nat → Option (List Value)
  | 0 => some cells
  | index + 1 =>
    if first < index + 1 then do
      let value ← cells[index]?
      let moved ← write cells (index + 1) value
      shiftUp moved first index
    else some cells

/-- Move so many values behind an index one place down, the first one first. -/
def shiftDown (cells : List Value) (index : Nat) : Nat → Option (List Value)
  | 0 => some cells
  | remaining + 1 => do
    let value ← cells[index + 1]?
    let moved ← write cells index value
    shiftDown moved (index + 1) remaining

theorem write_of_lt {cells : List Value} {index : Nat} (inside : index < cells.length)
    (value : Value) : write cells index value = some (cells.set index value) := if_pos inside

theorem write_append (before after : List Value) (old value : Value) :
    write (before ++ old :: after) before.length value = some (before ++ value :: after) := by
  unfold write
  rw [if_pos (by simp)]
  simp

theorem slice_append (values rest : List Value) : slice (values ++ rest) values.length = some values := by
  unfold slice
  rw [if_pos (by simp)]
  simp

theorem shiftUp_stop (cells : List Value) (first : Nat) : shiftUp cells first first = some cells := by
  cases first with
  | zero => rfl
  | succ first => exact if_neg (Nat.lt_irrefl _)

/-- The values move up and leave one place in front of them. -/
theorem shiftUp_append (left right rest : List Value) (old : Value) :
    ∃ gap, shiftUp (left ++ right ++ old :: rest) left.length (left.length + right.length) =
      some (left ++ gap :: right ++ rest) := by
  induction right using List.reverseRecOn generalizing old rest with
  | nil =>
    refine ⟨old, ?_⟩
    rw [List.append_nil]
    simpa using shiftUp_stop (left ++ old :: rest) left.length
  | append_singleton right last hypothesis =>
    obtain ⟨gap, moved⟩ := hypothesis (last :: rest) last
    refine ⟨gap, ?_⟩
    have read : (left ++ (right ++ [last]) ++ old :: rest)[left.length + right.length]? =
        some last := by
      simp
    have written : write (left ++ (right ++ [last]) ++ old :: rest)
        (left.length + right.length + 1) last = some (left ++ right ++ last :: last :: rest) := by
      have place := write_append (left ++ right ++ [last]) rest old last
      simpa [Nat.add_assoc] using place
    rw [List.length_append, List.length_singleton, ← Nat.add_assoc]
    show (if left.length < left.length + right.length + 1 then do
        let value ← (left ++ (right ++ [last]) ++ old :: rest)[left.length + right.length]?
        let moved ← write (left ++ (right ++ [last]) ++ old :: rest)
          (left.length + right.length + 1) value
        shiftUp moved left.length (left.length + right.length)
      else _) = _
    rw [if_pos (by omega), read]
    show (do
      let moved ← write (left ++ (right ++ [last]) ++ old :: rest)
        (left.length + right.length + 1) last
      shiftUp moved left.length (left.length + right.length)) = _
    rw [written]
    show shiftUp (left ++ right ++ last :: last :: rest) left.length
      (left.length + right.length) = _
    rw [moved]
    simp

/-- The values move down over the one in front of them and leave one place behind them. -/
theorem shiftDown_append (left right rest : List Value) (old : Value) :
    ∃ gap, shiftDown (left ++ old :: right ++ rest) left.length right.length =
      some (left ++ right ++ gap :: rest) := by
  induction right generalizing left old with
  | nil => exact ⟨old, by simp [shiftDown]⟩
  | cons first right hypothesis =>
    obtain ⟨gap, moved⟩ := hypothesis (left ++ [first]) first
    refine ⟨gap, ?_⟩
    have read : (left ++ old :: (first :: right) ++ rest)[left.length + 1]? = some first := by
      simp
    have written : write (left ++ old :: (first :: right) ++ rest) left.length first =
        some (left ++ first :: first :: right ++ rest) := by
      have place := write_append left (first :: right ++ rest) old first
      simpa using place
    show (do
      let value ← (left ++ old :: (first :: right) ++ rest)[left.length + 1]?
      let moved ← write (left ++ old :: (first :: right) ++ rest) left.length value
      shiftDown moved (left.length + 1) right.length) = _
    rw [read]
    show (do
      let moved ← write (left ++ old :: (first :: right) ++ rest) left.length first
      shiftDown moved (left.length + 1) right.length) = _
    rw [written]
    show shiftDown (left ++ first :: first :: right ++ rest) (left.length + 1) right.length = _
    rw [List.length_append, List.length_singleton] at moved
    simpa using moved

end Shifting
