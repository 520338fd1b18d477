/-
This file is about a ring that keeps the latest values of a history. The value at
a position of the history stands in the cell with the position's remainder, as
long as fewer values came after it than there are cells.
-/

import Mathlib.Data.List.Basic
import Mathlib.Data.Nat.ModEq

namespace Recent

open List

variable {Value : Type}

/-- The cells hold the latest values of the history. -/
def Retains (capacity : Nat) (cells : Nat → Option Value) (history : List Value) : Prop :=
  ∀ (position : Nat) (value : Value), history[position]? = some value →
    history.length ≤ position + capacity → cells (position % capacity) = some value

variable {capacity : Nat} {cells : Nat → Option Value} {history : List Value} {value : Value}

theorem retains_nil (capacity : Nat) (cells : Nat → Option Value) : Retains capacity cells [] := by
  intro position value found
  cases found

/-- The next value takes the place of the oldest one. -/
theorem Retains.push (retains : Retains capacity cells history) {after : Nat → Option Value}
    (written : after (history.length % capacity) = some value)
    (kept : ∀ index, index ≠ history.length % capacity → after index = cells index) :
    Retains capacity after (history ++ [value]) := by
  intro position other found recent
  rw [length_append, length_singleton] at recent
  rcases Nat.lt_trichotomy position history.length with before | rfl | beyond
  · rw [getElem?_append_left before] at found
    rw [kept _ ?_]
    · exact retains position other found (by omega)
    · intro same
      have apart : history.length - position < capacity := by omega
      have divides := (Nat.modEq_iff_dvd' before.le).mp same
      exact absurd (Nat.le_of_dvd (by omega) divides) (not_le.mpr apart)
  · rw [getElem?_concat_length] at found
    rw [written, found]
  · rw [getElem?_eq_none (by simp; omega)] at found
    cases found

/-- The latest value stands one cell before the next free one. -/
theorem Retains.latest (retains : Retains capacity cells history) (positive : 0 < capacity)
    (last : history.getLast? = some value) :
    cells ((history.length % capacity + capacity - 1) % capacity) = some value := by
  rw [getLast?_eq_getElem?] at last
  have nonempty : 0 < history.length := by
    by_contra empty
    rw [eq_nil_of_length_eq_zero (Nat.eq_zero_of_not_pos empty)] at last
    cases last
  rw [Nat.add_sub_assoc positive, Nat.mod_add_mod,
    show history.length + (capacity - 1) = history.length - 1 + capacity by omega,
    Nat.add_mod_right]
  exact retains _ _ last (by omega)

/-- Counted from the oldest value that is kept. -/
theorem Retains.fromOldest (retains : Retains capacity cells history) {count index : Nat}
    (counted : count = min history.length capacity)
    (found : history[history.length - count + index]? = some value) :
    cells (((history.length % capacity + capacity - count) % capacity + index) % capacity) =
      some value := by
  have few : count ≤ capacity := counted ▸ min_le_right _ _
  have present : count ≤ history.length := counted ▸ min_le_left _ _
  rw [Nat.add_sub_assoc few, Nat.mod_add_mod, Nat.add_assoc, Nat.mod_add_mod, ← Nat.add_assoc,
    show history.length + (capacity - count) + index =
      history.length - count + index + capacity by omega, Nat.add_mod_right]
  exact retains _ _ found (by omega)

end Recent
