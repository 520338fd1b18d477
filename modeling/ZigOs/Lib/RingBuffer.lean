/-
This file is the arithmetic of a ring of cells. What a ring holds is the list of
the cells from its cursor on, wrapping at the capacity. Copying out of a ring and
into it each take two straight copies, one up to the end of the cells and one
from their beginning.
-/

import Mathlib

namespace RingBuffer

open List

variable {Value : Type}

/-- The values from the cursor on. -/
def contents (capacity : Nat) (cells : Nat → Value) (cursor count : Nat) : List Value :=
  (List.range count).map fun index => cells ((cursor + index) % capacity)

/-- The straight run of cells from one index on. -/
def slice (cells : Nat → Value) (first count : Nat) : List Value :=
  (List.range count).map fun index => cells (first + index)

/-- Cells with a list copied over them from one index on. -/
def overwrite (cells : Nat → Value) (first : Nat) (values : List Value) : Nat → Value := fun index =>
  if first ≤ index then (values[index - first]?).getD (cells index) else cells index

/-- Copy out of the ring in two parts. -/
def copyOut (capacity : Nat) (cells : Nat → Value) (cursor count : Nat) : List Value :=
  let first := min count (capacity - cursor)
  slice cells cursor first ++ slice cells 0 (count - first)

/-- Copy into the ring in two parts. -/
def copyIn (capacity : Nat) (cells : Nat → Value) (cursor : Nat) (values : List Value) :
    Nat → Value :=
  let first := min values.length (capacity - cursor)
  overwrite (overwrite cells cursor (values.take first)) 0 (values.drop first)

@[simp] theorem contents_length (capacity : Nat) (cells : Nat → Value) (cursor count : Nat) :
    (contents capacity cells cursor count).length = count := by
  simp [contents]

theorem contents_getElem? (capacity : Nat) (cells : Nat → Value) {cursor count index : Nat}
    (below : index < count) :
    (contents capacity cells cursor count)[index]? = some (cells ((cursor + index) % capacity)) := by
  simp [contents, below]

@[simp] theorem overwrite_nil (cells : Nat → Value) (first : Nat) :
    overwrite cells first [] = cells := by
  funext index
  simp [overwrite]

variable {capacity : Nat}

/-- The index a ring position has, when the position is at most one lap ahead. -/
theorem mod_lap {position : Nat} (lap : position < 2 * capacity) :
    position % capacity = if position < capacity then position else position - capacity := by
  split
  · rename_i below
    exact Nat.mod_eq_of_lt below
  · rename_i above
    rw [Nat.mod_eq_sub_mod (by omega), Nat.mod_eq_of_lt (by omega)]

/-- The two copies deliver the first values of the ring. -/
theorem copyOut_eq {capacity cursor count : Nat} (cells : Nat → Value) (inside : cursor < capacity)
    (fits : count ≤ capacity) :
    copyOut capacity cells cursor count = contents capacity cells cursor count := by
  apply ext_getElem?
  intro index
  simp only [copyOut, slice, contents]
  by_cases below : index < count
  · rw [getElem?_append]
    have lap := mod_lap (show cursor + index < 2 * capacity by omega)
    simp only [length_map, length_range, getElem?_map]
    split
    · rename_i straight
      rw [getElem?_range straight, getElem?_range below, Option.map_some, Option.map_some,
        lap, if_pos (by omega)]
    · rename_i wrapped
      rw [getElem?_range (by omega), getElem?_range below, Option.map_some,
        Option.map_some, lap, if_neg (by omega)]
      congr 2
      omega
  · rw [getElem?_eq_none (by simp; omega), getElem?_eq_none (by simp; omega)]

variable {cursor count : Nat}

theorem contents_take (capacity : Nat) (cells : Nat → Value) {taken : Nat}
    (enough : taken ≤ count) :
    contents capacity cells cursor taken = (contents capacity cells cursor count).take taken := by
  simp [contents, ← map_take, take_range, enough]

/-- Moving the cursor on drops the values it passes. -/
theorem contents_drop (capacity : Nat) (cells : Nat → Value) (cursor count taken : Nat) :
    contents capacity cells ((cursor + taken) % capacity) (count - taken) =
      (contents capacity cells cursor count).drop taken := by
  apply ext_getElem?
  intro index
  rw [getElem?_drop]
  by_cases below : index < count - taken
  · rw [contents_getElem? _ _ below, contents_getElem? _ _ (by omega)]
    simp [Nat.add_assoc]
  · rw [getElem?_eq_none (by simp; omega), getElem?_eq_none (by simp; omega)]

variable {first index : Nat}

theorem overwrite_of_lt (cells : Nat → Value) (values : List Value)
    (below : index < first) : overwrite cells first values index = cells index := by
  simp [overwrite, Nat.not_le.mpr below]

theorem overwrite_of_ge (cells : Nat → Value) (values : List Value)
    (above : first + values.length ≤ index) : overwrite cells first values index = cells index := by
  unfold overwrite
  split
  · rw [getElem?_eq_none (by omega), Option.getD_none]
  · rfl

theorem overwrite_of_mem (cells : Nat → Value) (values : List Value) (above : first ≤ index)
    (below : index < first + values.length) :
    some (overwrite cells first values index) = values[index - first]? := by
  unfold overwrite
  rw [if_pos above, getElem?_eq_getElem (by omega), Option.getD_some]

variable {offset : Nat}

/-- The cells a copy into the ring reaches hold the copied values. -/
theorem copyIn_written (cells : Nat → Value) (values : List Value) (inside : cursor < capacity)
    (fits : values.length ≤ capacity) (below : offset < values.length) :
    some (copyIn capacity cells cursor values ((cursor + offset) % capacity)) = values[offset]? := by
  have lap := mod_lap (show cursor + offset < 2 * capacity by omega)
  simp only [copyIn]
  rw [lap]
  split
  · rename_i straight
    rw [overwrite_of_ge _ _ (by simp; omega), overwrite_of_mem _ _ (by omega) (by simp; omega),
      getElem?_take_of_lt (by omega)]
    congr 1
    omega
  · rename_i wrapped
    rw [overwrite_of_mem _ _ (by omega) (by simp; omega), getElem?_drop]
    congr 1
    omega

/-- The other cells keep what they held. -/
theorem copyIn_kept (cells : Nat → Value) (values : List Value) (inside : cursor < capacity)
    (above : values.length ≤ offset) (below : offset < capacity) :
    copyIn capacity cells cursor values ((cursor + offset) % capacity) =
      cells ((cursor + offset) % capacity) := by
  have lap := mod_lap (show cursor + offset < 2 * capacity by omega)
  simp only [copyIn]
  rw [lap]
  split
  · rw [overwrite_of_ge _ _ (by simp; omega), overwrite_of_ge _ _ (by simp; omega)]
  · rw [overwrite_of_ge _ _ (by simp; omega), overwrite_of_lt _ _ (by omega)]

/-- A single value fits before the end. -/
theorem copyIn_singleton (cells : Nat → Value) (value : Value) (inside : cursor < capacity) :
    copyIn capacity cells cursor [value] = Function.update cells cursor value := by
  have first : min [value].length (capacity - cursor) = 1 := by simp; omega
  funext index
  simp only [copyIn, first, take_one, drop_one, tail_cons, overwrite_nil, overwrite,
    Function.update_apply]
  by_cases here : index = cursor
  · simp [here]
  · rw [if_neg here]
    split
    · rw [getElem?_eq_none (by simp; omega), Option.getD_none]
    · rfl

/-- Copying in behind the contents appends to them. -/
theorem contents_copyIn (cells : Nat → Value) (values : List Value) (inside : cursor < capacity)
    (fits : count + values.length ≤ capacity) :
    contents capacity (copyIn capacity cells ((cursor + count) % capacity) values) cursor
        (count + values.length) = contents capacity cells cursor count ++ values := by
  have start : (cursor + count) % capacity < capacity := Nat.mod_lt _ (by omega)
  apply ext_getElem?
  intro index
  by_cases below : index < count + values.length
  · rw [contents_getElem? _ _ below, getElem?_append, contents_length]
    split
    · -- An old cell lies behind the copied ones, one lap on.
      rename_i old
      have position : (cursor + index) % capacity =
          ((cursor + count) % capacity + (capacity + index - count)) % capacity := by
        rw [Nat.mod_add_mod, show cursor + count + (capacity + index - count) =
          cursor + index + capacity by omega, Nat.add_mod_right]
      rw [contents_getElem? _ _ old, position, copyIn_kept cells values start (by omega) (by omega)]
    · rename_i new
      have position : (cursor + index) % capacity =
          ((cursor + count) % capacity + (index - count)) % capacity := by
        rw [Nat.mod_add_mod]
        congr 1
        omega
      rw [position, copyIn_written cells values start (by omega) (by omega)]
  · rw [getElem?_eq_none (by simp; omega), getElem?_eq_none (by simp; omega)]

end RingBuffer
