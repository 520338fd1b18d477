/-
This file describes computations over buffers of a fixed size in which every access
is checked: one ends with a result, is refused, or leaves a buffer. A computation is
safe when it does not end in the last way, and its result has a property; the rules
carry this along a sequence.
-/

import Mathlib.Data.List.Basic
import Mathlib.Order.Basic

namespace Buffers

open List

inductive Stop where
  | refused | outOfBounds
  deriving DecidableEq, Repr

abbrev Outcome (Result : Type) := Except Stop Result

variable {Value Result Next : Type}

/-! ### Accesses -/

def read (buffer : List Value) (index : Nat) : Outcome Value :=
  match buffer[index]? with
  | some value => .ok value
  | none => .error .outOfBounds

/-- The values from the first index up to the last. -/
def slice (buffer : List Value) (first last : Nat) : Outcome (List Value) :=
  if first ≤ last ∧ last ≤ buffer.length then .ok ((buffer.take last).drop first)
  else .error .outOfBounds

/-- Copy values into a buffer. -/
def copy (buffer : List Value) (offset : Nat) (values : List Value) : Outcome (List Value) :=
  if offset + values.length ≤ buffer.length then
    .ok (buffer.take offset ++ (values ++ buffer.drop (offset + values.length)))
  else .error .outOfBounds

variable {buffer : List Value} {index : Nat}

theorem read_of_lt (inside : index < buffer.length) : read buffer index = .ok buffer[index] := by
  unfold read
  rw [getElem?_eq_getElem inside]

variable {first last : Nat}

theorem slice_of_le (ordered : first ≤ last)
    (inside : last ≤ buffer.length) : slice buffer first last = .ok ((buffer.take last).drop first) :=
  if_pos ⟨ordered, inside⟩

variable {values : List Value} {offset : Nat}

theorem copy_of_le (fits : offset + values.length ≤ buffer.length) : copy buffer offset values =
      .ok (buffer.take offset ++ (values ++ buffer.drop (offset + values.length))) :=
  if_pos fits

theorem copy_outside (outside : buffer.length < offset + values.length) :
    copy buffer offset values = .error .outOfBounds :=
  if_neg (Nat.not_le.mpr outside)

/-- A copy keeps the size of the buffer. -/
theorem length_copied {copied : List Value}
    (done : copy buffer offset values = .ok copied) : copied.length = buffer.length := by
  unfold copy at done
  split at done
  · rename_i fits
    rw [← Except.ok.inj done]
    simp only [length_append, length_take, length_drop]
    omega
  · cases done

/-- A copy leaves what stands in front of it. -/
theorem getElem?_copied {buffer values copied : List Value} {offset index : Nat}
    (done : copy buffer offset values = .ok copied) (before : index < offset) :
    copied[index]? = buffer[index]? := by
  unfold copy at done
  split at done
  · rename_i fits
    rw [← Except.ok.inj done, getElem?_append_left, getElem?_take_of_lt before]
    rw [length_take]
    omega
  · cases done

theorem getElem?_copied_first {buffer values copied : List Value} {value : Value} {offset : Nat}
    (done : copy buffer offset (value :: values) = .ok copied) : copied[offset]? = some value := by
  unfold copy at done
  split at done
  · rename_i fits
    rw [length_cons] at fits
    have length : (buffer.take offset).length = offset := by
      rw [length_take]
      omega
    rw [← Except.ok.inj done, getElem?_append_right (Nat.le_of_eq length), length, Nat.sub_self]
    rfl
  · cases done

theorem length_sliced {sliced : List Value}
    (done : slice buffer first last = .ok sliced) : sliced.length = last - first := by
  unfold slice at done
  split at done
  · rename_i inside
    rw [← Except.ok.inj done, length_drop, length_take, Nat.min_eq_left inside.2]
  · cases done

/-! ### Computations that end -/

/-- The computation ends with a result that has a property. -/
def Finishes (Holds : Result → Prop) (outcome : Outcome Result) : Prop :=
  ∃ result, outcome = .ok result ∧ Holds result

/-- The computation leaves no buffer, and what it results in has a property. -/
inductive Safe (Holds : Result → Prop) : Outcome Result → Prop
  | done {result : Result} : Holds result → Safe Holds (.ok result)
  | refused : Safe Holds (.error .refused)

section Rules

variable {Holds Weaker : Result → Prop} {Then : Next → Prop} {first : Outcome Result}
  {next : Result → Outcome Next}

theorem Finishes.bind (finishes : Finishes Holds first) (rest : ∀ result, Holds result → Finishes Then (next result)) :
    Finishes Then (first >>= next) := by
  obtain ⟨result, rfl, holds⟩ := finishes
  exact rest result holds

theorem finishes_pure {result : Result} (holds : Holds result) : Finishes Holds (pure result : Outcome Result) :=
  ⟨result, rfl, holds⟩

theorem finishes_read (inside : index < buffer.length) :
    Finishes (· = buffer[index]) (read buffer index) :=
  ⟨_, read_of_lt inside, rfl⟩

theorem finishes_slice {first : Nat} (ordered : first ≤ last) (inside : last ≤ buffer.length) :
    Finishes (fun sliced => sliced = (buffer.take last).drop first ∧ sliced.length = last - first)
      (slice buffer first last) :=
  ⟨_, slice_of_le ordered inside, rfl, length_sliced (slice_of_le ordered inside)⟩

theorem finishes_copy (fits : offset + values.length ≤ buffer.length) :
    Finishes (fun copied => copy buffer offset values = .ok copied ∧ copied.length = buffer.length)
      (copy buffer offset values) :=
  ⟨_, copy_of_le fits, copy_of_le fits, length_copied (copy_of_le fits)⟩

theorem Finishes.safe (finishes : Finishes Holds first) : Safe Holds first := by
  obtain ⟨result, rfl, holds⟩ := finishes
  exact .done holds

theorem Safe.bind (safe : Safe Holds first) (rest : ∀ result, Holds result → Safe Then (next result)) :
    Safe Then (first >>= next) := by
  cases safe with
  | done holds => exact rest _ holds
  | refused => exact .refused

theorem Safe.mono (safe : Safe Holds first) (weaker : ∀ result, Holds result → Weaker result) :
    Safe Weaker first := by
  cases safe with
  | done holds => exact .done (weaker _ holds)
  | refused => exact .refused

end Rules

end Buffers
