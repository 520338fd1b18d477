/-
This file is about the ends of a text that begin a pattern. The longest one is found from the
longest before it by falling back through the borders of the pattern. The borders are found
the same way, with the pattern behind its first item as the text.
-/

import Mathlib.Data.List.Basic

namespace Borders

open List

variable {Item : Type} {pattern text : List Item} {item : Item} {length : Nat}

/-- The first items of the pattern, so many, end the text. -/
def Ends (pattern text : List Item) (length : Nat) : Prop :=
  length ≤ pattern.length ∧ pattern.take length <:+ text

structure Longest (pattern text : List Item) (length : Nat) : Prop where
  ends : Ends pattern text length
  longest : ∀ other, Ends pattern text other → other ≤ length

/-- What ends the text with one more item goes on from an end that is no longer than this one. -/
structure Candidate (pattern text : List Item) (item : Item) (length : Nat) : Prop where
  ends : Ends pattern text length
  longest : ∀ other, Ends pattern (text ++ [item]) (other + 1) → other ≤ length

theorem ends_zero : Ends pattern text 0 := ⟨Nat.zero_le _, nil_suffix⟩

theorem Ends.length_le (ends : Ends pattern text length) : length ≤ text.length := by
  have shorter := ends.2.length_le
  rwa [length_take, Nat.min_eq_left ends.1] at shorter

theorem longest_nil : Longest pattern [] 0 := ⟨ends_zero, fun _ ends => ends.length_le⟩

theorem ends_append : Ends pattern (text ++ [item]) (length + 1) ↔
    Ends pattern text length ∧ pattern[length]? = some item := by
  constructor
  · rintro ⟨below, before, same⟩
    rw [take_add_one, List.getElem?_eq_getElem below, ← append_assoc] at same
    obtain ⟨front, last⟩ := append_inj' same rfl
    rw [List.getElem?_eq_getElem below, (List.cons.inj last).1]
    exact ⟨⟨Nat.le_of_lt below, before, front⟩, rfl⟩
  · rintro ⟨⟨-, before, same⟩, found⟩
    refine ⟨(List.getElem?_eq_some_iff.mp found).1, before, ?_⟩
    rw [take_add_one, found, ← same]
    exact (append_assoc _ _ _).symm

theorem Longest.candidate (longest : Longest pattern text length) (item : Item) :
    Candidate pattern text item length :=
  ⟨longest.ends, fun other ends => longest.longest other (ends_append.mp ends).1⟩

/-- The whole pattern is the longest end exactly when it ends the text. -/
theorem Longest.eq_length_iff (longest : Longest pattern text length) :
    length = pattern.length ↔ pattern <:+ text := by
  constructor
  · intro full
    have ends := longest.ends.2
    rwa [full, take_length] at ends
  · intro whole
    exact Nat.le_antisymm longest.ends.1
      (longest.longest _ ⟨Nat.le_refl _, by rwa [take_length]⟩)

namespace Candidate

theorem hit (candidate : Candidate pattern text item length) (found : pattern[length]? = some item) :
    Longest pattern (text ++ [item]) (length + 1) := by
  refine ⟨ends_append.mpr ⟨candidate.ends, found⟩, fun other ends => ?_⟩
  cases other with
  | zero => exact Nat.zero_le _
  | succ other => exact Nat.succ_le_succ (candidate.longest other ends)

theorem miss (candidate : Candidate pattern text item 0) (missed : pattern[0]? ≠ some item) :
    Longest pattern (text ++ [item]) 0 := by
  refine ⟨ends_zero, fun other ends => ?_⟩
  cases other with
  | zero => exact Nat.le_refl _
  | succ other =>
    obtain rfl := Nat.eq_zero_of_le_zero (candidate.longest other ends)
    exact absurd (ends_append.mp ends).2 missed

/-- A candidate that does not go on is followed by its longest border. -/
theorem fall {border : Nat} (candidate : Candidate pattern text item (length + 1))
    (missed : pattern[length + 1]? ≠ some item)
    (longest : Longest pattern (pattern.tail.take length) border) :
    Candidate pattern text item border := by
  obtain ⟨ends, reaches⟩ := candidate
  have inner : pattern.tail.take length <:+ pattern.take (length + 1) := by
    cases pattern with
    | nil => simp
    | cons first rest => exact suffix_cons _ _
  refine ⟨⟨longest.ends.1, longest.ends.2.trans (inner.trans ends.2)⟩, fun other longer => ?_⟩
  obtain ⟨goesOn, found⟩ := ends_append.mp longer
  have shorter : other < length + 1 := Nat.lt_of_le_of_ne (reaches other longer) fun same =>
    missed (same ▸ found)
  have size : (pattern.take other).length = other := by
    rw [length_take, Nat.min_eq_left goesOn.1]
  refine longest.longest other ⟨goesOn.1, ?_⟩
  have border : pattern.take other <:+ pattern.take (length + 1) :=
    suffix_of_suffix_length_le goesOn.2 ends.2 (by
      rw [size, length_take, Nat.min_eq_left ends.1]
      exact Nat.le_of_lt shorter)
  refine suffix_of_suffix_length_le border inner ?_
  rw [size, length_take, length_tail, Nat.min_eq_left (Nat.le_sub_one_of_lt ends.1)]
  exact Nat.le_of_lt_succ shorter

end Candidate

end Borders
