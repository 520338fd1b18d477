/-
This file is the insertion sort that the runtime's loops spell out: each value
of a list, taken in order, moves left past the values that are strictly
greater. Sorting permutes, and with an order read off a key the result ascends.
-/

import Mathlib

namespace Sorting

open List

variable {Value : Type}

/-- Insert a value behind those that are not greater. -/
def insertBehind (less : Value → Value → Bool) (value : Value) : List Value → List Value
  | [] => [value]
  | head :: rest =>
    if less value head then value :: head :: rest else head :: insertBehind less value rest

def insertionSort (less : Value → Value → Bool) (values : List Value) : List Value :=
  values.foldl (fun sorted value => insertBehind less value sorted) []

theorem insertBehind_perm (less : Value → Value → Bool) (value : Value) (values : List Value) :
    (insertBehind less value values).Perm (value :: values) := by
  induction values with
  | nil => exact List.Perm.refl _
  | cons head rest hypothesis =>
    unfold insertBehind
    split
    · exact List.Perm.refl _
    · exact (hypothesis.cons head).trans (List.Perm.swap value head rest)

theorem foldl_insertBehind_perm (less : Value → Value → Bool) (values sorted : List Value) :
    (values.foldl (fun sorted value => insertBehind less value sorted) sorted).Perm
      (values ++ sorted) := by
  induction values generalizing sorted with
  | nil => exact List.Perm.refl _
  | cons value rest hypothesis =>
    refine (hypothesis _).trans ?_
    exact ((insertBehind_perm less value sorted).append_left rest).trans perm_middle

theorem insertionSort_perm (less : Value → Value → Bool) (values : List Value) :
    (insertionSort less values).Perm values := by
  have sorted := foldl_insertBehind_perm less values []
  rwa [append_nil] at sorted

@[simp] theorem mem_insertionSort (less : Value → Value → Bool) (values : List Value)
    (value : Value) : value ∈ insertionSort less values ↔ value ∈ values :=
  (insertionSort_perm less values).mem_iff

/-! ### Sorting by a key -/

section Key

variable {Key : Type} [LinearOrder Key] (key : Value → Key)

/-- Inserting a value into an ascending list leaves it ascending. -/
theorem insertBehind_ascends (value : Value) {values : List Value}
    (ascends : values.Pairwise fun first second => key first ≤ key second) :
    (insertBehind (fun first second => decide (key first < key second)) value values).Pairwise
      fun first second => key first ≤ key second := by
  induction values with
  | nil => exact pairwise_singleton _ _
  | cons head rest hypothesis =>
    obtain ⟨least, restAscends⟩ := pairwise_cons.mp ascends
    unfold insertBehind
    split
    · rename_i before
      refine pairwise_cons.mpr ⟨?_, ascends⟩
      intro other member
      have below : key value ≤ key head := (of_decide_eq_true before).le
      rcases mem_cons.mp member with rfl | later
      · exact below
      · exact below.trans (least other later)
    · rename_i behind
      refine pairwise_cons.mpr ⟨?_, hypothesis restAscends⟩
      intro other member
      have notBelow : ¬ key value < key head := fun below => behind (decide_eq_true below)
      rcases mem_cons.mp ((insertBehind_perm _ value rest).mem_iff.mp member) with rfl | later
      · exact not_lt.mp notBelow
      · exact least other later

theorem insertionSort_ascends (values : List Value) :
    (insertionSort (fun first second => decide (key first < key second)) values).Pairwise
      fun first second => key first ≤ key second := by
  have inserted : ∀ sorted : List Value,
      sorted.Pairwise (fun first second => key first ≤ key second) →
      (values.foldl (fun sorted value =>
        insertBehind (fun first second => decide (key first < key second)) value sorted)
        sorted).Pairwise fun first second => key first ≤ key second := by
    induction values with
    | nil => exact fun _ ascends => ascends
    | cons value rest hypothesis =>
      intro sorted ascends
      exact hypothesis _ (insertBehind_ascends key value ascends)
  exact inserted [] List.Pairwise.nil

end Key

end Sorting
