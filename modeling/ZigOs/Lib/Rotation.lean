/-
This file is about searching a table round and round. The search starts behind a
cursor, goes once round the table and leaves the cursor where it found something.
A place that waits at every search is found before the cursor comes back to
where it was: what is found instead lies before it, and behind the cursor.
-/

import ZigOs.Lib.Scan

namespace Rotation

open Scan

/-- The place so many steps behind the cursor. -/
def place (bound cursor steps : Nat) : Nat := (cursor + steps) % bound

/-- How far it is from one place onwards to another. -/
def distance (bound first second : Nat) : Nat := (bound + second - first) % bound

/-- The number of steps after the first one to the first place that passes the test. -/
def search (bound cursor : Nat) (test : Nat → Bool) : Option Nat :=
  firstIndex bound fun steps => test (place bound cursor (steps + 1))

variable {bound cursor first waiting steps : Nat} {test : Nat → Bool}

theorem place_place (bound cursor steps more : Nat) :
    place bound (place bound cursor steps) more = place bound cursor (steps + more) := by
  unfold place
  rw [Nat.mod_add_mod, Nat.add_assoc]

theorem place_bound (below : cursor < bound) : place bound cursor bound = cursor := by
  unfold place
  rw [Nat.add_mod_right, Nat.mod_eq_of_lt below]

theorem distance_lt (positive : 0 < bound) (first second : Nat) : distance bound first second < bound :=
  Nat.mod_lt _ positive

theorem distance_self (bound first : Nat) : distance bound first first = 0 := by
  unfold distance
  rw [Nat.add_sub_cancel, Nat.mod_self]

/-- Going on by the distance leads there. -/
theorem place_distance (firstBelow : first < bound) (below : waiting < bound) :
    place bound first (distance bound first waiting) = waiting := by
  unfold place distance
  rw [Nat.add_mod_mod, Nat.add_sub_of_le (firstBelow.le.trans (Nat.le_add_right _ _)), Nat.add_mod_left,
    Nat.mod_eq_of_lt below]

theorem distance_pos (firstBelow : first < bound) (below : waiting < bound) (apart : waiting ≠ first) :
    0 < distance bound first waiting := by
  refine Nat.pos_of_ne_zero fun here => apart ?_
  rw [← place_distance firstBelow below, here]
  exact Nat.mod_eq_of_lt firstBelow

theorem distance_place (firstBelow : first < bound) (few : steps < bound) :
    distance bound first (place bound first steps) = steps := by
  unfold place distance
  by_cases wraps : first + steps < bound
  · rw [Nat.mod_eq_of_lt wraps, Nat.add_sub_assoc (Nat.le_add_right _ _), Nat.add_sub_cancel_left,
      Nat.add_mod_left, Nat.mod_eq_of_lt few]
  · have once : (first + steps) % bound = first + steps - bound := by
      rw [Nat.mod_eq_sub_mod (not_lt.mp wraps), Nat.mod_eq_of_lt (by omega)]
    have back : bound + (first + steps - bound) - first = steps := by omega
    rw [once, back, Nat.mod_eq_of_lt few]

/-- Every place is so many steps behind the cursor, and the cursor itself comes last. -/
theorem exists_place (below : waiting < bound) (cursorBelow : cursor < bound) :
    ∃ steps < bound, place bound cursor (steps + 1) = waiting := by
  have there := place_distance cursorBelow below
  rcases isDistance : distance bound cursor waiting with _ | steps
  · rw [isDistance] at there
    refine ⟨bound - 1, by omega, ?_⟩
    rw [Nat.sub_add_cancel (by omega), place_bound cursorBelow, ← there]
    exact (Nat.mod_eq_of_lt cursorBelow).symm
  · have near := distance_lt (Nat.zero_lt_of_lt below) cursor waiting
    rw [isDistance] at there near
    exact ⟨steps, by omega, there⟩

theorem search_eq_none (cursorBelow : cursor < bound) :
    search bound cursor test = none ↔ ∀ place < bound, test place = false := by
  unfold search
  rw [firstIndex_eq_none]
  constructor
  · intro fails waiting below
    obtain ⟨steps, few, rfl⟩ := exists_place below cursorBelow
    exact fails steps few
  · intro fails steps _
    exact fails _ (Nat.mod_lt _ (Nat.zero_lt_of_lt cursorBelow))

/-- A place that is found instead of a waiting one lies between the cursor and that. -/
theorem search_between (firstBelow : first < bound) (cursorBelow : cursor < bound)
    (waitingBelow : waiting < bound)
    (behind : distance bound first cursor < distance bound first waiting) (waits : test waiting = true)
    (found : search bound cursor test = some steps) :
    place bound cursor (steps + 1) = waiting ∨
      (distance bound first cursor < distance bound first (place bound cursor (steps + 1)) ∧
        distance bound first (place bound cursor (steps + 1)) < distance bound first waiting) := by
  have near := distance_lt (Nat.zero_lt_of_lt firstBelow) first waiting
  have onward (more : Nat) : place bound cursor more =
      place bound first (distance bound first cursor + more) := by
    rw [← place_place, place_distance firstBelow cursorBelow]
  obtain ⟨few, -, earlier⟩ := firstIndex_eq_some.mp found
  have reached : distance bound first cursor + (steps + 1) ≤ distance bound first waiting := by
    by_contra beyond
    have passed := earlier (distance bound first waiting - distance bound first cursor - 1) (by omega)
    rw [onward, Nat.sub_add_cancel (by omega), Nat.add_sub_of_le behind.le,
      place_distance firstBelow waitingBelow, waits] at passed
    cases passed
  rw [onward]
  rcases reached.eq_or_lt with here | before
  · exact .inl (by rw [here, place_distance firstBelow waitingBelow])
  · rw [distance_place firstBelow (before.trans near)]
    exact .inr ⟨by omega, before⟩

end Rotation
