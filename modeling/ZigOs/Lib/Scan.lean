/-
This file holds the linear scans of a bounded table: the first index that
satisfies a test, the number of indices that do, and the index of the least key
below a bound. Tables are functions on the naturals and a scan looks at the
indices below a bound, in increasing order, as a loop over an array does.
-/

import Mathlib

namespace Scan

open List

/-- The first index below the bound that satisfies the test. -/
def firstIndex (bound : Nat) (test : Nat → Bool) : Option Nat := (List.range bound).find? test

/-- The number of indices below the bound that satisfy the test. -/
def countIndex (bound : Nat) (test : Nat → Bool) : Nat := (List.range bound).countP test

/-- The first so many indices below the bound that satisfy the test, if there are that many. -/
def firstIndices (bound count : Nat) (test : Nat → Bool) : Option (List Nat) :=
  let found := ((List.range bound).filter test).take count
  if found.length = count then some found else none

/-- What the indices below the bound list, in order. -/
def listed {Item : Type} (bound : Nat) (entry : Nat → Option Item) : List Item :=
  (List.range bound).filterMap entry

/-- One step of the search for the least key: a tested index replaces the candidate only when
its key is strictly smaller. -/
def leastStep (test : Nat → Bool) (key : Nat → Nat) (best : Option Nat × Nat) (index : Nat) :
    Option Nat × Nat :=
  if test index ∧ key index < best.2 then (some index, key index) else best

/-- The first index below the bound with the least key among those that satisfy the test and
have a key below the limit. -/
def leastIndex (bound : Nat) (test : Nat → Bool) (key : Nat → Nat) (limit : Nat) : Option Nat :=
  ((List.range bound).foldl (leastStep test key) (none, limit)).1

/-! ### The first index -/

variable {bound index : Nat}

theorem firstIndex_eq_some {test : Nat → Bool} : firstIndex bound test = some index ↔
      index < bound ∧ test index = true ∧ ∀ earlier < index, test earlier = false := by
  simp only [firstIndex, find?_range_eq_some, Bool.not_eq_true', mem_range]
  exact ⟨fun ⟨holds, below, first⟩ => ⟨below, holds, first⟩,
    fun ⟨below, holds, first⟩ => ⟨holds, below, first⟩⟩

theorem firstIndex_eq_none {test : Nat → Bool} :
    firstIndex bound test = none ↔ ∀ index < bound, test index = false := by
  simp [firstIndex]

theorem firstIndex_lt {test : Nat → Bool}
    (found : firstIndex bound test = some index) : index < bound :=
  (firstIndex_eq_some.mp found).1

theorem firstIndex_test {bound index : Nat} {test : Nat → Bool}
    (found : firstIndex bound test = some index) : test index = true :=
  (firstIndex_eq_some.mp found).2.1

theorem exists_firstIndex {bound index : Nat} {test : Nat → Bool} (below : index < bound)
    (holds : test index = true) : ∃ first, firstIndex bound test = some first := by
  rcases outcome : firstIndex bound test with _ | first
  · have fails := firstIndex_eq_none.mp outcome index below
    rw [holds] at fails
    cases fails
  · exact ⟨first, rfl⟩

/-! ### The first few indices -/

theorem firstIndices_eq_some {count : Nat} {test : Nat → Bool} {found : List Nat}
    (result : firstIndices bound count test = some found) :
    found.length = count ∧ found.Nodup ∧ ∀ index ∈ found, index < bound ∧ test index = true := by
  simp only [firstIndices, Option.ite_none_right_eq_some, Option.some.injEq] at result
  obtain ⟨enough, rfl⟩ := result
  refine ⟨enough, ?_, fun index member => ?_⟩
  · exact (take_sublist _ _).nodup (nodup_range.filter _)
  · have kept := mem_filter.mp (mem_of_mem_take member)
    exact ⟨mem_range.mp kept.1, kept.2⟩

/-! ### Counting -/

theorem countIndex_congr {first second : Nat → Bool}
    (same : ∀ index < bound, second index = first index) :
    countIndex bound second = countIndex bound first :=
  countP_congr fun index member => by rw [same index (mem_range.mp member)]

theorem countIndex_eq_zero {test : Nat → Bool} :
    countIndex bound test = 0 ↔ ∀ index < bound, test index = false := by
  simp [countIndex, countP_eq_zero]

theorem countIndex_pos (test : Nat → Bool) (below : index < bound)
    (holds : test index = true) : 0 < countIndex bound test :=
  countP_pos_iff.mpr ⟨index, mem_range.mpr below, holds⟩

theorem countIndex_le (bound : Nat) (test : Nat → Bool) : countIndex bound test ≤ bound := by
  have counted : (List.range bound).countP test ≤ (List.range bound).length :=
    countP_le_length
  rwa [length_range] at counted

/-- A count as a sum of ones. -/
theorem countIndex_eq_sum (bound : Nat) (test : Nat → Bool) :
    countIndex bound test = ∑ index ∈ Finset.range bound, (test index).toNat := by
  induction bound with
  | zero => rfl
  | succ bound hypothesis =>
    rw [Finset.sum_range_succ, ← hypothesis]
    simp only [countIndex, range_succ, countP_append, countP_singleton]
    cases test bound <;> rfl

/-- Two sums that differ at one index only. -/
theorem sum_change (first second : Nat → Nat) (below : index < bound)
    (same : ∀ other < bound, other ≠ index → second other = first other) :
    ∑ other ∈ Finset.range bound, second other + first index =
      ∑ other ∈ Finset.range bound, first other + second index := by
  have member := Finset.mem_range.mpr below
  have rest : ∑ other ∈ (Finset.range bound).erase index, second other =
      ∑ other ∈ (Finset.range bound).erase index, first other :=
    Finset.sum_congr rfl fun other inErase => same other
      (Finset.mem_range.mp (Finset.mem_of_mem_erase inErase)) (Finset.ne_of_mem_erase inErase)
  rw [← Finset.add_sum_erase _ first member, ← Finset.add_sum_erase _ second member, rest,
    add_right_comm, add_comm (second index), add_right_comm]

/-- Two counts of tests that differ at one index only. -/
theorem countIndex_change (first second : Nat → Bool) (below : index < bound)
    (same : ∀ other < bound, other ≠ index → second other = first other) :
    countIndex bound second + (first index).toNat = countIndex bound first + (second index).toNat := by
  simp only [countIndex_eq_sum]
  exact sum_change (fun other => (first other).toNat) (fun other => (second other).toNat) below
    fun other otherBelow different => by rw [same other otherBelow different]

/-- A count of a test that two others share out among themselves. -/
theorem countIndex_add (first second both : Nat → Bool)
    (shared : ∀ index < bound, (both index).toNat = (first index).toNat + (second index).toNat) :
    countIndex bound both = countIndex bound first + countIndex bound second := by
  simp only [countIndex_eq_sum, ← Finset.sum_add_distrib]
  exact Finset.sum_congr rfl fun index member => shared index (Finset.mem_range.mp member)

/-! ### Listing -/

section Listing

variable {Item : Type} {bound : Nat} {entry : Nat → Option Item}

theorem listed_eq_nil (none_listed : ∀ index < bound, entry index = none) : listed bound entry = [] :=
  filterMap_eq_nil_iff.mpr fun index member => none_listed index (mem_range.mp member)

/-- An item is listed as often as there are indices that list it. -/
theorem count_listed [DecidableEq Item] (item : Item) :
    (listed bound entry).count item = countIndex bound fun index => entry index == some item :=
  count_filterMap

/-- A single index that lists anything lists the only item. -/
theorem listed_single {item : Item} (below : index < bound) (here : entry index = some item)
    (elsewhere : ∀ other < bound, other ≠ index → entry other = none) :
    listed bound entry = [item] := by
  induction bound with
  | zero => cases below
  | succ bound hypothesis =>
    unfold listed at hypothesis ⊢
    rw [range_succ, filterMap_append]
    obtain rfl | last := eq_or_ne index bound
    · have earlier : (List.range index).filterMap entry = [] :=
        listed_eq_nil fun other less => elsewhere other (Nat.lt_succ_of_lt less) (Nat.ne_of_lt less)
      rw [earlier]
      simp [here]
    · have less : index < bound := by omega
      rw [hypothesis less fun other otherLess => elsewhere other (Nat.lt_succ_of_lt otherLess)]
      simp [elsewhere bound (Nat.lt_succ_self _) (Ne.symm last)]

end Listing

/-! ### The least key -/

theorem leastStep_key_le (test : Nat → Bool) (key : Nat → Nat) (best : Option Nat × Nat)
    (index : Nat) : (leastStep test key best index).2 ≤ best.2 := by
  unfold leastStep
  split
  · rename_i smaller
    exact le_of_lt smaller.2
  · exact le_rfl

theorem foldl_leastStep_le (test : Nat → Bool) (key : Nat → Nat) (indices : List Nat)
    (best : Option Nat × Nat) : (indices.foldl (leastStep test key) best).2 ≤ best.2 := by
  induction indices generalizing best with
  | nil => exact le_rfl
  | cons index rest hypothesis =>
    exact (hypothesis _).trans (leastStep_key_le test key best index)

/-- The search ends with a key no larger than any tested key. -/
theorem foldl_leastStep_least (test : Nat → Bool) (key : Nat → Nat) (indices : List Nat)
    (best : Option Nat × Nat) (index : Nat) (member : index ∈ indices)
    (holds : test index = true) :
    (indices.foldl (leastStep test key) best).2 ≤ key index := by
  induction indices generalizing best with
  | nil => cases member
  | cons head rest hypothesis =>
    rcases mem_cons.mp member with rfl | later
    · refine (foldl_leastStep_le test key rest _).trans ?_
      unfold leastStep
      split
      · exact le_rfl
      · rename_i larger
        exact not_lt.mp fun smaller => larger ⟨holds, smaller⟩
    · exact hypothesis _ later

/-- The search keeps its starting candidate, or ends at a tested index whose key it reports. -/
theorem foldl_leastStep_cases (test : Nat → Bool) (key : Nat → Nat) (indices : List Nat)
    (best : Option Nat × Nat) :
    indices.foldl (leastStep test key) best = best ∨
      ∃ index ∈ indices, test index = true ∧ key index < best.2 ∧
        indices.foldl (leastStep test key) best = (some index, key index) := by
  induction indices generalizing best with
  | nil => exact .inl rfl
  | cons head rest hypothesis =>
    rw [foldl_cons]
    by_cases smaller : test head = true ∧ key head < best.2
    · have step : leastStep test key best head = (some head, key head) := if_pos smaller
      rw [step]
      rcases hypothesis (some head, key head) with same | ⟨index, member, holds, below, final⟩
      · exact .inr ⟨head, mem_cons_self, smaller.1, smaller.2, same⟩
      · exact .inr ⟨index, mem_cons_of_mem _ member, holds, below.trans smaller.2, final⟩
    · have step : leastStep test key best head = best := if_neg smaller
      rw [step]
      rcases hypothesis best with same | ⟨index, member, holds, below, final⟩
      · exact .inl same
      · exact .inr ⟨index, mem_cons_of_mem _ member, holds, below, final⟩

variable {limit : Nat}

/-- A found index is tested, has a key below the limit, and no tested index has a smaller
key. -/
theorem leastIndex_eq_some {test : Nat → Bool} {key : Nat → Nat}
    (found : leastIndex bound test key limit = some index) :
    index < bound ∧ test index = true ∧ key index < limit ∧
      ∀ other < bound, test other = true → key index ≤ key other := by
  unfold leastIndex at found
  rcases foldl_leastStep_cases test key (List.range bound) (none, limit) with
    same | ⟨least, member, holds, below, final⟩
  · rw [same] at found
    cases found
  · rw [final] at found
    cases found
    refine ⟨mem_range.mp member, holds, below, fun other otherBelow otherHolds => ?_⟩
    have least := foldl_leastStep_least test key (List.range bound) (none, limit) other
      (mem_range.mpr otherBelow) otherHolds
    rwa [final] at least

/-- Nothing is found only when every tested index has a key at or above the limit. -/
theorem leastIndex_eq_none {test : Nat → Bool} {key : Nat → Nat}
    (missing : leastIndex bound test key limit = none) :
    ∀ index < bound, test index = true → limit ≤ key index := by
  intro index below holds
  unfold leastIndex at missing
  rcases foldl_leastStep_cases test key (List.range bound) (none, limit) with
    same | ⟨least, _, _, _, final⟩
  · have least := foldl_leastStep_least test key (List.range bound) (none, limit) index
      (mem_range.mpr below) holds
    rwa [same] at least
  · rw [final] at missing
    cases missing

end Scan
