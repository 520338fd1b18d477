/-
This file is about ordered lists of extents with a gap between any two of them.
What they cover determines them, and a covered run lies in a single extent, so that
looking at the extents one by one finds a run whenever there is one. Taking space and
giving it back keep the gaps and change the total size by what was taken or given.
-/

import ZigOs.Lib.Extents

namespace Extents

open List

/-- No two extents touch. -/
def Apart (extents : List Extent) : Prop :=
  extents.Pairwise fun first second => first.stop < second.base

/-- The number of addresses in the extents. -/
def totalSize (extents : List Extent) : Nat :=
  (extents.map fun extent => extent.stop - extent.base).sum

variable {unit count limit base : Nat} {extent : Extent} {extents left first second rest : List Extent}

@[simp] theorem totalSize_nil : totalSize [] = 0 := rfl

@[simp] theorem totalSize_cons :
    totalSize (extent :: rest) = (extent.stop - extent.base) + totalSize rest := by
  simp [totalSize]

@[simp] theorem totalSize_append : totalSize (first ++ second) = totalSize first + totalSize second := by
  simp [totalSize]

theorem apart_cons : Apart (extent :: rest) ↔
    (∀ later ∈ rest, extent.stop < later.base) ∧ Apart rest := pairwise_cons

theorem apart_append : Apart (first ++ second) ↔ Apart first ∧ Apart second ∧
    ∀ before ∈ first, ∀ after ∈ second, before.stop < after.base := pairwise_append

/-- An extent between two lists. -/
theorem apart_between (left : Apart first) (nonempty : extent.base < extent.stop) (right : Apart second)
    (before : ∀ earlier ∈ first, earlier.stop < extent.base)
    (after : ∀ later ∈ second, extent.stop < later.base) : Apart (first ++ extent :: second) := by
  refine apart_append.mpr ⟨left, apart_cons.mpr ⟨after, right⟩, fun earlier member later behind => ?_⟩
  rcases mem_cons.mp behind with rfl | inRight
  · exact before earlier member
  · exact (before earlier member).trans (nonempty.trans (after later inRight))

theorem Apart.behind (apart : Apart (extent :: rest)) (address : Nat) (covered : Covered rest address) :
    extent.stop < address := by
  obtain ⟨later, member, starts, -⟩ := covered
  exact ((apart_cons.mp apart).1 later member).trans_le starts

/-- Tidy extents with gaps are determined by what they cover. -/
theorem Apart.unique (apart : Apart first) (tidy : Tidy unit first) (other : Apart second)
    (otherTidy : Tidy unit second)
    (same : ∀ address, Covered first address ↔ Covered second address) : first = second := by
  induction first generalizing second with
  | nil =>
    cases second with
    | nil => rfl
    | cons head tail =>
      have covers := (same head.base).not.mp (by simp)
      exact absurd (covered_cons .. |>.mpr (.inl ⟨le_rfl, (tidy_cons.mp otherTidy).1.nonempty⟩)) covers
  | cons extent rest hypothesis =>
    cases second with
    | nil =>
      have covers := (same extent.base).not.mpr (by simp)
      exact absurd (covered_cons .. |>.mpr (.inl ⟨le_rfl, (tidy_cons.mp tidy).1.nonempty⟩)) covers
    | cons head tail =>
      obtain ⟨aligned, -, tidyRest⟩ := tidy_cons.mp tidy
      obtain ⟨aligned', -, tidyTail⟩ := tidy_cons.mp otherTidy
      obtain ⟨base, stop⟩ := extent
      obtain ⟨base', stop'⟩ := head
      have behind := apart.behind
      have behind' := other.behind
      have nonempty := aligned.nonempty
      have nonempty' := aligned'.nonempty
      simp only [covered_cons, Extent.Covers] at *
      have bases : base = base' := by grind [same base, same base']
      have stops : stop = stop' := by grind [same stop, same stop']
      subst bases stops
      rw [hypothesis (apart_cons.mp apart).2 tidyRest (apart_cons.mp other).2 tidyTail]
      grind

/-- A covered run lies in a single extent. -/
theorem Apart.run (apart : Apart extents) (positive : 0 < count)
    (run : ∀ address, base ≤ address → address < base + count → Covered extents address) :
    ∃ extent ∈ extents, extent.base ≤ base ∧ base + count ≤ extent.stop := by
  obtain ⟨extent, member, covers⟩ := run base le_rfl (by omega)
  refine ⟨extent, member, covers.1, ?_⟩
  by_contra short
  obtain ⟨other, isOther, coversEnd⟩ := run extent.stop covers.2.le (not_le.mp short)
  have separate : other ≠ extent := by
    rintro rfl
    exact absurd coversEnd.2 (lt_irrefl _)
  have oneWay : extents.Pairwise fun first second =>
      first.stop < second.base ∨ second.stop < first.base := apart.imp .inl
  have symmetric : Std.Symm fun first second : Extent =>
      first.stop < second.base ∨ second.stop < first.base := ⟨fun _ _ => Or.symm⟩
  rcases oneWay.forall isOther member separate with below | above
  · exact absurd (coversEnd.2.trans (below.trans_le covers.1)) (not_lt.mpr covers.2.le)
  · exact absurd above (not_lt.mpr coversEnd.1)

/-! ### Taking space -/

theorem takeFirst_apart (tidy : Tidy unit extents) (positive : 0 < count) (multiple : unit ∣ count)
    (apart : Apart extents) (taken : takeFirst count limit extents = some (base, left)) :
    Apart left := by
  induction extents generalizing base left with
  | nil => cases taken
  | cons extent rest hypothesis =>
    obtain ⟨gap, apartRest⟩ := apart_cons.mp apart
    unfold takeFirst at taken
    dsimp only at taken
    split at taken
    · cases (Option.some.inj taken)
      split
      · exact apartRest
      · exact apart_cons.mpr ⟨gap, apartRest⟩
    · split at taken
      · cases taken
      · rename_i found remaining taken'
        cases (Option.some.inj taken)
        have tidyRest := (tidy_cons.mp tidy).2.2
        have spec := takeFirst_taken tidyRest positive multiple taken'
        refine apart_cons.mpr ⟨fun other member => ?_, hypothesis tidyRest apartRest taken'⟩
        obtain ⟨larger, isMember, low, -⟩ := spec.bounded other member
        exact (gap larger isMember).trans_le low

theorem takeFirst_size (taken : takeFirst count limit extents = some (base, left)) :
    totalSize left + count = totalSize extents := by
  induction extents generalizing base left with
  | nil => cases taken
  | cons extent rest hypothesis =>
    unfold takeFirst at taken
    dsimp only at taken
    split at taken
    · cases (Option.some.inj taken)
      split
      · rw [totalSize_cons]
        omega
      · rw [totalSize_cons, totalSize_cons]
        dsimp only
        omega
    · split at taken
      · cases taken
      · rename_i found remaining taken'
        cases (Option.some.inj taken)
        rw [totalSize_cons, totalSize_cons, Nat.add_assoc, hypothesis taken']

theorem takeFirst_none (refused : takeFirst count limit extents = none) (positive : 0 < count)
    (member : extent ∈ extents) : min extent.stop limit < extent.base + count := by
  induction extents with
  | nil => cases member
  | cons head rest hypothesis =>
    unfold takeFirst at refused
    dsimp only at refused
    split at refused
    · cases refused
    · rename_i tooSmall
      split at refused
      · rename_i restRefuses
        rcases mem_cons.mp member with rfl | later
        · omega
        · exact hypothesis restRefuses later
      · cases refused

/-- Nothing is taken only when there is no run of that size below the limit. -/
theorem takeFirst_complete (apart : Apart extents) (positive : 0 < count)
    (refused : takeFirst count limit extents = none) (below : base + count ≤ limit) :
    ¬ ∀ address, base ≤ address → address < base + count → Covered extents address := by
  intro run
  obtain ⟨extent, member, lower, upper⟩ := apart.run positive run
  have tooSmall := takeFirst_none refused positive member
  omega

/-! ### Giving space back -/

/-- When the last extent ends before an address, all of them do. -/
theorem stop_lt_of_last (tidy : Tidy unit extents) (upTo : ∀ extent ∈ extents, extent.stop ≤ base)
    (gap : ∀ last ∈ extents.getLast?, last.stop ≠ base) (member : extent ∈ extents) :
    extent.stop < base := by
  rcases eq_nil_or_concat' extents with rfl | ⟨front, last, rfl⟩
  · cases member
  · obtain ⟨-, tidyLast, ordered⟩ := tidy_append.mp tidy
    have ends : last.stop < base := lt_of_le_of_ne
      (upTo last (mem_append_right _ mem_cons_self)) (gap last (by simp))
    rcases mem_append.mp member with early | isLast
    · exact (ordered extent early last mem_cons_self).trans_lt
        ((tidy_cons.mp tidyLast).1.nonempty.trans ends)
    · rwa [mem_singleton.mp isLast]

/-- When the first extent starts behind an address, all of them do. -/
theorem lt_base_of_head (tidy : Tidy unit extents) (from' : ∀ extent ∈ extents, base ≤ extent.base)
    (gap : ∀ head ∈ extents.head?, head.base ≠ base) (member : extent ∈ extents) :
    base < extent.base := by
  cases extents with
  | nil => cases member
  | cons head rest =>
    obtain ⟨aligned, before, -⟩ := tidy_cons.mp tidy
    have starts : base < head.base :=
      lt_of_le_of_ne (from' head mem_cons_self) (Ne.symm (gap head rfl))
    rcases mem_cons.mp member with rfl | later
    · exact starts
    · exact starts.trans (aligned.nonempty.trans_le (before extent later))

section GiveBack

variable {capacity : Nat}

theorem giveBack_apart (tidy : Tidy unit extents) (positive : 0 < unit) (multiple : unit ∣ base)
    (uncovered : ¬ Covered extents base) (apart : Apart extents)
    (given : giveBack capacity base (base + unit) extents = some left) : Apart left := by
  obtain ⟨below, above, isBelow, isAbove, cases_given⟩ := giveBack_cases given
  have whole : below ++ above = extents := by
    rw [isBelow, isAbove, takeWhile_append_dropWhile]
  have before : ∀ extent ∈ below, extent.stop ≤ base := fun extent member =>
    stop_le_of_below uncovered (isBelow ▸ member)
  have behind : ∀ extent ∈ above, base + unit ≤ extent.base := fun extent member =>
    le_base_of_above tidy multiple uncovered (isAbove ▸ member)
  subst whole
  clear isBelow isAbove given uncovered
  obtain ⟨tidyBelow, tidyAbove, -⟩ := tidy_append.mp tidy
  obtain ⟨apartBelow, apartAbove, across⟩ := apart_append.mp apart
  rcases cases_given with ⟨front, previous, next, back, rfl, rfl, touches, meets, rfl⟩ |
    ⟨front, previous, rfl, touches, gap, rfl⟩ | ⟨next, back, rfl, meets, gap, rfl⟩ |
    ⟨-, gapBelow, gapAbove, rfl⟩
  · obtain ⟨apartFront, -, upTo⟩ := apart_append.mp apartBelow
    obtain ⟨beyond, apartBack⟩ := apart_cons.mp apartAbove
    have startsBelow := ((tidy_cons.mp (tidy_append.mp tidyBelow).2.1).1).nonempty
    have endsAbove := ((tidy_cons.mp tidyAbove).1).nonempty
    refine apart_between apartFront (by dsimp only; omega) apartBack
      (fun earlier member => upTo earlier member previous mem_cons_self) beyond
  · obtain ⟨apartFront, -, upTo⟩ := apart_append.mp apartBelow
    have startsBelow := ((tidy_cons.mp (tidy_append.mp tidyBelow).2.1).1).nonempty
    exact apart_between apartFront (by dsimp only; omega) apartAbove
      (fun earlier member => upTo earlier member previous mem_cons_self)
      fun later => lt_base_of_head tidyAbove behind gap
  · obtain ⟨beyond, apartBack⟩ := apart_cons.mp apartAbove
    have endsAbove := ((tidy_cons.mp tidyAbove).1).nonempty
    exact apart_between apartBelow (by dsimp only; omega) apartBack
      (fun earlier => stop_lt_of_last tidyBelow before gap) beyond
  · exact apart_between apartBelow (by dsimp only; omega) apartAbove
      (fun earlier => stop_lt_of_last tidyBelow before gapBelow)
      fun later => lt_base_of_head tidyAbove behind gapAbove

theorem giveBack_size (tidy : Tidy unit extents) (positive : 0 < unit)
    (given : giveBack capacity base (base + unit) extents = some left) :
    totalSize left = totalSize extents + unit := by
  obtain ⟨below, above, isBelow, isAbove, cases_given⟩ := giveBack_cases given
  have whole : below ++ above = extents := by
    rw [isBelow, isAbove, takeWhile_append_dropWhile]
  subst whole
  obtain ⟨tidyBelow, tidyAbove, -⟩ := tidy_append.mp tidy
  rcases cases_given with ⟨front, previous, next, back, rfl, rfl, touches, meets, rfl⟩ |
    ⟨front, previous, rfl, touches, -, rfl⟩ | ⟨next, back, rfl, meets, -, rfl⟩ | ⟨-, -, -, rfl⟩
  · have startsBelow := ((tidy_cons.mp (tidy_append.mp tidyBelow).2.1).1).nonempty
    have endsAbove := ((tidy_cons.mp tidyAbove).1).nonempty
    simp only [totalSize_append, totalSize_cons, totalSize_nil]
    omega
  · have startsBelow := ((tidy_cons.mp (tidy_append.mp tidyBelow).2.1).1).nonempty
    simp only [totalSize_append, totalSize_cons, totalSize_nil]
    omega
  · have endsAbove := ((tidy_cons.mp tidyAbove).1).nonempty
    simp only [totalSize_append, totalSize_cons]
    omega
  · simp only [totalSize_append, totalSize_cons]
    omega

end GiveBack

end Extents
