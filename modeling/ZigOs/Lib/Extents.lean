/-
This file is about sets of addresses kept as ordered lists of half-open
extents whose ends are multiples of a unit. Space is taken from the front of
the first extent that has enough of it, and a unit that comes back is merged
with the extents it touches. Both are described by what they do to the set of
covered addresses.
-/

import Mathlib

namespace Extents

open List

structure Extent where
  base : Nat
  stop : Nat
  deriving DecidableEq, Repr

def Extent.Covers (extent : Extent) (address : Nat) : Prop :=
  extent.base ≤ address ∧ address < extent.stop

instance (extent : Extent) (address : Nat) : Decidable (extent.Covers address) :=
  inferInstanceAs (Decidable (_ ∧ _))

/-- Some extent of the list covers the address. -/
def Covered (extents : List Extent) (address : Nat) : Prop :=
  ∃ extent ∈ extents, extent.Covers address

instance (extents : List Extent) (address : Nat) : Decidable (Covered extents address) :=
  inferInstanceAs (Decidable (∃ _ ∈ extents, _))

@[simp] theorem covered_nil (address : Nat) : Covered [] address ↔ False := by simp [Covered]

@[simp] theorem covered_cons (extent : Extent) (rest : List Extent) (address : Nat) :
    Covered (extent :: rest) address ↔ extent.Covers address ∨ Covered rest address := by
  simp [Covered]

@[simp] theorem covered_append (first second : List Extent) (address : Nat) :
    Covered (first ++ second) address ↔ Covered first address ∨ Covered second address := by
  simp [Covered, or_and_right, exists_or]

/-- The extent is not empty and both its ends are multiples of the unit. -/
structure Aligned (unit : Nat) (extent : Extent) : Prop where
  base : unit ∣ extent.base
  stop : unit ∣ extent.stop
  nonempty : extent.base < extent.stop

/-- The extents are aligned and in order. -/
structure Tidy (unit : Nat) (extents : List Extent) : Prop where
  aligned : ∀ extent ∈ extents, Aligned unit extent
  ordered : extents.Pairwise fun first second => first.stop ≤ second.base

variable {address : Nat}

section Tidy

variable {unit : Nat} {extent : Extent} {rest first second : List Extent}

theorem tidy_nil : Tidy unit [] := ⟨nofun, List.Pairwise.nil⟩

theorem tidy_cons : Tidy unit (extent :: rest) ↔
    Aligned unit extent ∧ (∀ later ∈ rest, extent.stop ≤ later.base) ∧ Tidy unit rest := by
  refine ⟨fun tidy => ?_, fun ⟨aligned, before, tidy⟩ => ?_⟩
  · have split := pairwise_cons.mp tidy.ordered
    exact ⟨tidy.aligned _ mem_cons_self, split.1,
      fun later member => tidy.aligned later (mem_cons_of_mem _ member), split.2⟩
  · refine ⟨fun other member => ?_, pairwise_cons.mpr ⟨before, tidy.ordered⟩⟩
    rcases mem_cons.mp member with rfl | later
    · exact aligned
    · exact tidy.aligned other later

theorem tidy_append : Tidy unit (first ++ second) ↔ Tidy unit first ∧ Tidy unit second ∧
      ∀ before ∈ first, ∀ after ∈ second, before.stop ≤ after.base := by
  refine ⟨fun tidy => ?_, fun ⟨left, right, between⟩ => ?_⟩
  · have split := pairwise_append.mp tidy.ordered
    exact ⟨⟨fun extent member => tidy.aligned extent (mem_append_left _ member), split.1⟩,
      ⟨fun extent member => tidy.aligned extent (mem_append_right _ member), split.2.1⟩,
      split.2.2⟩
  · refine ⟨fun extent member => ?_, pairwise_append.mpr ⟨left.ordered, right.ordered, between⟩⟩
    exact (mem_append.mp member).elim (left.aligned extent) (right.aligned extent)

/-- An extent between two tidy lists. -/
theorem tidy_between (left : Tidy unit first) (aligned : Aligned unit extent) (right : Tidy unit second)
    (before : ∀ earlier ∈ first, earlier.stop ≤ extent.base)
    (after : ∀ later ∈ second, extent.stop ≤ later.base) : Tidy unit (first ++ extent :: second) := by
  refine tidy_append.mpr ⟨left, tidy_cons.mpr ⟨aligned, after, right⟩, fun earlier member later behind => ?_⟩
  rcases mem_cons.mp behind with rfl | inRight
  · exact before earlier member
  · exact (before earlier member).trans (aligned.nonempty.le.trans (after later inRight))

/-- An aligned address that is covered has its whole unit covered by the same extent. -/
theorem Aligned.unit_le (aligned : Aligned unit extent) (multiple : unit ∣ address)
    (covers : extent.Covers address) : address + unit ≤ extent.stop := by
  obtain ⟨count, rfl⟩ := multiple
  obtain ⟨size, stop⟩ := aligned.stop
  rw [stop]
  have below : unit * count < unit * size := stop ▸ covers.2
  have fewer : count < size := lt_of_mul_lt_mul_left below (Nat.zero_le unit)
  calc unit * count + unit = unit * (count + 1) := by ring
    _ ≤ unit * size := Nat.mul_le_mul_left unit fewer

end Tidy

/-! ### Taking space -/

/-- Take so many addresses below the limit from the first extent that has them. -/
def takeFirst (count limit : Nat) : List Extent → Option (Nat × List Extent)
  | [] => none
  | extent :: rest =>
    let available := min extent.stop limit
    if extent.base < available ∧ count ≤ available - extent.base then
      some (extent.base,
        if extent.base + count = extent.stop then rest
        else { extent with base := extent.base + count } :: rest)
    else
      match takeFirst count limit rest with
      | none => none
      | some (base, left) => some (base, extent :: left)

/-- What is taken was covered and is not covered any more; nothing else changes. -/
structure Taken (unit : Nat) (extents : List Extent) (base count limit : Nat)
    (left : List Extent) : Prop where
  tidy : Tidy unit left
  multiple : unit ∣ base
  below : base + count ≤ limit
  length : left.length ≤ extents.length
  covered : ∀ address, Covered extents address ↔
    Covered left address ∨ (base ≤ address ∧ address < base + count)
  apart : ∀ address, base ≤ address → address < base + count → ¬ Covered left address
  bounded : ∀ extent ∈ left, ∃ larger ∈ extents, larger.base ≤ extent.base ∧ extent.stop = larger.stop

variable {extents : List Extent}

theorem not_covered_below {bound : Nat} (above : ∀ extent ∈ extents, bound ≤ extent.base)
    (below : address < bound) : ¬ Covered extents address := by
  rintro ⟨extent, member, covers⟩
  exact absurd (above extent member) (not_le.mpr (covers.1.trans_lt below))

variable {left : List Extent}

theorem takeFirst_taken {unit count limit base : Nat} (tidy : Tidy unit extents)
    (positive : 0 < count) (multiple : unit ∣ count)
    (taken : takeFirst count limit extents = some (base, left)) :
    Taken unit extents base count limit left := by
  induction extents generalizing base left with
  | nil => cases taken
  | cons extent rest hypothesis =>
    obtain ⟨aligned, before, tidyRest⟩ := tidy_cons.mp tidy
    unfold takeFirst at taken
    dsimp only at taken
    split at taken
    · rename_i fits
      cases (Option.some.inj taken)
      have inside : extent.base + count ≤ extent.stop := by omega
      have restAbove {address : Nat} (small : address < extent.stop) : ¬ Covered rest address :=
        not_covered_below before small
      split
      · rename_i whole
        refine ⟨tidyRest, aligned.base, by omega, Nat.le_succ _, fun address => ?_,
          fun address _ small => restAbove (by omega), fun other member =>
            ⟨other, mem_cons_of_mem _ member, le_rfl, rfl⟩⟩
        rw [covered_cons, or_comm, Extent.Covers, whole]
      · rename_i piece
        have shrunk : Aligned unit { extent with base := extent.base + count } :=
          ⟨dvd_add aligned.base multiple, aligned.stop, show extent.base + count < extent.stop by omega⟩
        refine ⟨tidy_cons.mpr ⟨shrunk, before, tidyRest⟩, aligned.base, by omega, le_rfl,
          fun address => ?_, fun address low high => ?_, fun other member => ?_⟩
        · simp only [covered_cons, Extent.Covers]
          constructor
          · rintro (here | later)
            · by_cases taken : address < extent.base + count
              · exact .inr ⟨here.1, taken⟩
              · exact .inl (.inl ⟨not_lt.mp taken, here.2⟩)
            · exact .inl (.inr later)
          · rintro ((here | later) | taken)
            · exact .inl ⟨by omega, here.2⟩
            · exact .inr later
            · exact .inl ⟨taken.1, by omega⟩
        · rw [covered_cons]
          rintro (here | later)
          · exact absurd here.1 (not_le.mpr high)
          · exact restAbove (by omega) later
        · rcases mem_cons.mp member with rfl | later
          · exact ⟨extent, mem_cons_self, Nat.le_add_right _ _, rfl⟩
          · exact ⟨other, mem_cons_of_mem _ later, le_rfl, rfl⟩
    · split at taken
      · cases taken
      · rename_i found remaining taken'
        obtain ⟨rfl, rfl⟩ := Prod.mk.inj (Option.some.inj taken)
        have later := hypothesis tidyRest taken'
        have inRest : Covered rest found :=
          (later.covered found).mpr (.inr ⟨le_rfl, by omega⟩)
        have above : extent.stop ≤ found := by
          obtain ⟨other, member, covers⟩ := inRest
          exact (before other member).trans covers.1
        refine ⟨tidy_cons.mpr ⟨aligned, fun other member => ?_, later.tidy⟩, later.multiple,
          later.below, Nat.succ_le_succ later.length, fun address => ?_, fun address low high => ?_,
          fun other member => ?_⟩
        · obtain ⟨larger, isMember, low, -⟩ := later.bounded other member
          exact (before larger isMember).trans low
        · rw [covered_cons, covered_cons, later.covered address, or_assoc]
        · rw [covered_cons]
          rintro (here | there)
          · exact absurd here.2 (not_lt.mpr (above.trans low))
          · exact later.apart address low high there
        · rcases mem_cons.mp member with rfl | isLater
          · exact ⟨other, mem_cons_self, le_rfl, rfl⟩
          · obtain ⟨larger, isMember, bounds⟩ := later.bounded other isLater
            exact ⟨larger, mem_cons_of_mem _ isMember, bounds⟩

/-! ### Giving space back -/

/-- Put an extent back in its place and merge it with the ones it touches. A list that is full
takes no extent that has to stand alone. -/
def giveBack (capacity base stop : Nat) (extents : List Extent) : Option (List Extent) :=
  let below := extents.takeWhile fun extent => extent.base < base
  let above := extents.dropWhile fun extent => extent.base < base
  match below.getLast?.filter fun previous => previous.stop == base,
      above.head?.filter fun next => next.base == stop with
  | some previous, some next => some (below.dropLast ++ { previous with stop := next.stop } :: above.tail)
  | some previous, none => some (below.dropLast ++ { previous with stop } :: above)
  | none, some next => some (below ++ { next with base } :: above.tail)
  | none, none => if extents.length ≥ capacity then none else some (below ++ { base, stop } :: above)

/-- What was given back is covered besides what was covered before. -/
structure Given (unit : Nat) (extents : List Extent) (capacity base : Nat) (left : List Extent) :
    Prop where
  tidy : Tidy unit left
  length : left.length ≤ capacity
  covered : ∀ address, Covered left address ↔
    Covered extents address ∨ (base ≤ address ∧ address < base + unit)

section GiveBack

variable {unit base : Nat} {extents : List Extent}

variable {extent : Extent}

/-- The extents that start below an uncovered address end there or before. -/
theorem stop_le_of_below (uncovered : ¬ Covered extents base)
    (member : extent ∈ extents.takeWhile fun extent => extent.base < base) : extent.stop ≤ base := by
  have below : extent.base < base := by simpa using mem_takeWhile_imp member
  by_contra reaches
  exact uncovered ⟨extent, (takeWhile_sublist _).subset member, below.le, not_le.mp reaches⟩

/-- The others start a unit above it or later. -/
theorem le_base_of_above (tidy : Tidy unit extents) (multiple : unit ∣ base)
    (uncovered : ¬ Covered extents base)
    (member : extent ∈ extents.dropWhile fun extent => extent.base < base) :
    base + unit ≤ extent.base := by
  have inside : extent ∈ extents := (dropWhile_sublist _).subset member
  have aligned := tidy.aligned extent inside
  have notBelow : base ≤ extent.base := by
    rcases split : extents.dropWhile fun extent => extent.base < base with _ | ⟨head, rest⟩
    · rw [split] at member
      cases member
    · have first : base ≤ head.base := by
        have fails := @List.head_dropWhile_not Extent (fun extent => decide (extent.base < base))
          extents (by rw [split]; exact cons_ne_nil _ _)
        simpa [split] using fails
      have ordered : (head :: rest).Pairwise fun first second => first.stop ≤ second.base :=
        split ▸ tidy.ordered.sublist (dropWhile_sublist _)
      rw [split] at member
      rcases mem_cons.mp member with rfl | later
      · exact first
      · have headAligned := tidy.aligned head ((dropWhile_sublist _).subset (split ▸ mem_cons_self))
        exact first.trans (headAligned.nonempty.le.trans ((pairwise_cons.mp ordered).1 extent later))
  have other : extent.base ≠ base := fun same =>
    uncovered ⟨extent, inside, same.le, same ▸ aligned.nonempty⟩
  obtain ⟨low, rfl⟩ := multiple
  obtain ⟨high, start⟩ := aligned.base
  rw [start] at notBelow other ⊢
  have less : low < high := lt_of_mul_lt_mul_left (lt_of_le_of_ne notBelow (Ne.symm other)) (Nat.zero_le unit)
  calc unit * low + unit = unit * (low + 1) := by ring
    _ ≤ unit * high := Nat.mul_le_mul_left unit less

variable {capacity stop : Nat}

/-- The four ways of giving space back, by what is merged. -/
theorem giveBack_cases (given : giveBack capacity base stop extents = some left) :
    ∃ below above, below = extents.takeWhile (fun extent => extent.base < base) ∧
      above = extents.dropWhile (fun extent => extent.base < base) ∧
      ((∃ front previous next back, below = front ++ [previous] ∧ above = next :: back ∧
          previous.stop = base ∧ next.base = stop ∧
          left = front ++ ⟨previous.base, next.stop⟩ :: back) ∨
        (∃ front previous, below = front ++ [previous] ∧ previous.stop = base ∧
          (∀ next ∈ above.head?, next.base ≠ stop) ∧
          left = front ++ ⟨previous.base, stop⟩ :: above) ∨
        (∃ next back, above = next :: back ∧ next.base = stop ∧
          (∀ previous ∈ below.getLast?, previous.stop ≠ base) ∧
          left = below ++ ⟨base, next.stop⟩ :: back) ∨
        (extents.length < capacity ∧ (∀ previous ∈ below.getLast?, previous.stop ≠ base) ∧
          (∀ next ∈ above.head?, next.base ≠ stop) ∧
          left = below ++ ⟨base, stop⟩ :: above)) := by
  unfold giveBack at given
  dsimp only at given
  refine ⟨_, _, rfl, rfl, ?_⟩
  generalize extents.takeWhile (fun extent => extent.base < base) = below at given ⊢
  generalize extents.dropWhile (fun extent => extent.base < base) = above at given ⊢
  have apartBelow (alone : (below.getLast?.filter fun previous => previous.stop == base) = none) :
      ∀ previous ∈ below.getLast?, previous.stop ≠ base := fun previous last touches =>
    Option.filter_eq_none_iff.mp alone previous last (beq_iff_eq.mpr touches)
  have apartAbove (alone : (above.head?.filter fun next => next.base == stop) = none) :
      ∀ next ∈ above.head?, next.base ≠ stop := fun next head meets =>
    Option.filter_eq_none_iff.mp alone next head (beq_iff_eq.mpr meets)
  split at given
  · rename_i previous next isPrevious isNext
    obtain ⟨last, touches⟩ := Option.filter_eq_some_iff.mp isPrevious
    obtain ⟨head, meets⟩ := Option.filter_eq_some_iff.mp isNext
    obtain ⟨front, rfl⟩ := getLast?_eq_some_iff.mp last
    obtain ⟨back, rfl⟩ := head?_eq_some_iff.mp head
    refine .inl ⟨front, previous, next, back, rfl, rfl, beq_iff_eq.mp touches, beq_iff_eq.mp meets, ?_⟩
    rw [← Option.some.inj given, dropLast_concat, tail_cons]
  · rename_i previous isPrevious noNext
    obtain ⟨last, touches⟩ := Option.filter_eq_some_iff.mp isPrevious
    obtain ⟨front, rfl⟩ := getLast?_eq_some_iff.mp last
    refine .inr (.inl ⟨front, previous, rfl, beq_iff_eq.mp touches, apartAbove noNext, ?_⟩)
    rw [← Option.some.inj given, dropLast_concat]
  · rename_i next noPrevious isNext
    obtain ⟨head, meets⟩ := Option.filter_eq_some_iff.mp isNext
    obtain ⟨back, rfl⟩ := head?_eq_some_iff.mp head
    refine .inr (.inr (.inl
      ⟨next, back, rfl, beq_iff_eq.mp meets, apartBelow noPrevious, ?_⟩))
    rw [← Option.some.inj given, tail_cons]
  · rename_i noPrevious noNext
    split at given
    · cases given
    · rename_i room
      exact .inr (.inr (.inr ⟨not_le.mp room, apartBelow noPrevious, apartAbove noNext,
        (Option.some.inj given).symm⟩))

theorem giveBack_given (tidy : Tidy unit extents) (positive : 0 < unit) (multiple : unit ∣ base)
    (uncovered : ¬ Covered extents base) (fits : extents.length ≤ capacity)
    (given : giveBack capacity base (base + unit) extents = some left) :
    Given unit extents capacity base left := by
  obtain ⟨below, above, isBelow, isAbove, cases_given⟩ := giveBack_cases given
  have whole : below ++ above = extents := by
    rw [isBelow, isAbove, takeWhile_append_dropWhile]
  have before {extent : Extent} (member : extent ∈ below) : extent.stop ≤ base :=
    stop_le_of_below uncovered (isBelow ▸ member)
  have behind {extent : Extent} (member : extent ∈ above) : base + unit ≤ extent.base :=
    le_base_of_above tidy multiple uncovered (isAbove ▸ member)
  have next_unit : unit ∣ base + unit := dvd_add multiple dvd_rfl
  subst whole
  clear isBelow isAbove given uncovered
  obtain ⟨tidyBelow, tidyAbove, -⟩ := tidy_append.mp tidy
  rcases cases_given with ⟨front, previous, next, back, rfl, rfl, touches, meets, rfl⟩ |
    ⟨front, previous, rfl, touches, -, rfl⟩ | ⟨next, back, rfl, meets, -, rfl⟩ | ⟨room, -, -, rfl⟩
  · obtain ⟨tidyFront, tidyLast, upTo⟩ := tidy_append.mp tidyBelow
    obtain ⟨alignedNext, beyond, tidyBack⟩ := tidy_cons.mp tidyAbove
    have alignedPrevious := (tidy_cons.mp tidyLast).1
    have nonempty := alignedPrevious.nonempty
    have nonempty' := alignedNext.nonempty
    refine ⟨tidy_between tidyFront ⟨alignedPrevious.base, alignedNext.stop, by dsimp only; omega⟩
      tidyBack (fun earlier member => upTo earlier member previous mem_cons_self) beyond, ?_,
      fun address => ?_⟩
    · simp only [length_append, length_cons, length_nil] at fits ⊢
      omega
    · have joined : (previous.base ≤ address ∧ address < next.stop) ↔
          (previous.base ≤ address ∧ address < previous.stop) ∨
            (next.base ≤ address ∧ address < next.stop) ∨
              (base ≤ address ∧ address < base + unit) := by omega
      simp only [covered_append, covered_cons, covered_nil, Extent.Covers, or_false]
      rw [joined]
      exact iff_of_eq (by ac_rfl)
  · obtain ⟨tidyFront, tidyLast, upTo⟩ := tidy_append.mp tidyBelow
    have alignedPrevious := (tidy_cons.mp tidyLast).1
    have nonempty := alignedPrevious.nonempty
    refine ⟨tidy_between tidyFront ⟨alignedPrevious.base, next_unit, by dsimp only; omega⟩
      tidyAbove (fun earlier member => upTo earlier member previous mem_cons_self)
      fun later => behind, ?_, fun address => ?_⟩
    · simp only [length_append, length_cons, length_nil] at fits ⊢
      omega
    · have joined : (previous.base ≤ address ∧ address < base + unit) ↔
          (previous.base ≤ address ∧ address < previous.stop) ∨
            (base ≤ address ∧ address < base + unit) := by omega
      simp only [covered_append, covered_cons, covered_nil, Extent.Covers, or_false]
      rw [joined]
      exact iff_of_eq (by ac_rfl)
  · obtain ⟨alignedNext, beyond, tidyBack⟩ := tidy_cons.mp tidyAbove
    have nonempty := alignedNext.nonempty
    refine ⟨tidy_between tidyBelow ⟨multiple, alignedNext.stop, by dsimp only; omega⟩ tidyBack
      (fun earlier => before) beyond, ?_, fun address => ?_⟩
    · simp only [length_append, length_cons] at fits ⊢
      omega
    · have joined : (base ≤ address ∧ address < next.stop) ↔
          (next.base ≤ address ∧ address < next.stop) ∨
            (base ≤ address ∧ address < base + unit) := by omega
      simp only [covered_append, covered_cons, Extent.Covers]
      rw [joined]
      exact iff_of_eq (by ac_rfl)
  · refine ⟨tidy_between tidyBelow ⟨multiple, next_unit, by dsimp only; omega⟩ tidyAbove
      (fun earlier => before) fun later => behind, ?_, fun address => ?_⟩
    · simp only [length_append, length_cons] at room ⊢
      omega
    · simp only [covered_append, covered_cons, Extent.Covers]
      exact iff_of_eq (by ac_rfl)

/-- Only a full list refuses. -/
theorem giveBack_none (refused : giveBack capacity base stop extents = none) :
    capacity ≤ extents.length := by
  unfold giveBack at refused
  dsimp only at refused
  split at refused
  · cases refused
  · cases refused
  · cases refused
  · split at refused
    · assumption
    · cases refused

end GiveBack

end Extents
