/-
This file is about feeds: events that carry consecutive numbers are kept in a
ring that forgets the oldest, and a reader with a cursor takes the events it
wants out of it, or a mark where it came too late. The reader accounts for the
history up to its cursor when everything it returned is a wanted event or a
mark, in order, and every wanted event it did not return lies behind a mark.
-/

import Mathlib

namespace EventFeed

open Function List

variable {Event : Type}

/-! ### The ring -/

/-- Slots by number, and the number of the newest event. -/
structure EventRing (Event : Type) where
  slots : Nat → Event
  newest : Nat

section EventRing

variable (number : Event → Nat) (capacity : Nat)

def EventRing.push (ring : EventRing Event) (event : Event) : EventRing Event :=
  { slots := update ring.slots ((number event - 1) % capacity) event
    newest := number event }

/-- The ring takes in events, each numbered by the successor of the newest before it. -/
inductive Pushes (successor : Nat → Nat) : EventRing Event → List Event → EventRing Event → Prop where
  | nil (ring : EventRing Event) : Pushes successor ring [] ring
  | cons {ring final : EventRing Event} {event : Event} {events : List Event}
    (next : number event = successor ring.newest)
    (rest : Pushes successor (ring.push number capacity event) events final) :
    Pushes successor ring (event :: events) final

/-- The ring holds the last events of a history that began after the given number. -/
structure Holds (ring : EventRing Event) (base : Nat) (history : List Event) : Prop where
  newest : ring.newest = base + history.length
  numbered : ∀ (index : Nat) (event : Event), history[index]? = some event →
    number event = base + index + 1
  retained : ∀ (index : Nat) (event : Event), history[index]? = some event →
    history.length ≤ index + capacity → ring.slots ((base + index) % capacity) = event

variable {number : Event → Nat} {capacity : Nat} {successor : Nat → Nat}

theorem Pushes.append {first second third : EventRing Event} {events more : List Event}
    (start : Pushes number capacity successor first events second)
    (finish : Pushes number capacity successor second more third) :
    Pushes number capacity successor first (events ++ more) third := by
  induction start with
  | nil => exact finish
  | cons next rest hypothesis => exact .cons next (hypothesis finish)

theorem holds_start (ring : EventRing Event) : Holds number capacity ring ring.newest [] :=
  ⟨rfl, fun _ _ found => by simp at found, fun _ _ found => by simp at found⟩

/-- One more event: it takes the slot of the one that is a whole capacity older. -/
theorem Holds.push {ring : EventRing Event} {base : Nat} {history : List Event} {event : Event}
    (holds : Holds number capacity ring base history)
    (next : number event = ring.newest + 1) :
    Holds number capacity (ring.push number capacity event) base (history ++ [event]) := by
  have numberOf : number event = base + history.length + 1 := by rw [next, holds.newest]
  constructor
  · rwa [length_append, length_singleton, ← Nat.add_assoc]
  · intro index other found
    by_cases old : index < history.length
    · rw [List.getElem?_append_left old] at found
      exact holds.numbered index other found
    · rw [List.getElem?_append_right (by omega)] at found
      obtain ⟨last, rfl⟩ : index - history.length = 0 ∧ event = other := by
        rw [List.getElem?_singleton] at found
        split at found
        · exact ⟨by assumption, Option.some.inj found⟩
        · cases found
      rw [numberOf]
      omega
  · intro index other found recent
    rw [length_append, length_singleton] at recent
    simp only [EventRing.push, numberOf, Nat.add_sub_cancel]
    by_cases old : index < history.length
    · rw [List.getElem?_append_left old] at found
      have apart : (base + index) % capacity ≠ (base + history.length) % capacity := by
        intro same
        have close := (Nat.modEq_iff_dvd' (by omega)).mp (show base + index ≡ base + history.length
          [MOD capacity] from same)
        have large := Nat.le_of_dvd (by omega) close
        omega
      rw [update_of_ne apart]
      exact holds.retained index other found (by omega)
    · have last : index = history.length := by
        have within := (List.getElem?_eq_some_iff.mp found).1
        rw [length_append, length_singleton] at within
        omega
      subst last
      rw [List.getElem?_append_right (Nat.le_refl _), Nat.sub_self] at found
      rw [update_self]
      exact Option.some.inj found

/-- As long as the numbers only count up, the ring holds the end of the history. -/
theorem Holds.pushes {ring final : EventRing Event} {base bound : Nat} {history events : List Event}
    (holds : Holds number capacity ring base history)
    (counts : ∀ newest, newest + 1 < bound → successor newest = newest + 1)
    (pushed : Pushes number capacity successor ring events final)
    (below : base + (history ++ events).length < bound) :
    Holds number capacity final base (history ++ events) := by
  induction pushed generalizing history with
  | nil => rwa [append_nil]
  | @cons ring final event events next rest hypothesis =>
    rw [length_append, length_cons] at below
    rw [counts _ (by rw [holds.newest]; omega)] at next
    have further := hypothesis (holds.push next) (by simpa using by omega)
    simpa using further

end EventRing

/-! ### The reader -/

section Reader

variable (number : Event → Nat) (wanted mark : Event → Prop)

/-- What was returned accounts for the history: wanted events and marks, in order, and every
wanted event that is missing has a mark behind it, before the next event that was returned. -/
structure Accounts (history returned : List Event) : Prop where
  increasing : returned.Pairwise fun earlier later => number earlier < number later
  genuine : ∀ event ∈ returned, ¬ mark event → event ∈ history ∧ wanted event
  complete : ∀ event ∈ history, wanted event → event ∈ returned ∨
    ∃ lost ∈ returned, mark lost ∧ number event ≤ number lost ∧
      ∀ later ∈ returned, ¬ mark later → number event < number later → number lost < number later

/-- The reader has passed the events of the history up to a number, and returned nothing that
is numbered higher. -/
structure Passed (history returned : List Event) (cursor : Nat) : Prop extends
    Accounts number wanted mark history returned where
  behind : ∀ event ∈ history, number event ≤ cursor
  within : ∀ event ∈ returned, number event ≤ cursor

variable {number : Event → Nat} {wanted mark : Event → Prop}

theorem passed_start (cursor : Nat) : Passed number wanted mark [] [] cursor where
  increasing := List.Pairwise.nil
  genuine _ member := nomatch member
  complete _ member := nomatch member
  behind _ member := nomatch member
  within _ member := nomatch member

/-- Returning the wanted ones of the next events. -/
theorem Passed.read {history returned passed : List Event} {cursor next : Nat}
    [DecidablePred wanted] (before : Passed number wanted mark history returned cursor)
    (ordered : passed.Pairwise fun earlier later => number earlier < number later)
    (after : ∀ event ∈ passed, cursor < number event ∧ number event ≤ next)
    (forward : cursor ≤ next) :
    Passed number wanted mark (history ++ passed) (returned ++ passed.filter wanted) next where
  increasing := by
    refine pairwise_append.mpr ⟨before.increasing, ordered.filter _, ?_⟩
    intro earlier old later new
    exact Nat.lt_of_le_of_lt (before.within earlier old) (after later (mem_of_mem_filter new)).1
  genuine event member notMark := by
    rcases mem_append.mp member with old | new
    · obtain ⟨recorded, isWanted⟩ := before.genuine event old notMark
      exact ⟨mem_append_left _ recorded, isWanted⟩
    · exact ⟨mem_append_right _ (mem_of_mem_filter new),
        by simpa using of_mem_filter new⟩
  complete event member isWanted := by
    rcases mem_append.mp member with old | new
    · rcases before.complete event old isWanted with found | ⟨lost, given, isMark, upTo, between⟩
      · exact .inl (mem_append_left _ found)
      · refine .inr ⟨lost, mem_append_left _ given, isMark, upTo, ?_⟩
        intro later returnedLater notMark above
        rcases mem_append.mp returnedLater with early | late
        · exact between later early notMark above
        · exact Nat.lt_of_le_of_lt (before.within lost given)
            (after later (mem_of_mem_filter late)).1
    · exact .inl (mem_append_right _ (mem_filter.mpr ⟨new, by simpa using isWanted⟩))
  behind event member := by
    rcases mem_append.mp member with old | new
    · exact (before.behind event old).trans forward
    · exact (after event new).2
  within event member := by
    rcases mem_append.mp member with old | new
    · exact (before.within event old).trans forward
    · exact (after event (mem_of_mem_filter new)).2

/-- Skipping the next events and returning a mark that carries the number of the last of them. -/
theorem Passed.skip {history returned passed : List Event} {cursor : Nat} {lost : Event}
    (before : Passed number wanted mark history returned cursor)
    (after : ∀ event ∈ passed, cursor < number event ∧ number event ≤ number lost)
    (forward : cursor < number lost) (isMark : mark lost) :
    Passed number wanted mark (history ++ passed) (returned ++ [lost]) (number lost) where
  increasing := by
    refine pairwise_append.mpr ⟨before.increasing, pairwise_singleton _ _, ?_⟩
    intro earlier old later new
    rw [mem_singleton.mp new]
    exact Nat.lt_of_le_of_lt (before.within earlier old) forward
  genuine event member notMark := by
    rcases mem_append.mp member with old | new
    · obtain ⟨recorded, isWanted⟩ := before.genuine event old notMark
      exact ⟨mem_append_left _ recorded, isWanted⟩
    · rw [mem_singleton.mp new] at notMark
      exact absurd isMark notMark
  complete event member isWanted := by
    rcases mem_append.mp member with old | new
    · rcases before.complete event old isWanted with found | ⟨earlier, given, isMark', upTo, between⟩
      · exact .inl (mem_append_left _ found)
      · refine .inr ⟨earlier, mem_append_left _ given, isMark', upTo, ?_⟩
        intro later returnedLater notMark above
        rcases mem_append.mp returnedLater with early | late
        · exact between later early notMark above
        · rw [mem_singleton.mp late] at notMark
          exact absurd isMark notMark
    · refine .inr ⟨lost, mem_append_right _ (mem_singleton_self _), isMark,
        (after event new).2, ?_⟩
      intro later returnedLater notMark above
      rcases mem_append.mp returnedLater with early | late
      · have low := before.within later early
        have high := (after event new).1
        omega
      · rw [mem_singleton.mp late] at notMark
        exact absurd isMark notMark
  behind event member := by
    rcases mem_append.mp member with old | new
    · exact (before.behind event old).trans (Nat.le_of_lt forward)
    · exact (after event new).2
  within event member := by
    rcases mem_append.mp member with old | new
    · exact (before.within event old).trans (Nat.le_of_lt forward)
    · rw [mem_singleton.mp new]

end Reader

end EventFeed
