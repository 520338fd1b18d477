/-
This file is about files that are read in chunks. How many items a read gives is up to the
environment: any number from one up to the limit, and nothing only at the end. A loop whose
step can be taken in pieces does not depend on where the chunks end.
-/

import Mathlib.Data.List.Basic

namespace Chunks

open List

variable {Item State : Type}

/-- A file, where reading goes on in it, and how much each read is given. -/
structure Source (Item : Type) where
  items : List Item
  cursor : Nat := 0
  reads : Nat := 0
  sizes : Nat → Nat

namespace Source

variable (source : Source Item) (limit : Nat)

/-- What a read still has before it. -/
def rest : List Item := source.items.drop source.cursor

/-- The read that follows, for at most so many items. -/
def chunk : List Item := source.rest.take (max 1 (min (source.sizes source.reads) limit))

def advance : Source Item :=
  { source with cursor := source.cursor + (source.chunk limit).length, reads := source.reads + 1 }

def seek (cursor : Nat) : Source Item := { source with cursor }

variable {source limit}

theorem chunk_append_rest : source.chunk limit ++ (source.advance limit).rest = source.rest := by
  have taken : (source.chunk limit).length ≤ source.rest.length := by
    rw [chunk, length_take]
    exact Nat.min_le_right _ _
  have front : source.chunk limit = source.rest.take (source.chunk limit).length := by
    conv_lhs => rw [chunk]
    rw [chunk, length_take, ← take_eq_take_min]
  have back : (source.advance limit).rest = source.rest.drop (source.chunk limit).length :=
    drop_drop.symm
  rw [back]
  conv_lhs => rw [front, length_take, Nat.min_eq_left taken]
  exact take_append_drop _ _

theorem chunk_eq_nil : source.chunk limit = [] ↔ source.rest = [] := by
  rw [chunk, take_eq_nil_iff]
  exact or_iff_right (by omega)

theorem chunk_length (some : 0 < limit) : (source.chunk limit).length ≤ limit := by
  rw [chunk, length_take]
  omega

theorem advance_lt (more : source.chunk limit ≠ []) :
    (source.advance limit).rest.length < source.rest.length := by
  rw [← @chunk_append_rest _ source limit, length_append]
  exact Nat.lt_add_of_pos_left (length_pos_of_ne_nil more)

end Source

/-- Read until there is nothing more, with a step for every chunk. -/
def foldReads (limit : Nat) (step : State → List Item → State) (state : State)
    (source : Source Item) : State × Source Item :=
  if _more : source.chunk limit = [] then (state, source.advance limit)
  else foldReads limit step (step state (source.chunk limit)) (source.advance limit)
termination_by source.rest.length
decreasing_by exact Source.advance_lt _more

/-- A step that can be taken in pieces is taken once, over everything that was left. -/
theorem foldReads_eq {limit : Nat} {step : State → List Item → State} {state : State}
    {source : Source Item} (nothing : ∀ state, step state [] = state)
    (pieces : ∀ state first second, step (step state first) second = step state (first ++ second)) :
    (foldReads limit step state source).1 = step state source.rest ∧
      (foldReads limit step state source).2.items = source.items := by
  fun_induction foldReads limit step state source with
  | case1 state source over' =>
    rw [Source.chunk_eq_nil.mp over', nothing]
    exact ⟨rfl, rfl⟩
  | case2 state source more hypothesis =>
    rw [hypothesis.1, hypothesis.2, pieces, Source.chunk_append_rest]
    exact ⟨rfl, rfl⟩

end Chunks
