/-
This file is about a range of addresses that is cut into tiles, one behind the
other, each of them free or owned. The tiles partition the range; when no two
neighbours are free, the free tiles lie apart, and a range without owners is a
single tile.
-/

import ZigOs.Lib.Extents

namespace Tiling

open Extents List

inductive Tile (Owner : Type) where
  | free (size : Nat)
  | owned (size : Nat) (owner : Owner)
  deriving Repr

variable {Owner : Type}

namespace Tile

def size : Tile Owner → Nat
  | free size => size
  | owned size _ => size

def isFree : Tile Owner → Bool
  | free _ => true
  | owned _ _ => false

end Tile

def total (tiles : List (Tile Owner)) : Nat := (tiles.map Tile.size).sum

/-- The extents of the tiles, the first of them at the base. -/
def extents : Nat → List (Tile Owner) → List Extent
  | _, [] => []
  | base, tile :: rest => ⟨base, base + tile.size⟩ :: extents (base + tile.size) rest

def freeExtents : Nat → List (Tile Owner) → List Extent
  | _, [] => []
  | base, .free size :: rest => ⟨base, base + size⟩ :: freeExtents (base + size) rest
  | base, .owned size _ :: rest => freeExtents (base + size) rest

/-- The owners with the extents that are theirs. -/
def ownedExtents : Nat → List (Tile Owner) → List (Owner × Extent)
  | _, [] => []
  | base, .free size :: rest => ownedExtents (base + size) rest
  | base, .owned size owner :: rest => (owner, ⟨base, base + size⟩) :: ownedExtents (base + size) rest

def freeTotal : List (Tile Owner) → Nat
  | [] => 0
  | .free size :: rest => size + freeTotal rest
  | .owned _ _ :: rest => freeTotal rest

def ownedTotal : List (Tile Owner) → Nat
  | [] => 0
  | .free _ :: rest => ownedTotal rest
  | .owned size _ :: rest => size + ownedTotal rest

def Positive (tiles : List (Tile Owner)) : Prop := ∀ tile ∈ tiles, 0 < tile.size

/-- No two neighbours are free. -/
def Coalesced (tiles : List (Tile Owner)) : Prop :=
  tiles.IsChain fun first second => first.isFree = false ∨ second.isFree = false

variable {tiles rest front back : List (Tile Owner)} {tile : Tile Owner} {base address size : Nat}
  {extent : Extent} {owner : Owner}

/-! ### Cutting a tiling -/

@[simp] theorem total_nil : total ([] : List (Tile Owner)) = 0 := rfl

@[simp] theorem total_cons (tile : Tile Owner) (rest : List (Tile Owner)) :
    total (tile :: rest) = tile.size + total rest := sum_cons

@[simp] theorem total_append (front back : List (Tile Owner)) :
    total (front ++ back) = total front + total back := by
  unfold total
  rw [map_append, sum_append]

theorem ownedExtents_append (base : Nat) (front back : List (Tile Owner)) :
    ownedExtents base (front ++ back) =
      ownedExtents base front ++ ownedExtents (base + total front) back := by
  induction front generalizing base with
  | nil => rfl
  | cons tile rest hypothesis =>
    cases tile with
    | free size =>
      rw [cons_append, ownedExtents, ownedExtents, hypothesis, total_cons, ← Nat.add_assoc]
      rfl
    | owned size owner =>
      rw [cons_append, ownedExtents, ownedExtents, hypothesis, total_cons, ← Nat.add_assoc]
      rfl

theorem freeTotal_append (front back : List (Tile Owner)) :
    freeTotal (front ++ back) = freeTotal front + freeTotal back := by
  induction front with
  | nil => exact (Nat.zero_add _).symm
  | cons tile rest hypothesis =>
    cases tile with
    | free size =>
      rw [cons_append, freeTotal, freeTotal, hypothesis, Nat.add_assoc]
    | owned size owner => exact hypothesis

theorem ownedTotal_append (front back : List (Tile Owner)) :
    ownedTotal (front ++ back) = ownedTotal front + ownedTotal back := by
  induction front with
  | nil => exact (Nat.zero_add _).symm
  | cons tile rest hypothesis =>
    cases tile with
    | free size => exact hypothesis
    | owned size owner =>
      rw [cons_append, ownedTotal, ownedTotal, hypothesis, Nat.add_assoc]

/-- An owned tile, with the tiles in front of it and behind it. -/
theorem exists_owned (member : (owner, extent) ∈ ownedExtents base tiles) :
    ∃ front size back, tiles = front ++ .owned size owner :: back ∧
      extent = ⟨base + total front, base + total front + size⟩ := by
  induction tiles generalizing base with
  | nil => cases member
  | cons tile rest hypothesis =>
    have behind (size : Nat) (later : (owner, extent) ∈ ownedExtents (base + size) rest)
        (isSize : tile.size = size) : ∃ front size back,
          tile :: rest = front ++ .owned size owner :: back ∧
            extent = ⟨base + total front, base + total front + size⟩ := by
      obtain ⟨front, size, back, rfl, isExtent⟩ := hypothesis later
      refine ⟨tile :: front, size, back, rfl, ?_⟩
      rwa [total_cons, isSize, ← Nat.add_assoc]
    cases tile with
    | free size => exact behind size member rfl
    | owned size other =>
      rcases mem_cons.mp member with here | later
      · cases here
        exact ⟨[], size, rest, rfl, rfl⟩
      · exact behind size later rfl

/-! ### The tiles partition the range -/

/-- The blocks are not empty, lie apart, and cover the region and nothing else. -/
structure Partition (region : Extent) (blocks : List Extent) : Prop where
  nonempty : ∀ block ∈ blocks, block.base < block.stop
  apart : blocks.Pairwise fun first second => first.stop ≤ second.base ∨ second.stop ≤ first.base
  covered : ∀ address, Covered blocks address ↔ region.Covers address

theorem Partition.perm {region : Extent} {blocks other : List Extent} (partition : Partition region blocks)
    (same : other.Perm blocks) : Partition region other where
  nonempty block member := partition.nonempty block (same.mem_iff.mp member)
  apart := (same.pairwise_iff fun {_ _} either => either.symm).mpr partition.apart
  covered address := by
    rw [← partition.covered address]
    unfold Covered
    simp only [same.mem_iff]

theorem extents_within (member : extent ∈ extents base tiles) :
    base ≤ extent.base ∧ extent.stop ≤ base + total tiles := by
  induction tiles generalizing base with
  | nil => cases member
  | cons tile rest hypothesis =>
    rw [total_cons]
    rcases mem_cons.mp member with rfl | later
    · exact ⟨le_rfl, by rw [← Nat.add_assoc]; exact Nat.le_add_right _ _⟩
    · have within := hypothesis later
      omega

theorem extents_partition (positive : Positive tiles) :
    Partition ⟨base, base + total tiles⟩ (extents base tiles) := by
  induction tiles generalizing base with
  | nil =>
    refine ⟨fun _ member => absurd member not_mem_nil, List.Pairwise.nil, fun address => ?_⟩
    rw [extents, covered_nil]
    exact ⟨False.elim, fun covers => absurd covers.2 (not_lt.mpr covers.1)⟩
  | cons tile rest hypothesis =>
    have tail := @hypothesis (base + tile.size) fun other member =>
      positive other (mem_cons_of_mem _ member)
    refine ⟨fun block member => ?_, pairwise_cons.mpr ⟨fun other member => ?_, tail.apart⟩,
      fun address => ?_⟩
    · rcases mem_cons.mp member with rfl | later
      · exact Nat.lt_add_of_pos_right (positive tile mem_cons_self)
      · exact tail.nonempty block later
    · exact .inl (extents_within member).1
    · rw [extents, covered_cons, tail.covered, total_cons]
      unfold Extent.Covers
      dsimp only
      omega

theorem free_owned_perm (base : Nat) (tiles : List (Tile Owner)) :
    (freeExtents base tiles ++ (ownedExtents base tiles).map Prod.snd).Perm (extents base tiles) := by
  induction tiles generalizing base with
  | nil => exact List.Perm.nil
  | cons tile rest hypothesis =>
    cases tile with
    | free size => exact (hypothesis (base + size)).cons _
    | owned size owner =>
      rw [freeExtents, ownedExtents, map_cons]
      exact perm_middle.trans ((hypothesis (base + size)).cons _)

/-- The free and the owned extents partition the range. -/
theorem tiles_partition (positive : Positive tiles) : Partition ⟨base, base + total tiles⟩
    (freeExtents base tiles ++ (ownedExtents base tiles).map Prod.snd) :=
  (extents_partition positive).perm (free_owned_perm base tiles)

theorem ownedExtents_within (member : (owner, extent) ∈ ownedExtents base tiles) :
    base ≤ extent.base ∧ extent.stop ≤ base + total tiles :=
  extents_within ((free_owned_perm base tiles).mem_iff.mp
    (mem_append_right _ (mem_map_of_mem member)))

/-- The owned extents lie apart. -/
theorem ownedExtents_apart (positive : Positive tiles) :
    (ownedExtents base tiles).Pairwise fun first second =>
      first.2.stop ≤ second.2.base ∨ second.2.stop ≤ first.2.base :=
  pairwise_map.mp (pairwise_append.mp (@tiles_partition _ tiles base positive).apart).2.1

/-! ### The free tiles -/

theorem freeExtents_sum (base : Nat) (tiles : List (Tile Owner)) :
    ((freeExtents base tiles).map fun extent => extent.stop - extent.base).sum = freeTotal tiles := by
  induction tiles generalizing base with
  | nil => rfl
  | cons tile rest hypothesis =>
    cases tile with
    | free size =>
      rw [freeExtents, map_cons, sum_cons, hypothesis, freeTotal, Nat.add_sub_cancel_left]
    | owned size owner => exact hypothesis (base + size)

theorem ownedExtents_sum (base : Nat) (tiles : List (Tile Owner)) :
    ((ownedExtents base tiles).map fun owned => owned.2.stop - owned.2.base).sum = ownedTotal tiles := by
  induction tiles generalizing base with
  | nil => rfl
  | cons tile rest hypothesis =>
    cases tile with
    | free size => exact hypothesis (base + size)
    | owned size owner =>
      rw [ownedExtents, map_cons, sum_cons, hypothesis, ownedTotal,
        Nat.add_sub_cancel_left]

theorem freeExtents_within (member : extent ∈ freeExtents base tiles) :
    base ≤ extent.base ∧ extent.stop ≤ base + total tiles :=
  extents_within ((free_owned_perm base tiles).mem_iff.mp (mem_append_left _ member))

/-- In a coalesced tiling there is a gap between any two free extents. -/
theorem freeExtents_separate (positive : Positive tiles) (coalesced : Coalesced tiles) :
    (freeExtents base tiles).Pairwise fun first second => first.stop < second.base := by
  induction tiles generalizing base with
  | nil => exact List.Pairwise.nil
  | cons tile rest hypothesis =>
    have tail := @hypothesis (base + tile.size)
      (fun other member => positive other (mem_cons_of_mem _ member)) coalesced.tail
    cases tile with
    | owned size owner => exact tail
    | free size =>
      refine pairwise_cons.mpr ⟨fun other member => ?_, tail⟩
      cases rest with
      | nil => cases member
      | cons next later =>
        cases next with
        | free _ => simp [Coalesced, Tile.isFree] at coalesced
        | owned more owner =>
          have room : 0 < more := positive (.owned more owner) (by simp)
          have beyond := (@freeExtents_within Owner later _ other member).1
          exact (Nat.lt_add_of_pos_right room).trans_le beyond

/-- A coalesced tiling without owners is one free tile. -/
theorem single_of_ownerless (coalesced : Coalesced tiles) (ownerless : ownedExtents base tiles = []) :
    tiles = [] ∨ ∃ size, tiles = [.free size] := by
  cases tiles with
  | nil => exact .inl rfl
  | cons tile rest =>
    cases tile with
    | owned size owner => cases ownerless
    | free size =>
      cases rest with
      | nil => exact .inr ⟨size, rfl⟩
      | cons next later =>
        cases next with
        | free _ => simp [Coalesced, Tile.isFree] at coalesced
        | owned more owner => cases ownerless

end Tiling
