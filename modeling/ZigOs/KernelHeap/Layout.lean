/-
This file relates the bytes of the heap to a tiling of its region. The free tiles
are linked through their first words, in order, and every owned tile holds the
header of its payload. Only these bytes matter, so whatever is written elsewhere
leaves the tiling as it is.
-/

import ZigOs.Lib.Tiling
import ZigOs.KernelHeap.Heap

namespace ZigOs.KernelHeap

open ByteMemory Extents Tiling List

/-- A payload that somebody has, with the alignment that it was asked for. -/
structure Payload where
  address : Nat
  length : Nat
  alignment : Nat
  deriving DecidableEq, Repr


/-- The address is one of the payload's. -/
def Payload.Covers (payload : Payload) (address : Nat) : Prop :=
  payload.address ≤ address ∧ address < payload.address + payload.length

instance (payload : Payload) (address : Nat) : Decidable (payload.Covers address) :=
  inferInstanceAs (Decidable (_ ∧ _))

abbrev Block := Tile Payload

/-- The payload lies in its block behind its header, and the header says so. -/
structure Seated (memory : Memory) (position size : Nat) (payload : Payload) : Prop where
  nonempty : 0 < payload.length
  room : position + freeBlockBytes + allocationHeaderBytes ≤ payload.address
  fits : payload.address + payload.length ≤ position + size
  aligned : payload.alignment ∣ payload.address
  header : Holds memory (payload.address - allocationHeaderBytes)
    (words [allocationMagic, position, size, payload.length])

/-- The tiles lie in the memory from a position on, and their free list leads from a head to a
tail. -/
def Laid (memory : Memory) : Nat → List Block → Nat → Nat → Prop
  | _, [], head, tail => head = tail
  | position, .free size :: rest, head, tail =>
    head = position ∧ ∃ next < 2 ^ 64, Holds memory position (words [size, next]) ∧
      Laid memory (position + size) rest next tail
  | position, .owned size payload :: rest, head, tail =>
    Seated memory position size payload ∧ Laid memory (position + size) rest head tail

/-- The bytes that the tiling depends on. -/
def InHeader : Nat → List Block → Nat → Prop
  | _, [], _ => False
  | position, .free size :: rest, address =>
    (position ≤ address ∧ address < position + freeBlockBytes) ∨
      InHeader (position + size) rest address
  | position, .owned size payload :: rest, address =>
    (payload.address - allocationHeaderBytes ≤ address ∧ address < payload.address) ∨
      InHeader (position + size) rest address

/-- The sizes are multiples of the alignment, and large enough for a header. -/
def Sized (tiles : List Block) : Prop :=
  ∀ tile ∈ tiles, blockAlignment ∣ tile.size ∧ minimumFreeBlockSize ≤ tile.size

def AllOwned (tiles : List Block) : Prop := ∀ tile ∈ tiles, tile.isFree = false

variable {memory other : Memory} {tiles front back rest : List Block} {tile : Block}
  {position head middle tail address size previous replacement : Nat} {payload : Payload}

theorem Sized.positive (sized : Sized tiles) : Positive tiles := fun tile member =>
  Nat.lt_of_lt_of_le (by decide) (sized tile member).2

theorem sized_append : Sized (front ++ back) ↔ Sized front ∧ Sized back := forall_mem_append

theorem sized_cons : Sized (tile :: rest) ↔
    (blockAlignment ∣ tile.size ∧ minimumFreeBlockSize ≤ tile.size) ∧ Sized rest :=
  forall_mem_cons

/-! ### Cutting and keeping -/

theorem laid_append : Laid memory position (front ++ back) head tail ↔
    ∃ middle, Laid memory position front head middle ∧
      Laid memory (position + total front) back middle tail := by
  induction front generalizing position head with
  | nil =>
    constructor
    · intro laid
      exact ⟨head, rfl, laid⟩
    · rintro ⟨middle, rfl, laid⟩
      exact laid
  | cons tile rest hypothesis =>
    rw [total_cons, ← Nat.add_assoc]
    cases tile with
    | free size =>
      constructor
      · rintro ⟨isHead, next, small, holds, laid⟩
        obtain ⟨middle, first, second⟩ := hypothesis.mp laid
        exact ⟨middle, ⟨isHead, next, small, holds, first⟩, second⟩
      · rintro ⟨middle, ⟨isHead, next, small, holds, first⟩, second⟩
        exact ⟨isHead, next, small, holds, hypothesis.mpr ⟨middle, first, second⟩⟩
    | owned size payload =>
      constructor
      · rintro ⟨seated, laid⟩
        obtain ⟨middle, first, second⟩ := hypothesis.mp laid
        exact ⟨middle, ⟨seated, first⟩, second⟩
      · rintro ⟨middle, ⟨seated, first⟩, second⟩
        exact ⟨seated, hypothesis.mpr ⟨middle, first, second⟩⟩

theorem inHeader_append : InHeader position (front ++ back) address ↔
    InHeader position front address ∨ InHeader (position + total front) back address := by
  induction front generalizing position with
  | nil => exact (false_or _).to_iff.symm
  | cons tile rest hypothesis =>
    rw [total_cons, ← Nat.add_assoc]
    cases tile with
    | free size =>
      rw [cons_append, InHeader, InHeader, hypothesis, or_assoc]
      rfl
    | owned size payload =>
      rw [cons_append, InHeader, InHeader, hypothesis, or_assoc]
      rfl

theorem Seated.congr (seated : Seated memory position size payload)
    (same : ∀ address, payload.address - allocationHeaderBytes ≤ address → address < payload.address →
      other address = memory address) : Seated other position size payload where
  nonempty := seated.nonempty
  room := seated.room
  fits := seated.fits
  aligned := seated.aligned
  header := by
    refine seated.header.congr fun place above below => same place above ?_
    have room := seated.room
    have count : (words [allocationMagic, position, size, payload.length]).length =
      allocationHeaderBytes := words_length _
    omega

/-- A tiling depends on its headers only. -/
theorem Laid.congr (laid : Laid memory position tiles head tail)
    (same : ∀ address, InHeader position tiles address → other address = memory address) :
    Laid other position tiles head tail := by
  induction tiles generalizing position head with
  | nil => exact laid
  | cons tile rest hypothesis =>
    cases tile with
    | free size =>
      obtain ⟨isHead, next, small, holds, behind⟩ := laid
      refine ⟨isHead, next, small, holds.congr fun place above below => same place (.inl ⟨above, ?_⟩),
        hypothesis behind fun place inside => same place (.inr inside)⟩
      rwa [words_length] at below
    | owned size payload =>
      obtain ⟨seated, behind⟩ := laid
      exact ⟨seated.congr fun place above below => same place (.inl ⟨above, below⟩),
        hypothesis behind fun place inside => same place (.inr inside)⟩

theorem Laid.within (laid : Laid memory position tiles head tail) (sized : Sized tiles)
    (inside : InHeader position tiles address) :
    position ≤ address ∧ address < position + total tiles := by
  induction tiles generalizing position head with
  | nil => exact inside.elim
  | cons tile rest hypothesis =>
    obtain ⟨⟨-, large⟩, sizedRest⟩ := sized_cons.mp sized
    rw [total_cons]
    cases tile with
    | free size =>
      obtain ⟨-, next, -, -, behind⟩ := laid
      rcases inside with here | later
      · have room : freeBlockBytes ≤ size := le_trans (by decide) large
        show position ≤ address ∧ address < position + (size + total rest)
        omega
      · have bounds := hypothesis behind sizedRest later
        show position ≤ address ∧ address < position + (size + total rest)
        omega
    | owned size payload =>
      obtain ⟨seated, behind⟩ := laid
      have room := seated.room
      have fits := seated.fits
      rcases inside with here | later
      · show position ≤ address ∧ address < position + (size + total rest)
        omega
      · have bounds := hypothesis behind sizedRest later
        show position ≤ address ∧ address < position + (size + total rest)
        omega

/-- What is written in another part of the region keeps a tiling. -/
theorem Laid.keep (laid : Laid memory position tiles head tail) (sized : Sized tiles)
    (same : ∀ address, position ≤ address → address < position + total tiles →
      other address = memory address) : Laid other position tiles head tail :=
  laid.congr fun address inside =>
    same address (laid.within sized inside).1 (laid.within sized inside).2

/-! ### The links -/

theorem Laid.of_owned (laid : Laid memory position tiles head tail) (owned : AllOwned tiles) :
    head = tail ∧ ∀ other, Laid memory position tiles other other := by
  induction tiles generalizing position head with
  | nil => exact ⟨laid, fun _ => rfl⟩
  | cons tile rest hypothesis =>
    obtain ⟨here, ownedRest⟩ := forall_mem_cons.mp owned
    cases tile with
    | free size => cases here
    | owned size payload =>
      obtain ⟨seated, behind⟩ := laid
      obtain ⟨same, everywhere⟩ := hypothesis behind ownedRest
      exact ⟨same, fun other => ⟨seated, everywhere other⟩⟩

/-- The head of a list of tiles is one of their positions, or the tail. -/
theorem Laid.head_cases (laid : Laid memory position tiles head tail) (sized : Sized tiles) :
    head = tail ∨ (position ≤ head ∧ head < position + total tiles) := by
  induction tiles generalizing position head with
  | nil => exact .inl laid
  | cons tile rest hypothesis =>
    obtain ⟨⟨-, large⟩, sizedRest⟩ := sized_cons.mp sized
    have room : 0 < tile.size := Nat.lt_of_lt_of_le (by decide) large
    rw [total_cons]
    cases tile with
    | free size =>
      rw [laid.1]
      exact .inr ⟨le_rfl, Nat.lt_add_of_pos_right (Nat.add_pos_left room _)⟩
    | owned size payload =>
      refine (hypothesis laid.2 sizedRest).imp_right fun bounds => ?_
      show position ≤ head ∧ head < position + (size + total rest)
      omega

/-- The position of the last free tile, or zero if there is none. -/
def IsPrevious (position : Nat) (tiles : List Block) (previous : Nat) : Prop :=
  (previous = 0 ∧ AllOwned tiles) ∨
    ∃ front size back, tiles = front ++ .free size :: back ∧ AllOwned back ∧
      previous = position + total front

theorem isPrevious_owned (isPrevious : IsPrevious position front previous) (size : Nat)
    (payload : Payload) : IsPrevious position (front ++ [.owned size payload]) previous := by
  rcases isPrevious with ⟨zero, owned⟩ | ⟨first, free, last, rfl, owned, place⟩
  · refine .inl ⟨zero, forall_mem_append.mpr ⟨owned, ?_⟩⟩
    exact forall_mem_singleton.mpr rfl
  · refine .inr ⟨first, free, last ++ [.owned size payload], ?_, ?_, place⟩
    · rw [append_assoc, cons_append]
    · exact forall_mem_append.mpr ⟨owned, forall_mem_singleton.mpr rfl⟩

theorem isPrevious_free (position : Nat) (front : List Block) (size : Nat) :
    IsPrevious position (front ++ [.free size]) (position + total front) :=
  Or.inr ⟨front, size, [], rfl, fun _ member => absurd member not_mem_nil, rfl⟩

section Link

variable {heap : Heap}

/-- Linking writes only into the free tile in front. -/
theorem linkTo_outside (sized : Sized front) (isPrevious : IsPrevious position front previous)
    (outside : ¬ (position ≤ address ∧ address < position + total front)) :
    (heap.linkTo previous replacement).memory address = heap.memory address := by
  unfold Heap.linkTo
  split
  · rfl
  · rename_i present
    rcases isPrevious with ⟨zero, -⟩ | ⟨first, size, last, rfl, -, rfl⟩
    · exact absurd zero present
    · have large := (sized_cons.mp (sized_append.mp sized).2).1.2
      have count : (words [replacement]).length = 8 := words_length _
      have room : minimumFreeBlockSize ≤ size := large
      rw [total_append, total_cons] at outside
      replace outside : ¬ (position ≤ address ∧
        address < position + (total first + (size + total last))) := outside
      refine store_outside ?_
      unfold minimumFreeBlockSize at room
      omega

/-- Point the last free tile, or the head when there is none, to another tail. -/
theorem Laid.relink (laid : Laid heap.memory position front heap.freeHead middle) (sized : Sized front)
    (isPrevious : IsPrevious position front previous) (positive : 0 < position)
    (small : replacement < 2 ^ 64) :
    Laid (heap.linkTo previous replacement).memory position front
        (heap.linkTo previous replacement).freeHead replacement ∧
      ∀ address, ¬ InHeader position front address →
        (heap.linkTo previous replacement).memory address = heap.memory address := by
  unfold Heap.linkTo
  rcases isPrevious with ⟨rfl, owned⟩ | ⟨first, size, last, rfl, owned, rfl⟩
  · exact ⟨(laid.of_owned owned).2 replacement, fun _ _ => rfl⟩
  · rw [if_neg (by omega)]
    obtain ⟨link, laidFirst, isHead, next, -, holds, laidLast⟩ := laid_append.mp laid
    obtain ⟨sizedFirst, sizedLater⟩ := sized_append.mp sized
    obtain ⟨⟨-, large⟩, sizedLast⟩ := sized_cons.mp sizedLater
    have enough : freeBlockBytes ≤ size := le_trans (by decide) large
    have written (place : Nat) (apart : place < position + total first + 8 ∨
        position + total first + 16 ≤ place) :
        setNext heap.memory (position + total first) replacement place = heap.memory place := by
      have count : (words [replacement]).length = 8 := words_length _
      exact store_outside (by omega)
    refine ⟨laid_append.mpr ⟨link, ?_, isHead, replacement, small, ?_, ?_⟩, fun place outside => ?_⟩
    · exact laidFirst.keep sizedFirst fun place _ below => written place (.inl (by omega))
    · rw [words_cons, holds_append] at holds ⊢
      refine ⟨holds.1.congr fun place _ below => written place (.inl ?_), ?_⟩
      · rwa [littleEndian_length] at below
      · rw [littleEndian_length]
        exact store_holds heap.memory _ _
    · refine ((laidLast.of_owned owned).2 replacement).keep sizedLast fun place above _ =>
        written place (.inr (le_trans ?_ above))
      exact Nat.add_le_add_left enough _
    · refine written place ?_
      by_contra inside
      rw [not_or, not_lt, not_le] at inside
      exact outside (inHeader_append.mpr (.inr (.inl ⟨by omega, inside.2⟩)))

/-- Exchange a part of the tiling: the tiles in front are linked to the new part, and the new part
leads to the tiles behind. -/
theorem Laid.exchange {before cut after : List Block} {next : Nat}
    (laidBefore : Laid heap.memory position before heap.freeHead middle) (sizedBefore : Sized before)
    (isPrevious : IsPrevious position before previous) (positive : 0 < position)
    (small : replacement < 2 ^ 64)
    (laidCut : Laid other (position + total before) cut replacement next)
    (laidAfter : Laid heap.memory (position + total before + total cut) after next tail)
    (sizedAfter : Sized after)
    (written : ∀ address, ¬ (position + total before ≤ address ∧
      address < position + total before + total cut) →
        other address = (heap.linkTo previous replacement).memory address) :
    Laid other position (before ++ (cut ++ after)) (heap.linkTo previous replacement).freeHead tail ∧
      ∀ address, ¬ InHeader position before address →
        ¬ (position + total before ≤ address ∧ address < position + total before + total cut) →
          other address = heap.memory address := by
  obtain ⟨relinked, outside⟩ := laidBefore.relink sizedBefore isPrevious positive small
  refine ⟨laid_append.mpr ⟨replacement, ?_, laid_append.mpr ⟨next, laidCut, ?_⟩⟩,
    fun address notInFront notInCut => (written address notInCut).trans (outside address notInFront)⟩
  · exact relinked.keep sizedBefore fun address _ below => written address (by omega)
  · refine laidAfter.keep sizedAfter fun address above _ => (written address (by omega)).trans ?_
    exact linkTo_outside sizedBefore isPrevious (by omega)

end Link

end ZigOs.KernelHeap
