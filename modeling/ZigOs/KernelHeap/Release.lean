/-
This file proves what freeing does to the tiling. The owned tile of the payload
becomes a free one, which is linked between the free tiles on either side of it,
and is joined with the tile behind it and with the one in front when these are
free too.
-/

import ZigOs.KernelHeap.Allocation

namespace ZigOs.KernelHeap

open ByteMemory Extents Tiling List Heap

/-! ### Bytes that nobody reads -/

/-- The address is in a free tile, behind the words that link it. -/
def Slack : Nat → List Block → Nat → Prop
  | _, [], _ => False
  | position, .free size :: rest, address =>
    (position + freeBlockBytes ≤ address ∧ address < position + size) ∨
      Slack (position + size) rest address
  | position, .owned size _ :: rest, address => Slack (position + size) rest address

section Slack

variable {memory : Memory} {front back tiles : List Block} {payload : Payload}
  {position head tail address size : Nat}

theorem slack_append : Slack position (front ++ back) address ↔
    Slack position front address ∨ Slack (position + total front) back address := by
  induction front generalizing position with
  | nil => exact (false_or _).to_iff.symm
  | cons tile rest hypothesis =>
    rw [total_cons, ← Nat.add_assoc]
    cases tile with
    | free size =>
      rw [cons_append, Slack, Slack, hypothesis, or_assoc]
      rfl
    | owned size payload =>
      rw [cons_append, Slack, Slack, hypothesis]
      rfl

theorem Slack.within (slack : Slack position tiles address) :
    position + freeBlockBytes ≤ address ∧ address < position + total tiles := by
  induction tiles generalizing position with
  | nil => exact slack.elim
  | cons tile rest hypothesis =>
    rw [total_cons]
    cases tile with
    | free size =>
      show position + freeBlockBytes ≤ address ∧ address < position + (size + total rest)
      rcases slack with here | later
      · omega
      · have bounds := hypothesis later
        omega
    | owned size payload =>
      show position + freeBlockBytes ≤ address ∧ address < position + (size + total rest)
      have bounds := hypothesis slack
      omega

/-- The tiling does not depend on the slack. -/
theorem Slack.not_inHeader (slack : Slack position tiles address)
    (laid : Laid memory position tiles head tail) (sized : Sized tiles) :
    ¬ InHeader position tiles address := by
  induction tiles generalizing position head with
  | nil => exact slack.elim
  | cons tile rest hypothesis =>
    obtain ⟨⟨-, large⟩, sizedRest⟩ := sized_cons.mp sized
    intro inside
    cases tile with
    | free size =>
      have room : freeBlockBytes ≤ size := le_trans (by decide) large
      obtain ⟨-, next, -, -, behind⟩ := laid
      rcases slack with here | later
      · rcases inside with link | further
        · omega
        · have bounds := behind.within sizedRest further
          omega
      · rcases inside with link | further
        · have bounds := later.within
          omega
        · exact hypothesis later behind sizedRest further
    | owned size payload =>
      obtain ⟨seated, behind⟩ := laid
      rcases inside with header | further
      · have later : Slack (position + size) rest address := slack
        have bounds := later.within
        have fits := seated.fits
        omega
      · exact hypothesis slack behind sizedRest further

theorem Slack.release (slack : Slack position (front ++ .owned size payload :: back) address) :
    Slack position (front ++ .free size :: back) address :=
  slack_append.mpr ((slack_append.mp slack).imp_right Or.inr)

end Slack

/-! ### The linked tiles -/

/-- The free list leads through the free tiles of the region, which may be neighbours. -/
structure Heap.Linked (heap : Heap) (tiles : List Block) : Prop where
  positive : 0 < heap.regionBase
  bound : heap.regionBase + heap.regionSize < 2 ^ 64
  whole : total tiles = heap.regionSize
  sized : Sized tiles
  laid : Laid heap.memory heap.regionBase tiles heap.freeHead 0

theorem Heap.Kept.linked {heap : Heap} {tiles : List Block} (kept : heap.Kept tiles) :
    heap.Linked tiles :=
  ⟨kept.positive, kept.bound, kept.whole, kept.sized, kept.laid⟩

theorem setFreeBlock_outside {memory : Memory} {address place : Nat} {block : FreeBlock}
    (outside : ¬ (address ≤ place ∧ place < address + freeBlockBytes)) :
    setFreeBlock memory address block place = memory place := by
  have count : (words [block.size, block.next]).length = freeBlockBytes := words_length _
  exact store_outside (by omega)

section Join

variable {heap : Heap} {before front back after : List Block} {first second size next : Nat}

/-- The words of a free tile, and the list behind it. -/
theorem Heap.Linked.freeBlock (linked : heap.Linked (front ++ .free size :: back)) :
    ∃ next < 2 ^ 64, freeBlockAt heap.memory (heap.regionBase + total front) = { size, next } ∧
      Laid heap.memory heap.regionBase front heap.freeHead (heap.regionBase + total front) ∧
      Laid heap.memory (heap.regionBase + total front + size) back next 0 := by
  obtain ⟨middle, laidFront, rfl, next, small, holds, laidBack⟩ := laid_append.mp linked.laid
  have whole := linked.whole
  rw [total_append, total_cons] at whole
  replace whole : total front + (size + total back) = heap.regionSize := whole
  have bound := linked.bound
  exact ⟨next, small, freeBlockAt_of_holds (by omega) small holds, laidFront, laidBack⟩

/-- Two free neighbours are joined by writing the first one's words again. -/
theorem Heap.Linked.join (linked : heap.Linked (front ++ .free first :: .free second :: back)) :
    ∃ next, freeBlockAt heap.memory (heap.regionBase + total front) =
          { size := first, next := heap.regionBase + total front + first } ∧
        freeBlockAt heap.memory (heap.regionBase + total front + first) = { size := second, next } ∧
        Heap.Linked { heap with
            memory := setFreeBlock heap.memory (heap.regionBase + total front)
              { size := first + second, next } }
          (front ++ .free (first + second) :: back) := by
  obtain ⟨link, -, block, laidFront, isLink, next, small, holds, laidBack⟩ := linked.freeBlock
  have whole := linked.whole
  rw [total_append, total_cons, total_cons] at whole
  replace whole : total front + (first + (second + total back)) = heap.regionSize := whole
  have bound := linked.bound
  obtain ⟨sizedFront, sizedRest⟩ := sized_append.mp linked.sized
  obtain ⟨⟨multipleFirst, largeFirst⟩, sizedLater⟩ := sized_cons.mp sizedRest
  obtain ⟨⟨multipleSecond, -⟩, sizedBack⟩ := sized_cons.mp sizedLater
  have room : freeBlockBytes ≤ first := le_trans (by decide) largeFirst
  rw [isLink] at block
  refine ⟨next, block, freeBlockAt_of_holds (by omega) small holds, linked.positive, bound, ?_, ?_,
    laid_append.mpr ⟨_, ?_, rfl, next, small, store_holds _ _ _, ?_⟩⟩
  · rw [total_append, total_cons]
    show total front + (first + second + total back) = heap.regionSize
    omega
  · exact sized_append.mpr ⟨sizedFront, sized_cons.mpr
      ⟨⟨Nat.dvd_add multipleFirst multipleSecond, Nat.le_add_right_of_le largeFirst⟩, sizedBack⟩⟩
  · exact laidFront.keep sizedFront fun address _ below => setFreeBlock_outside (by omega)
  · rw [← Nat.add_assoc]
    exact laidBack.keep sizedBack fun address above _ => setFreeBlock_outside (by omega)

/-! ### Merging -/

def AllFree (tiles : List Block) : Prop := ∀ tile ∈ tiles, tile.isFree = true

/-- The block takes in the tile behind it, if that one is free. -/
theorem Heap.Linked.mergeNext (linked : heap.Linked (before ++ .free size :: after))
    (block : freeBlockAt heap.memory (heap.regionBase + total before) = { size, next })
    (coalesced : Coalesced after) :
    ∃ taken back, after = taken ++ back ∧ AllFree taken ∧ (∀ tile ∈ back.head?, tile.isFree = false) ∧
      (heap.mergeNext (heap.regionBase + total before) next).Linked
        (before ++ .free (size + total taken) :: back) := by
  obtain ⟨link, -, read, -, behind⟩ := linked.freeBlock
  obtain rfl : link = next := congrArg FreeBlock.next (read.symm.trans block)
  have sizedAfter := (sized_cons.mp (sized_append.mp linked.sized).2).2
  have positive := linked.positive
  unfold mergeNext
  rw [block]
  dsimp only
  cases after with
  | nil =>
    obtain rfl : link = 0 := behind
    rw [if_neg fun both => both.1 rfl]
    exact ⟨[], [], rfl, fun _ member => absurd member not_mem_nil,
      fun _ member => absurd member (by simp), linked⟩
  | cons tile rest =>
    obtain ⟨⟨-, large⟩, sizedRest⟩ := sized_cons.mp sizedAfter
    cases tile with
    | owned more payload =>
      have ahead : link = 0 ∨ (heap.regionBase + total before + size + more ≤ link ∧
          link < heap.regionBase + total before + size + more + total rest) :=
        behind.2.head_cases sizedRest
      have room : 0 < more := Nat.lt_of_lt_of_le (by decide) large
      rw [if_neg (by omega)]
      exact ⟨[], _, rfl, fun _ member => absurd member not_mem_nil,
        fun tile member => by rw [← Option.some.inj member]; rfl, linked⟩
    | free more =>
      obtain ⟨further, here, there, joined⟩ := linked.join
      obtain rfl : heap.regionBase + total before + size = link := behind.1.symm
      rw [if_pos ⟨by omega, rfl⟩, there]
      exact ⟨[.free more], rest, rfl, forall_mem_singleton.mpr rfl, fun tile member =>
        ((isChain_cons.mp coalesced).1 tile member).resolve_left (by simp [Tile.isFree]), joined⟩

/-- The block is taken in by the tile in front of it, if that one is free. -/
theorem Heap.Linked.mergePrevious {previous : Nat}
    (linked : heap.Linked (before ++ .free size :: after))
    (isPrevious : IsPrevious heap.regionBase before previous) (coalesced : Coalesced before) :
    ∃ front taken, before = front ++ taken ∧ AllFree taken ∧
      (∀ tile ∈ front.getLast?, tile.isFree = false) ∧
      (heap.mergePrevious (heap.regionBase + total before) previous).Linked
        (front ++ .free (total taken + size) :: after) := by
  have positive := linked.positive
  unfold Heap.mergePrevious
  dsimp only
  rcases isPrevious with ⟨rfl, owned⟩ | ⟨front, more, last, rfl, owned, rfl⟩
  · rw [if_neg fun both => both.1 rfl]
    refine ⟨before, [], (append_nil _).symm, fun _ member => absurd member not_mem_nil,
      fun tile member => owned tile (mem_of_getLast? member), ?_⟩
    rwa [total_nil, Nat.zero_add]
  · rw [append_assoc, cons_append] at linked
    obtain ⟨link, -, read, -, -⟩ := linked.freeBlock
    cases last with
    | nil =>
      obtain ⟨further, here, there, joined⟩ := linked.join
      have isTotal : heap.regionBase + total (front ++ [.free more]) =
          heap.regionBase + total front + more := by
        rw [total_append, ← Nat.add_assoc]
        rfl
      rw [isTotal, here, if_pos ⟨by omega, rfl⟩, there]
      refine ⟨front, [.free more], rfl, forall_mem_singleton.mpr rfl, fun tile member => ?_, joined⟩
      exact ((isChain_append.mp coalesced).2.2 tile member _ rfl).resolve_right
        (by simp [Tile.isFree])
    | cons tile rest =>
      have sized := (sized_cons.mp (sized_append.mp linked.sized).2).2
      have large := (sized_cons.mp sized).1.2
      have room : 0 < tile.size := Nat.lt_of_lt_of_le (by decide) large
      have isTotal : heap.regionBase + total (front ++ .free more :: tile :: rest) =
          heap.regionBase + total front + (more + (tile.size + total rest)) := by
        rw [total_append, total_cons, total_cons, ← Nat.add_assoc]
        rfl
      rw [read, if_neg (by dsimp only; omega)]
      refine ⟨front ++ .free more :: tile :: rest, [], (append_nil _).symm,
        fun _ member => absurd member not_mem_nil, fun other member => ?_, ?_⟩
      · rw [getLast?_append, getLast?_cons_cons] at member
        have isLast := mem_of_getLast? (l := tile :: rest) (by simpa using member)
        exact owned other isLast
      · rwa [total_nil, Nat.zero_add, append_assoc, cons_append]

end Join

/-! ### The merged tiles -/

/-- A free tile between `before` and `after` takes in all that is free next to it. -/
structure Merged (before after front ahead behind back : List Block) : Prop where
  before : before = front ++ ahead
  after : after = behind ++ back
  ahead : AllFree ahead
  behind : AllFree behind
  last : ∀ tile ∈ front.getLast?, tile.isFree = false
  first : ∀ tile ∈ back.head?, tile.isFree = false

section Merged

variable {before after front ahead behind back tiles : List Block} {size position address : Nat}

theorem AllFree.totals (free : AllFree tiles) (position : Nat) : freeTotal tiles = total tiles ∧
    ownedTotal tiles = 0 ∧ ownedExtents position tiles = [] := by
  induction tiles generalizing position with
  | nil => exact ⟨rfl, rfl, rfl⟩
  | cons tile rest hypothesis =>
    obtain ⟨here, freeRest⟩ := forall_mem_cons.mp free
    cases tile with
    | owned size payload => cases here
    | free size =>
      obtain ⟨isTotal, nobody, ownerless⟩ := hypothesis freeRest (position + size)
      refine ⟨?_, nobody, ownerless⟩
      rw [freeTotal, isTotal, total_cons]
      rfl

theorem Merged.totals (merged : Merged before after front ahead behind back) (size position : Nat) :
    freeTotal (front ++ .free (total ahead + (size + total behind)) :: back) =
        freeTotal before + (size + freeTotal after) ∧
      ownedTotal (front ++ .free (total ahead + (size + total behind)) :: back) =
        ownedTotal before + ownedTotal after ∧
      ownedExtents position (front ++ .free (total ahead + (size + total behind)) :: back) =
        ownedExtents position before ++ ownedExtents (position + total before + size) after := by
  obtain ⟨rfl, rfl, freeAhead, freeBehind, -, -⟩ := merged
  obtain ⟨totalAhead, noneAhead, emptyAhead⟩ := freeAhead.totals (position + total front)
  obtain ⟨totalBehind, noneBehind, emptyBehind⟩ :=
    freeBehind.totals (position + (total front + total ahead) + size)
  refine ⟨?_, ?_, ?_⟩
  · rw [freeTotal_append, freeTotal_append, freeTotal_append, freeTotal, totalAhead, totalBehind]
    omega
  · rw [ownedTotal_append, ownedTotal_append, ownedTotal_append, ownedTotal, noneAhead, noneBehind,
      Nat.add_zero, Nat.zero_add]
  · have place : position + total front + (total ahead + (size + total behind)) =
        position + (total front + total ahead) + size + total behind := by omega
    rw [ownedExtents_append, ownedExtents_append, ownedExtents_append, total_append, ownedExtents,
      emptyAhead, emptyBehind, append_nil, nil_append, place]

theorem Merged.coalesced (merged : Merged before after front ahead behind back)
    (coalescedBefore : Coalesced before) (coalescedAfter : Coalesced after) :
    Coalesced (front ++ .free size :: back) := by
  obtain ⟨rfl, rfl, -, -, last, first⟩ := merged
  refine isChain_append.mpr ⟨(isChain_append.mp coalescedBefore).1, isChain_cons.mpr
    ⟨fun tile member => .inr (first tile member), (isChain_append.mp coalescedAfter).2.1⟩,
    fun tile member _ _ => .inl (last tile member)⟩

theorem Merged.slack (merged : Merged before after front ahead behind back)
    (slack : Slack position (before ++ .free size :: after) address) :
    Slack position (front ++ .free (total ahead + (size + total behind)) :: back) address := by
  obtain ⟨rfl, rfl, -, -, -, -⟩ := merged
  have regroup : front ++ ahead ++ .free size :: (behind ++ back) =
      front ++ ((ahead ++ .free size :: behind) ++ back) := by
    rw [append_assoc, append_assoc, cons_append]
  rw [regroup] at slack
  have isTotal : total (ahead ++ .free size :: behind) = total ahead + (size + total behind) :=
    total_append _ _
  rcases slack_append.mp slack with before | later
  · exact slack_append.mpr (.inl before)
  · rcases slack_append.mp later with here | behind
    · have bounds := here.within
      rw [isTotal] at bounds
      exact slack_append.mpr (.inr (.inl ⟨bounds.1, by omega⟩))
    · rw [isTotal] at behind
      exact slack_append.mpr (.inr (.inr behind))

end Merged

/-! ### Inserting a block -/

section Insert

variable {heap : Heap} {memory marked : Memory} {front rest before after : List Block} {payload : Payload}
  {base current previous rounds next size blockStart address : Nat}

/-- The loop ends within the rounds, between the free tiles on either side. -/
theorem findGap_spec (positive : 0 < base) (bound : base + total (front ++ rest) < 2 ^ 64)
    (sized : Sized (front ++ rest)) (laid : Laid memory (base + total front) rest current next)
    (ahead : next = 0 ∨ base + total (front ++ rest) ≤ next)
    (isPrevious : IsPrevious base front previous) (enough : rest.length < rounds) :
    ∃ found, findGap memory (base + total (front ++ rest)) rounds previous current =
        some (found, next) ∧ IsPrevious base (front ++ rest) found := by
  induction rest generalizing front current previous rounds with
  | nil =>
    obtain ⟨rounds, rfl⟩ := Nat.exists_eq_succ_of_ne_zero (Nat.ne_of_gt enough)
    obtain rfl : current = next := laid
    rw [append_nil] at ahead ⊢
    refine ⟨previous, if_neg ?_, isPrevious⟩
    omega
  | cons tile rest hypothesis =>
    have shift : base + total (front ++ [tile]) = base + total front + tile.size := by
      rw [total_append, total_cons, total_nil, Nat.add_zero, Nat.add_assoc]
    have regroup : front ++ tile :: rest = (front ++ [tile]) ++ rest := by
      rw [append_assoc, singleton_append]
    rw [regroup] at bound sized ahead ⊢
    cases tile with
    | owned size payload =>
      refine hypothesis bound sized ?_ ahead (isPrevious_owned isPrevious size payload)
        (Nat.lt_of_succ_lt enough)
      rw [shift]
      exact laid.2
    | free size =>
      obtain ⟨rfl, link, small, holds, behind⟩ := laid
      obtain ⟨rounds, rfl⟩ := Nat.exists_eq_succ_of_ne_zero (Nat.ne_of_gt (Nat.zero_lt_of_lt enough))
      have large := (sized_append.mp sized).1 (.free size) (by simp)
      have room : 0 < size := Nat.lt_of_lt_of_le (by decide) large.2
      have further : base + total front + size ≤ base + total (front ++ [.free size] ++ rest) := by
        rw [total_append, ← Nat.add_assoc, shift]
        exact Nat.le_add_right _ _
      rw [findGap, if_pos (by omega), freeBlockAt_of_holds (by omega) small holds]
      refine hypothesis bound sized ?_ ahead (isPrevious_free base front size)
        (Nat.lt_of_succ_lt_succ enough)
      rwa [shift]

theorem IsPrevious.inHeader (isPrevious : IsPrevious base before previous) (present : previous ≠ 0)
    (inside : previous ≤ address ∧ address < previous + freeBlockBytes) : InHeader base before address := by
  rcases isPrevious with ⟨zero, -⟩ | ⟨first, size, last, rfl, -, rfl⟩
  · exact absurd zero present
  · exact inHeader_append.mpr (.inr (.inl inside))

theorem mergeNext_outside (outside : ¬ (blockStart ≤ address ∧ address < blockStart + freeBlockBytes)) :
    (heap.mergeNext blockStart next).memory address = heap.memory address := by
  unfold mergeNext
  dsimp only
  split
  · exact setFreeBlock_outside outside
  · rfl

theorem mergePrevious_outside (outside : previous ≠ 0 →
      ¬ (previous ≤ address ∧ address < previous + freeBlockBytes)) :
    (heap.mergePrevious blockStart previous).memory address = heap.memory address := by
  unfold Heap.mergePrevious
  dsimp only
  split
  · rename_i both
    exact setFreeBlock_outside (outside both.1)
  · rfl

theorem linkBlock_outside (apart : ¬ (blockStart ≤ address ∧ address < blockStart + freeBlockBytes))
    (outside : previous ≠ 0 → ¬ (previous ≤ address ∧ address < previous + freeBlockBytes)) :
    (heap.linkBlock blockStart size previous next).memory address = heap.memory address := by
  unfold Heap.linkBlock linkTo
  split
  · exact setFreeBlock_outside apart
  · rename_i present
    have count : (words [blockStart]).length = 8 := words_length _
    have away := outside present
    unfold freeBlockBytes at away
    refine (store_outside ?_).trans (setFreeBlock_outside apart)
    omega

/-- Inserting a block writes its first words, and those of the free tile in front of it. -/
theorem insert_outside (isPrevious : IsPrevious base before previous)
    (outside : ¬ InHeader base before address)
    (apart : ¬ (blockStart ≤ address ∧ address < blockStart + freeBlockBytes)) :
    (((heap.linkBlock blockStart size previous next).mergeNext blockStart next).mergePrevious blockStart
      previous).memory address = heap.memory address := by
  have away (present : previous ≠ 0) :
      ¬ (previous ≤ address ∧ address < previous + freeBlockBytes) := fun inside =>
    outside (isPrevious.inHeader present inside)
  rw [mergePrevious_outside away, mergeNext_outside apart, linkBlock_outside apart away]

theorem insert_fields (heap : Heap) (blockStart size previous next : Nat) : ∃ memory freeHead,
    ((heap.linkBlock blockStart size previous next).mergeNext blockStart next).mergePrevious blockStart
      previous = { heap with memory, freeHead } := by
  unfold Heap.mergePrevious mergeNext Heap.linkBlock linkTo
  dsimp only
  split_ifs
  all_goals exact ⟨_, _, rfl⟩

theorem linkTo_region (heap : Heap) (previous address : Nat) :
    (heap.linkTo previous address).regionBase = heap.regionBase ∧
      (heap.linkTo previous address).regionSize = heap.regionSize := by
  unfold linkTo
  split
  · exact ⟨rfl, rfl⟩
  · exact ⟨rfl, rfl⟩

/-- An owned tile becomes a free one, whatever has been written into it before. -/
theorem Heap.Linked.linkBlock (linked : heap.Linked (before ++ .owned size payload :: after))
    (enough : before.length < heap.rounds)
    (same : ∀ address, ¬ (heap.regionBase + total before ≤ address ∧
      address < heap.regionBase + total before + size) → marked address = heap.memory address) :
    ∃ previous next,
      findGap marked (heap.regionBase + total before) heap.rounds 0 heap.freeHead =
          some (previous, next) ∧ IsPrevious heap.regionBase before previous ∧
        Heap.Linked (Heap.linkBlock { heap with memory := marked } (heap.regionBase + total before) size
          previous next) (before ++ .free size :: after) ∧
        freeBlockAt (Heap.linkBlock { heap with memory := marked } (heap.regionBase + total before) size
          previous next).memory (heap.regionBase + total before) = { size, next } := by
  obtain ⟨positive, bound, whole, sized, laid⟩ := linked
  obtain ⟨middle, laidBefore, seated, laidAfter⟩ := laid_append.mp laid
  obtain ⟨sizedBefore, sizedRest⟩ := sized_append.mp sized
  obtain ⟨⟨multiple, large⟩, sizedAfter⟩ := sized_cons.mp sizedRest
  rw [total_append, total_cons] at whole
  replace whole : total before + (size + total after) = heap.regionSize := whole
  replace large : minimumFreeBlockSize ≤ size := large
  have room : freeBlockBytes ≤ size := le_trans (by decide) large
  have ahead := laidAfter.head_cases sizedAfter
  have smallNext : middle < 2 ^ 64 := by omega
  have markedBefore := laidBefore.keep sizedBefore fun address _ below => same address (by omega)
  obtain ⟨previous, found, isPrevious⟩ := @findGap_spec marked [] before heap.regionBase heap.freeHead 0
    heap.rounds middle positive (by rw [nil_append]; omega) sizedBefore markedBefore
    (by rw [nil_append]; omega)
    (.inl ⟨rfl, fun _ member => absurd member not_mem_nil⟩) enough
  rw [nil_append] at found isPrevious
  -- The words of the block are written first, then the link to it.
  obtain ⟨inserted, isInserted⟩ : ∃ inserted : Heap, inserted = { heap with
      memory := setFreeBlock marked (heap.regionBase + total before) { size, next := middle } } :=
    ⟨_, rfl⟩
  have sameInserted : inserted.memory =
      setFreeBlock marked (heap.regionBase + total before) { size, next := middle } := by rw [isInserted]
  have sameHead : inserted.freeHead = heap.freeHead := by rw [isInserted]
  have outside (address : Nat) (apart : ¬ (heap.regionBase + total before ≤ address ∧
      address < heap.regionBase + total before + size)) : inserted.memory address = heap.memory address := by
    rw [sameInserted, setFreeBlock_outside (by omega), same address apart]
  have insertedBefore : Laid inserted.memory heap.regionBase before inserted.freeHead middle := by
    rw [sameHead]
    exact laidBefore.keep sizedBefore fun address _ below => outside address (by omega)
  have holds : Holds (inserted.linkTo previous (heap.regionBase + total before)).memory
      (heap.regionBase + total before) (words [size, middle]) := by
    have written : Holds inserted.memory (heap.regionBase + total before) (words [size, middle]) := by
      rw [sameInserted]
      exact store_holds _ _ _
    exact written.congr fun address above _ => linkTo_outside sizedBefore isPrevious (by omega)
  have laidCut : Laid (inserted.linkTo previous (heap.regionBase + total before)).memory
      (heap.regionBase + total before) [.free size] (heap.regionBase + total before) middle :=
    ⟨rfl, middle, smallNext, holds, rfl⟩
  have isTotal : total ([.free size] : List Block) = size := Nat.add_zero size
  have insertedAfter : Laid inserted.memory
      (heap.regionBase + total before + total ([.free size] : List Block)) after middle 0 := by
    rw [isTotal]
    exact laidAfter.keep sizedAfter fun address above _ => outside address (by omega)
  have exchanged := insertedBefore.exchange sizedBefore isPrevious positive (by omega) laidCut
    insertedAfter sizedAfter fun _ _ => rfl
  have isLinked : Heap.linkBlock { heap with memory := marked } (heap.regionBase + total before) size
      previous middle = inserted.linkTo previous (heap.regionBase + total before) := by
    rw [isInserted]
    rfl
  refine ⟨previous, middle, found, isPrevious, ?_, ?_⟩
  · obtain ⟨sameBase, sameSize⟩ : inserted.regionBase = heap.regionBase ∧
        inserted.regionSize = heap.regionSize := by
      rw [isInserted]
      exact ⟨rfl, rfl⟩
    obtain ⟨linkedBase, linkedSize⟩ := linkTo_region inserted previous (heap.regionBase + total before)
    rw [isLinked]
    refine ⟨?_, ?_, ?_, ?_, ?_⟩
    · rwa [linkedBase, sameBase]
    · rwa [linkedBase, linkedSize, sameBase, sameSize]
    · rwa [linkedSize, sameSize, total_append, total_cons]
    · exact sized_append.mpr ⟨sizedBefore, sized_cons.mpr ⟨⟨multiple, large⟩, sizedAfter⟩⟩
    · rw [linkedBase, sameBase]
      exact exchanged.1
  · rw [isLinked]
    exact freeBlockAt_of_holds (by omega) smallNext holds

theorem insertFreeBlock_of_found
    (found : findGap heap.memory blockStart heap.rounds 0 heap.freeHead = some (previous, next)) :
    heap.insertFreeBlock blockStart size = some (((heap.linkBlock blockStart size previous
      next).mergeNext blockStart next).mergePrevious blockStart previous) := by
  unfold insertFreeBlock
  rw [found]

theorem linkBlock_region (heap : Heap) (blockStart size previous next : Nat) :
    (heap.linkBlock blockStart size previous next).regionBase = heap.regionBase :=
  (linkTo_region _ _ _).1

theorem mergeNext_region (heap : Heap) (blockStart next : Nat) :
    (heap.mergeNext blockStart next).regionBase = heap.regionBase := by
  unfold mergeNext
  dsimp only
  split
  · rfl
  · rfl

/-- The block that is inserted takes in its free neighbours. -/
theorem Heap.Kept.insertFreeBlock (kept : heap.Kept (before ++ .owned size payload :: after))
    (same : ∀ address, ¬ (heap.regionBase + total before ≤ address ∧
      address < heap.regionBase + total before + size) → marked address = heap.memory address) :
    ∃ front ahead behind back inserted, Merged before after front ahead behind back ∧
      insertFreeBlock { heap with memory := marked } (heap.regionBase + total before) size =
          some inserted ∧
        (∃ memory freeHead, inserted = { heap with memory, freeHead }) ∧
        inserted.Linked (front ++ .free (total ahead + (size + total behind)) :: back) ∧
        ∀ address, ¬ InHeader heap.regionBase before address →
          ¬ (heap.regionBase + total before ≤ address ∧
            address < heap.regionBase + total before + freeBlockBytes) →
              inserted.memory address = marked address := by
  have enough : before.length < heap.rounds := by
    refine Nat.lt_of_le_of_lt ?_ kept.rounds
    rw [length_append]
    exact Nat.le_add_right _ _
  obtain ⟨coalescedBefore, coalescedLater, -⟩ := isChain_append.mp kept.coalesced
  have coalescedAfter := (isChain_cons.mp coalescedLater).2
  obtain ⟨previous, next, found, isPrevious, linked, block⟩ := kept.linked.linkBlock enough same
  have linkedBase := linkBlock_region { heap with memory := marked } (heap.regionBase + total before) size
    previous next
  have mergedNext := linked.mergeNext (by rw [linkedBase]; exact block) coalescedAfter
  rw [linkedBase] at mergedNext
  obtain ⟨behind, back, isAfter, freeBehind, first, joined⟩ := mergedNext
  have joinedBase := mergeNext_region (Heap.linkBlock { heap with memory := marked }
    (heap.regionBase + total before) size previous next) (heap.regionBase + total before) next
  rw [linkedBase] at joinedBase
  have mergedPrevious := joined.mergePrevious (by rw [joinedBase]; exact isPrevious) coalescedBefore
  rw [joinedBase] at mergedPrevious
  obtain ⟨front, ahead, isBefore, freeAhead, last, merged⟩ := mergedPrevious
  refine ⟨front, ahead, behind, back, _, ⟨isBefore, isAfter, freeAhead, freeBehind, last, first⟩, ?_, ?_,
    merged, fun address outside apart => insert_outside isPrevious outside apart⟩
  · exact insertFreeBlock_of_found found
  · obtain ⟨memory, freeHead, isInserted⟩ := insert_fields { heap with memory := marked }
      (heap.regionBase + total before) size previous next
    exact ⟨memory, freeHead, isInserted⟩

end Insert

/-! ### The call -/

section Free

variable {heap : Heap} {memory : Memory} {before after : List Block} {payload : Payload} {size : Nat}

theorem allocationHeaderAt_of_holds {address blockStart blockSize payloadSize : Nat}
    (smallStart : blockStart < 2 ^ 64) (smallSize : blockSize < 2 ^ 64) (smallPayload : payloadSize < 2 ^ 64)
    (holds : Holds memory address (words [allocationMagic, blockStart, blockSize, payloadSize])) :
    allocationHeaderAt memory address =
      { magic := allocationMagic, blockStart, blockSize, payloadSize } := by
  unfold allocationHeaderAt
  have first := holds
  rw [words_cons, holds_append, littleEndian_length] at holds
  have second := holds.2
  rw [words_cons, holds_append, littleEndian_length] at holds
  have third := holds.2.2
  rw [words_cons, holds_append, littleEndian_length] at third
  have isSize : readWord memory (address + 16) = blockSize := readWord_of_holds smallSize holds.2.2
  have isPayload : readWord memory (address + 24) = payloadSize := readWord_of_holds smallPayload third.2
  rw [readWord_of_holds (by decide) first, readWord_of_holds smallStart second, isSize, isPayload]

/-- The payload lies inside the region, behind a header that says which block it is in. -/
theorem Heap.Kept.header (kept : heap.Kept (before ++ .owned size payload :: after)) :
    Seated heap.memory (heap.regionBase + total before) size payload ∧
      heap.regionBase + total before + size ≤ heap.regionBase + heap.regionSize ∧
      minimumFreeBlockSize ≤ size ∧
      allocationHeaderAt heap.memory (payload.address - allocationHeaderBytes) = {
        magic := allocationMagic
        blockStart := heap.regionBase + total before
        blockSize := size
        payloadSize := payload.length } := by
  obtain ⟨middle, -, seated, -⟩ := laid_append.mp kept.laid
  have whole := kept.whole
  rw [total_append, total_cons] at whole
  replace whole : total before + (size + total after) = heap.regionSize := whole
  have bound := kept.bound
  have fits := seated.fits
  have room := seated.room
  refine ⟨seated, by omega, (sized_cons.mp (sized_append.mp kept.sized).2).1.2, ?_⟩
  exact allocationHeaderAt_of_holds (by omega) (by omega) (by omega) seated.header

/-- A payload that is freed leaves a free tile, in which the header of the payload is marked, and
nothing is written but in front of the payload in its block and into the headers in front of it. -/
structure Released (heap : Heap) (before after : List Block) (size : Nat) (payload : Payload)
    (tiles : List Block) (freed : Heap) : Prop where
  kept : freed.Kept tiles
  regionBase : freed.regionBase = heap.regionBase
  regionSize : freed.regionSize = heap.regionSize
  owned : ownedExtents heap.regionBase tiles =
    ownedExtents heap.regionBase before ++ ownedExtents (heap.regionBase + total before + size) after
  slack : ∀ address, Slack heap.regionBase (before ++ .free size :: after) address →
    Slack heap.regionBase tiles address
  marked : Holds freed.memory (payload.address - allocationHeaderBytes) (words [freedMagic])
  outside : ∀ address, ¬ InHeader heap.regionBase before address →
    ¬ (heap.regionBase + total before ≤ address ∧ address < payload.address) →
      freed.memory address = heap.memory address

theorem Heap.Kept.free (kept : heap.Kept (before ++ .owned size payload :: after)) :
    ∃ tiles freed, heap.free payload.address payload.length = some (true, freed) ∧
      Released heap before after size payload tiles freed := by
  obtain ⟨seated, within, large, header⟩ := kept.header
  have fits := seated.fits
  have room := seated.room
  have nonempty := seated.nonempty
  have count : (words [freedMagic]).length = 8 := words_length _
  have word : 8 ≤ allocationHeaderBytes := by decide
  have behindLinks : heap.regionBase + total before + freeBlockBytes ≤
    payload.address - allocationHeaderBytes := Nat.le_sub_of_add_le room
  have same (address : Nat) (apart : ¬ (heap.regionBase + total before ≤ address ∧
      address < payload.address)) :
      setMagic heap.memory (payload.address - allocationHeaderBytes) freedMagic address =
        heap.memory address := store_outside (by omega)
  obtain ⟨front, ahead, behind, back, inserted, merged, done, ⟨memory, freeHead, rfl⟩, linked, written⟩ :=
    kept.insertFreeBlock fun address apart => same address (by omega)
  obtain ⟨freeTiles, ownedTiles, owners⟩ := merged.totals size heap.regionBase
  have coalesced := isChain_append.mp kept.coalesced
  have freeBefore := kept.freeBytes
  have ownedBefore := kept.allocatedBytes
  have activeBefore := kept.active
  rw [freeTotal_append, freeTotal] at freeBefore
  rw [ownedTotal_append, ownedTotal] at ownedBefore
  rw [ownedExtents_append, length_append, ownedExtents, length_cons] at activeBefore
  refine ⟨_, { heap with
      memory, freeHead
      freeBytes := heap.freeBytes + size
      allocatedBytes := heap.allocatedBytes - size
      activeAllocations := heap.activeAllocations - 1
      totalFrees := heap.totalFrees + 1 }, ?_, ⟨⟨linked.positive, kept.multiple, linked.bound, linked.whole, linked.sized,
    merged.coalesced coalesced.1 (isChain_cons.mp coalesced.2.1).2, linked.laid, ?_, ?_, ?_⟩, rfl, rfl,
      owners, fun address => merged.slack, ?_, fun address outside apart => ?_⟩⟩
  · have accepted : heap.acceptsHeader {
        magic := allocationMagic
        blockStart := heap.regionBase + total before
        blockSize := size
        payloadSize := payload.length } payload.length = true := by
      refine decide_eq_true ⟨rfl, rfl, Nat.le_add_right _ _, large, ?_⟩
      dsimp only
      omega
    unfold Heap.free
    rw [if_neg nonempty.ne', if_neg (by omega), if_neg (by omega)]
    dsimp only
    rw [header, accepted, if_neg (by decide)]
    dsimp only
    rw [done]
  · rw [freeTiles]
    show heap.freeBytes + size = _
    omega
  · rw [ownedTiles]
    show heap.allocatedBytes - size = _
    omega
  · show heap.activeAllocations - 1 =
      (ownedExtents heap.regionBase (front ++ .free (total ahead + (size + total behind)) :: back)).length
    rw [owners, length_append]
    omega
  · refine (store_holds heap.memory (payload.address - allocationHeaderBytes) _).congr
      fun address above below => written address (fun inside => ?_) (by omega)
    obtain ⟨middle, laidBefore, -⟩ := laid_append.mp kept.laid
    have bounds := laidBefore.within (sized_append.mp kept.sized).1 inside
    omega
  · refine (written address outside ?_).trans (same address apart)
    omega

theorem free_region {payload length : Nat} {success : Bool} {freed : Heap}
    (done : heap.free payload length = some (success, freed)) :
    freed.regionBase = heap.regionBase ∧ freed.regionSize = heap.regionSize := by
  unfold Heap.free insertFreeBlock at done
  dsimp only at done
  split_ifs at done
  any_goals
    cases done
    exact ⟨rfl, rfl⟩
  split at done
  · cases done
  · rename_i inserted isInserted
    split at isInserted
    · cases isInserted
    · obtain ⟨memory, freeHead, fields⟩ := insert_fields _ _ _ _ _
      rw [fields] at isInserted
      cases isInserted
      cases done
      exact ⟨rfl, rfl⟩

/-- A payload whose header is marked as freed is refused. -/
theorem free_refused {payload length : Nat}
    (marked : Holds heap.memory (payload - allocationHeaderBytes) (words [freedMagic])) :
    heap.free payload length = some (false, heap) := by
  have magic : (allocationHeaderAt heap.memory (payload - allocationHeaderBytes)).magic = freedMagic :=
    readWord_of_holds (by decide) marked
  have refused :
      heap.acceptsHeader (allocationHeaderAt heap.memory (payload - allocationHeaderBytes)) length =
        false := by
    refine decide_eq_false fun accepted => ?_
    rw [magic] at accepted
    cases accepted.1
  unfold Heap.free
  dsimp only
  rw [refused, if_pos rfl]
  split_ifs
  all_goals rfl

end Free

end ZigOs.KernelHeap
