/-
This file proves what an allocation does to the tiling. The search passes the
free blocks that cannot hold the request and stops at the first one that can;
the front of that block becomes an owned tile, and what is left of it stays free
unless it is too small.
-/

import ZigOs.KernelHeap.Layout

namespace ZigOs.KernelHeap

open ByteMemory Extents Tiling List

/-! ### Rounding -/

def roundUp (value alignment : Nat) : Nat := (value + (alignment - 1)) / alignment * alignment

section Rounding

variable {value other alignment aligned : Nat}

theorem dvd_roundUp (value alignment : Nat) : alignment ∣ roundUp value alignment :=
  Nat.dvd_mul_left _ _

theorem le_roundUp (positive : 0 < alignment) : value ≤ roundUp value alignment := by
  have division := Nat.div_add_mod (value + (alignment - 1)) alignment
  have remainder := Nat.mod_lt (value + (alignment - 1)) positive
  rw [Nat.mul_comm] at division
  unfold roundUp
  omega

theorem roundUp_le (positive : 0 < alignment) (below : value ≤ other) (multiple : alignment ∣ other) :
    roundUp value alignment ≤ other := by
  obtain ⟨count, rfl⟩ := multiple
  unfold roundUp
  rw [Nat.mul_comm alignment count]
  refine Nat.mul_le_mul_right _ (Nat.lt_succ_iff.mp ((Nat.div_lt_iff_lt_mul positive).mpr ?_))
  rw [Nat.succ_mul, Nat.mul_comm count]
  omega

theorem roundUp_mono (below : value ≤ other) : roundUp value alignment ≤ roundUp other alignment :=
  Nat.mul_le_mul_right _ (Nat.div_le_div_right (Nat.add_le_add_right below _))

theorem alignForward_some (rounded : alignForward value alignment = some aligned) :
    aligned = roundUp value alignment := by
  unfold alignForward at rounded
  split at rounded
  · cases rounded
  · exact (Option.some.inj rounded).symm

/-- When rounding up does not fit a word, the rounded value does not either. -/
theorem alignForward_none (positive : 0 < alignment) (divides : alignment ∣ 2 ^ 64)
    (overflows : alignForward value alignment = none) : 2 ^ 64 ≤ roundUp value alignment := by
  unfold alignForward at overflows
  split at overflows
  · rename_i large
    obtain ⟨count, isCount⟩ := divides
    have reached : count ≤ (value + (alignment - 1)) / alignment :=
      (Nat.le_div_iff_mul_le positive).mpr (by rw [Nat.mul_comm, ← isCount]; omega)
    rw [isCount, Nat.mul_comm]
    exact Nat.mul_le_mul_right _ reached
  · cases overflows

end Rounding

/-! ### Reading the list -/

section Reading

variable {memory : Memory} {address size next : Nat}

theorem freeBlockAt_of_holds (smallSize : size < 2 ^ 64) (smallNext : next < 2 ^ 64)
    (holds : Holds memory address (words [size, next])) :
    freeBlockAt memory address = { size, next } := by
  unfold freeBlockAt
  rw [readWord_of_holds smallSize holds]
  rw [words_cons, holds_append, littleEndian_length] at holds
  rw [readWord_of_holds smallNext holds.2]

end Reading

variable {tiles : List Block}

theorem total_multiple (sized : Sized tiles) : blockAlignment ∣ total tiles :=
  dvd_sum fun size member => by
    obtain ⟨tile, among, rfl⟩ := mem_map.mp member
    exact (sized tile among).1

theorem length_le_total (sized : Sized tiles) :
    minimumFreeBlockSize * tiles.length ≤ total tiles := by
  induction tiles with
  | nil => exact le_rfl
  | cons tile rest hypothesis =>
    obtain ⟨⟨-, large⟩, sizedRest⟩ := sized_cons.mp sized
    rw [length_cons, Nat.mul_succ, total_cons, Nat.add_comm]
    exact Nat.add_le_add large (hypothesis sizedRest)

/-! ### The search -/

/-- The block has room for the request behind its header. -/
def CanHold (requestedSize alignment : Nat) (block : Extent) : Prop :=
  roundUp (block.base + freeBlockBytes + allocationHeaderBytes) alignment + requestedSize ≤ block.stop

/-- The placement is in this free tile. -/
structure Placed (base requestedSize alignment : Nat) (tiles : List Block)
    (placement : Heap.Placement) (before : List Block) (blockSize : Nat) (after : List Block) : Prop where
  cut : tiles = before ++ .free blockSize :: after
  previous : IsPrevious base before placement.previous
  current : placement.current = base + total before
  payload : placement.payload =
    roundUp (placement.current + freeBlockBytes + allocationHeaderBytes) alignment
  room : placement.payload + requestedSize ≤ placement.current + blockSize
  alignedEnd : placement.alignedEnd = roundUp (placement.payload + requestedSize) blockAlignment

section Search

variable {memory : Memory} {front rest : List Block}
  {base current previous rounds requestedSize alignment : Nat}

/-- The search ends within the rounds, with the first free tile that can hold the request. -/
theorem findPlacement_spec (positive : 0 < base) (multiple : blockAlignment ∣ base)
    (bound : base + total (front ++ rest) < 2 ^ 64) (sized : Sized (front ++ rest))
    (laid : Laid memory (base + total front) rest current 0)
    (isPrevious : IsPrevious base front previous) (enough : rest.length < rounds)
    (nonempty : 0 < requestedSize) (aligns : 0 < alignment) (divides : alignment ∣ 2 ^ 64) :
    (Heap.findPlacement memory requestedSize alignment rounds previous current = some none ∧
        ∀ block ∈ freeExtents (base + total front) rest, ¬ CanHold requestedSize alignment block) ∨
      ∃ placement before blockSize after,
        Heap.findPlacement memory requestedSize alignment rounds previous current =
            some (some placement) ∧
          Placed base requestedSize alignment (front ++ rest) placement before blockSize after := by
  induction rest generalizing front current previous rounds with
  | nil =>
    obtain ⟨rounds, rfl⟩ := Nat.exists_eq_succ_of_ne_zero (Nat.ne_of_gt enough)
    refine .inl ⟨if_pos laid, fun block member => absurd member not_mem_nil⟩
  | cons tile rest hypothesis =>
    have shift : base + total (front ++ [tile]) = base + total front + tile.size := by
      rw [total_append, total_cons, total_nil, Nat.add_zero, Nat.add_assoc]
    have regroup : front ++ tile :: rest = (front ++ [tile]) ++ rest := by
      rw [append_assoc, singleton_append]
    rw [regroup] at bound sized ⊢
    cases tile with
    | owned size payload =>
      refine hypothesis bound sized ?_ (isPrevious_owned isPrevious size payload)
        (Nat.lt_of_succ_lt enough) |>.imp_left fun missed => ⟨missed.1, ?_⟩
      · rw [shift]
        exact laid.2
      · have none := missed.2
        rwa [shift] at none
    | free size =>
      obtain ⟨isCurrent, next, smallNext, holds, behind⟩ := laid
      obtain ⟨rounds, rfl⟩ := Nat.exists_eq_succ_of_ne_zero (Nat.ne_of_gt (Nat.zero_lt_of_lt enough))
      have sizedFront := (sized_append.mp sized).1
      have wholeMultiple := Nat.dvd_add multiple (total_multiple sizedFront)
      rw [shift] at wholeMultiple
      rw [total_append, ← Nat.add_assoc, shift] at bound
      replace bound : base + total front + size + total rest < 2 ^ 64 := bound
      replace wholeMultiple : blockAlignment ∣ base + total front + size := wholeMultiple
      have block : freeBlockAt memory current = { size, next } := by
        rw [isCurrent]
        exact freeBlockAt_of_holds (by omega) smallNext holds
      have present : current ≠ 0 := by omega
      -- When this block cannot hold the request, the search goes on behind it.
      have goesOn (cannot : ¬ CanHold requestedSize alignment ⟨current, current + size⟩) :
          (Heap.findPlacement memory requestedSize alignment rounds current next = some none ∧
              ∀ block ∈ freeExtents (base + total front) (.free size :: rest),
                ¬ CanHold requestedSize alignment block) ∨
            ∃ placement before blockSize after,
              Heap.findPlacement memory requestedSize alignment rounds current next =
                  some (some placement) ∧
                Placed base requestedSize alignment ((front ++ [.free size]) ++ rest) placement before
                  blockSize after := by
        rw [isCurrent] at cannot ⊢
        refine hypothesis (by rw [total_append, ← Nat.add_assoc, shift]; exact bound) sized ?_
          (isPrevious_free base front size) (Nat.lt_of_succ_lt_succ enough) |>.imp_left
            fun missed => ⟨missed.1, ?_⟩
        · rwa [shift]
        · have none := missed.2
          rw [shift] at none
          exact forall_mem_cons.mpr ⟨cannot, none⟩
      rw [Heap.findPlacement, if_neg present]
      dsimp only
      rw [block]
      rcases rounded : alignForward (current + freeBlockBytes + allocationHeaderBytes) alignment with
        _ | payload
      · -- The addresses behind this one are higher, so rounding fails for them too.
        have high := alignForward_none aligns divides rounded
        refine .inl ⟨rfl, fun block member room => ?_⟩
        have within := freeExtents_within member
        rw [total_cons, ← isCurrent] at within
        have further := @roundUp_mono _ _ alignment
          (Nat.add_le_add_right (Nat.add_le_add_right within.1 freeBlockBytes) allocationHeaderBytes)
        have stops : block.stop < 2 ^ 64 := by
          refine within.2.trans_lt ?_
          rwa [isCurrent, ← Nat.add_assoc]
        unfold CanHold at room
        omega
      · have isPayload := alignForward_some rounded
        dsimp only
        by_cases short : payload ≥ current + size ∨ requestedSize > current + size - payload
        · rw [if_pos short]
          refine goesOn fun room => ?_
          unfold CanHold at room
          rw [← isPayload] at room
          dsimp only at room
          omega
        · rw [if_neg short]
          have room : payload + requestedSize ≤ current + size := by omega
          rw [← isCurrent] at wholeMultiple
          have ends := roundUp_le (by decide) room wholeMultiple
          rcases finished : alignForward (payload + requestedSize) blockAlignment with _ | alignedEnd
          · have high := alignForward_none (by decide) (by decide) finished
            omega
          · have isEnd := alignForward_some finished
            dsimp only
            rw [if_neg (by omega)]
            refine .inr ⟨_, front, size, rest, rfl, ?_, isPrevious, isCurrent, isPayload, room, isEnd⟩
            rw [append_assoc, singleton_append]

end Search

/-! ### The placement -/

/-- The heap is a coalesced tiling of its region, and its counters agree with the tiles. -/
structure Heap.Kept (heap : Heap) (tiles : List Block) : Prop where
  positive : 0 < heap.regionBase
  multiple : blockAlignment ∣ heap.regionBase
  bound : heap.regionBase + heap.regionSize < 2 ^ 64
  whole : total tiles = heap.regionSize
  sized : Sized tiles
  coalesced : Coalesced tiles
  laid : Laid heap.memory heap.regionBase tiles heap.freeHead 0
  freeBytes : heap.freeBytes = freeTotal tiles
  allocatedBytes : heap.allocatedBytes = ownedTotal tiles
  active : heap.activeAllocations = (ownedExtents heap.regionBase tiles).length

theorem Heap.Kept.rounds {heap : Heap} (kept : heap.Kept tiles) : tiles.length < heap.rounds := by
  refine Nat.lt_succ_of_le ((Nat.le_div_iff_mul_le (by decide)).mpr ?_)
  rw [← kept.whole, Nat.mul_comm]
  exact length_le_total kept.sized

/-- What an allocation makes of the free tile that it is placed in. -/
def cutTile (blockSize consumedSize : Nat) (payload : Payload) : List Block :=
  if minimumFreeBlockSize ≤ blockSize - consumedSize then
    [.owned consumedSize payload, .free (blockSize - consumedSize)]
  else [.owned blockSize payload]

variable {consumedSize : Nat} {payload : Payload}

theorem coalesced_cut {before after : List Block} {blockSize : Nat}
    (coalesced : Coalesced (before ++ .free blockSize :: after)) :
    Coalesced (before ++ (cutTile blockSize consumedSize payload ++ after)) := by
  obtain ⟨first, second, -⟩ := isChain_append.mp coalesced
  obtain ⟨apart, last⟩ := isChain_cons.mp second
  unfold cutTile
  refine isChain_append.mpr ⟨first, ?_, fun tile _ next isNext => .inr ?_⟩
  · split
    · refine isChain_cons.mpr ⟨fun next _ => .inl rfl, isChain_cons.mpr
        ⟨fun next isNext => .inr ((apart next isNext).resolve_left (by simp [Tile.isFree])), last⟩⟩
    · exact isChain_cons.mpr ⟨fun next _ => .inl rfl, last⟩
  · split at isNext
    · cases isNext
      rfl
    · cases isNext
      rfl

section Place

variable {heap : Heap} {tiles before after : List Block} {blockSize requestedSize alignment : Nat}
  {placement : Heap.Placement}

/-- The sizes that a placement cuts its block into. -/
theorem Placed.sizes (kept : heap.Kept tiles)
    (placed : Placed heap.regionBase requestedSize alignment tiles placement before blockSize after)
    (nonempty : 0 < requestedSize) (aligns : 0 < alignment) :
    blockAlignment ∣ placement.alignedEnd - placement.current ∧
      placement.current + minimumFreeBlockSize ≤ placement.alignedEnd ∧
      placement.alignedEnd ≤ placement.current + blockSize ∧
      placement.current + freeBlockBytes + allocationHeaderBytes ≤ placement.payload ∧
      placement.payload + requestedSize ≤ placement.alignedEnd := by
  obtain ⟨rfl, previous, current, payload, room, alignedEnd⟩ := placed
  obtain ⟨sizedBefore, sizedRest⟩ := sized_append.mp kept.sized
  have blockMultiple : blockAlignment ∣ blockSize := (sized_cons.mp sizedRest).1.1
  have startMultiple : blockAlignment ∣ placement.current := by
    rw [current]
    exact Nat.dvd_add kept.multiple (total_multiple sizedBefore)
  have endMultiple := dvd_roundUp (placement.payload + requestedSize) blockAlignment
  have behind := @le_roundUp (placement.payload + requestedSize) blockAlignment (by decide)
  have ends := roundUp_le (by decide) room (Nat.dvd_add startMultiple blockMultiple)
  have starts := @le_roundUp (placement.current + freeBlockBytes + allocationHeaderBytes) _ aligns
  rw [← payload] at starts
  rw [← alignedEnd] at endMultiple behind ends
  refine ⟨Nat.dvd_sub endMultiple startMultiple, ?_, ends, starts, behind⟩
  unfold blockAlignment freeBlockBytes allocationHeaderBytes minimumFreeBlockSize at *
  omega

variable {address : Nat}

theorem linkTo_congr {first second : Heap} {previous replacement : Nat}
    (same : first.memory address = second.memory address) :
    (first.linkTo previous replacement).memory address =
      (second.linkTo previous replacement).memory address := by
  unfold Heap.linkTo
  split
  · exact same
  · show store first.memory _ _ address = store second.memory _ _ address
    unfold store
    rw [same]

theorem total_cutTile (fits : consumedSize ≤ blockSize) (payload : Payload) :
    total (cutTile blockSize consumedSize payload) = blockSize := by
  unfold cutTile
  split
  · show consumedSize + (blockSize - consumedSize + 0) = blockSize
    omega
  · rfl

/-- The block of the placement, read from the memory. -/
theorem Placed.block (kept : heap.Kept tiles)
    (placed : Placed heap.regionBase requestedSize alignment tiles placement before blockSize after) :
    ∃ next < 2 ^ 64, freeBlockAt heap.memory placement.current = { size := blockSize, next } ∧
      Laid heap.memory heap.regionBase before heap.freeHead placement.current ∧
      Laid heap.memory (heap.regionBase + total before + blockSize) after next 0 := by
  have laid := kept.laid
  rw [placed.cut, laid_append] at laid
  obtain ⟨middle, laidBefore, isMiddle, next, small, holds, laidAfter⟩ := laid
  have whole := kept.whole
  rw [placed.cut, total_append, total_cons] at whole
  replace whole : total before + (blockSize + total after) = heap.regionSize := whole
  have bound := kept.bound
  rw [placed.current, ← isMiddle]
  rw [← isMiddle] at holds laidAfter
  exact ⟨next, small, freeBlockAt_of_holds (by omega) small holds, laidBefore, laidAfter⟩

variable {wanted next : Nat}

/-- The headers that a placement writes lay out the tiles that it makes. -/
theorem Placed.laidCut (kept : heap.Kept tiles)
    (placed : Placed heap.regionBase requestedSize alignment tiles placement before blockSize after)
    (nonempty : 0 < requestedSize) (aligns : 0 < alignment) (small : next < 2 ^ 64)
    (divides : wanted ∣ alignment)
    (block : freeBlockAt heap.memory placement.current = { size := blockSize, next }) :
    Laid (heap.place requestedSize placement).memory (heap.regionBase + total before)
        (cutTile blockSize (placement.alignedEnd - placement.current)
          { address := placement.payload, length := requestedSize, alignment := wanted })
        (if minimumFreeBlockSize ≤ blockSize - (placement.alignedEnd - placement.current) then
          placement.alignedEnd else next) next := by
  obtain ⟨-, large, ends, header, behind⟩ := placed.sizes kept nonempty aligns
  have aligned : wanted ∣ placement.payload := by
    rw [placed.payload]
    exact divides.trans (dvd_roundUp _ _)
  have sameSize : placement.current + blockSize - placement.alignedEnd =
      blockSize - (placement.alignedEnd - placement.current) := by omega
  have sizedBefore : Sized before := by
    have sized := kept.sized
    rw [placed.cut] at sized
    exact (sized_append.mp sized).1
  have four (size : Nat) : (words [allocationMagic, placement.current, size, requestedSize]).length =
    allocationHeaderBytes := words_length _
  unfold Heap.place cutTile
  rw [block]
  dsimp only
  rw [sameSize, ← placed.current]
  by_cases splits : minimumFreeBlockSize ≤ blockSize - (placement.alignedEnd - placement.current)
  · rw [if_pos splits, if_pos splits, if_pos splits, if_pos splits]
    refine ⟨⟨nonempty, header, ?_, aligned, store_holds _ _ _⟩, ?_, next, small, ?_, rfl⟩
    · show placement.payload + requestedSize ≤ _
      omega
    · show placement.alignedEnd = _
      omega
    · have start : placement.current + (placement.alignedEnd - placement.current) =
          placement.alignedEnd := by omega
      rw [start]
      -- The link lies in front of the block, and the header in front of the payload.
      refine Holds.store ?_ (.inl ?_)
      · refine (store_holds heap.memory placement.alignedEnd _).congr fun place above _ => ?_
        refine linkTo_outside sizedBefore placed.previous ?_
        have current := placed.current
        omega
      · rw [four]
        unfold allocationHeaderBytes freeBlockBytes at *
        omega
  · rw [if_neg splits, if_neg splits, if_neg splits, if_neg splits]
    refine ⟨⟨nonempty, header, ?_, aligned, store_holds _ _ _⟩, rfl⟩
    show placement.payload + requestedSize ≤ _
    omega

theorem sized_cutTile (blockMultiple : blockAlignment ∣ blockSize)
    (blockLarge : minimumFreeBlockSize ≤ blockSize) (multiple : blockAlignment ∣ consumedSize)
    (large : minimumFreeBlockSize ≤ consumedSize) : Sized (cutTile blockSize consumedSize payload) := by
  unfold cutTile
  split
  · rename_i splits
    exact sized_cons.mpr ⟨⟨multiple, large⟩, sized_cons.mpr ⟨⟨Nat.dvd_sub blockMultiple multiple, splits⟩,
      fun _ member => absurd member not_mem_nil⟩⟩
  · exact sized_cons.mpr ⟨⟨blockMultiple, blockLarge⟩, fun _ member => absurd member not_mem_nil⟩

/-- A placement writes into its block, and links the free block in front of it. -/
theorem Placed.written (kept : heap.Kept tiles)
    (placed : Placed heap.regionBase requestedSize alignment tiles placement before blockSize after)
    (nonempty : 0 < requestedSize) (aligns : 0 < alignment)
    (block : freeBlockAt heap.memory placement.current = { size := blockSize, next })
    (outside : ¬ (placement.current ≤ address ∧ address < placement.current + blockSize)) :
    (heap.place requestedSize placement).memory address = (heap.linkTo placement.previous
      (if minimumFreeBlockSize ≤ blockSize - (placement.alignedEnd - placement.current) then
        placement.alignedEnd else next)).memory address := by
  obtain ⟨-, large, ends, header, behind⟩ := placed.sizes kept nonempty aligns
  have sameSize : placement.current + blockSize - placement.alignedEnd =
      blockSize - (placement.alignedEnd - placement.current) := by omega
  have four (size : Nat) : (words [allocationMagic, placement.current, size, requestedSize]).length =
    allocationHeaderBytes := words_length _
  have two (size : Nat) : (words [size, next]).length = freeBlockBytes := words_length _
  unfold Heap.place
  rw [block]
  dsimp only
  rw [sameSize]
  by_cases splits : minimumFreeBlockSize ≤ blockSize - (placement.alignedEnd - placement.current)
  · simp only [ge_iff_le, if_pos splits]
    refine (store_outside ?_).trans (linkTo_congr (store_outside ?_))
    · rw [four]
      unfold allocationHeaderBytes freeBlockBytes at *
      omega
    · rw [two]
      unfold freeBlockBytes minimumFreeBlockSize at *
      omega
  · simp only [ge_iff_le, if_neg splits]
    refine store_outside ?_
    rw [four]
    unfold allocationHeaderBytes freeBlockBytes at *
    omega

theorem place_region (heap : Heap) (requestedSize : Nat) (placement : Heap.Placement) :
    (heap.place requestedSize placement).regionBase = heap.regionBase ∧
      (heap.place requestedSize placement).regionSize = heap.regionSize := by
  unfold Heap.place Heap.linkTo
  dsimp only
  split_ifs
  all_goals exact ⟨rfl, rfl⟩

/-- The size that a block of the list loses to a request. -/
theorem place_fields {next : Nat} (large : placement.current ≤ placement.alignedEnd)
    (block : freeBlockAt heap.memory placement.current = { size := blockSize, next }) :
    (heap.place requestedSize placement).freeHead = (heap.linkTo placement.previous
        (if minimumFreeBlockSize ≤ blockSize - (placement.alignedEnd - placement.current) then
          placement.alignedEnd else next)).freeHead ∧
      ∃ consumedSize, consumedSize =
          (if minimumFreeBlockSize ≤ blockSize - (placement.alignedEnd - placement.current) then
            placement.alignedEnd - placement.current else blockSize) ∧
        (heap.place requestedSize placement).freeBytes = heap.freeBytes - consumedSize ∧
        (heap.place requestedSize placement).allocatedBytes = heap.allocatedBytes + consumedSize ∧
        (heap.place requestedSize placement).activeAllocations = heap.activeAllocations + 1 := by
  have sameSize : placement.current + blockSize - placement.alignedEnd =
      blockSize - (placement.alignedEnd - placement.current) := by omega
  unfold Heap.place
  rw [block]
  dsimp only
  rw [sameSize]
  refine ⟨?_, _, rfl, rfl, rfl, rfl⟩
  unfold Heap.linkTo
  split_ifs
  all_goals rfl

theorem freeTotal_cutTile (fits : consumedSize ≤ blockSize) (payload : Payload) :
    freeTotal (cutTile blockSize consumedSize payload) +
        (if minimumFreeBlockSize ≤ blockSize - consumedSize then consumedSize else blockSize) =
      blockSize ∧
    ownedTotal (cutTile blockSize consumedSize payload) =
      if minimumFreeBlockSize ≤ blockSize - consumedSize then consumedSize else blockSize := by
  unfold cutTile
  split
  · refine ⟨?_, rfl⟩
    show blockSize - consumedSize + 0 + consumedSize = blockSize
    omega
  · exact ⟨Nat.zero_add _, rfl⟩

theorem ownedExtents_cutTile (base consumedSize : Nat) (payload : Payload) :
    ownedExtents base (cutTile blockSize consumedSize payload) =
      [(payload, ⟨base, base + if minimumFreeBlockSize ≤ blockSize - consumedSize then consumedSize
        else blockSize⟩)] := by
  unfold cutTile
  split
  · rfl
  · rfl

/-- An allocation makes an owned tile of the front of a free one, and writes nowhere else but into
the headers in front of it. -/
theorem Placed.place (kept : heap.Kept tiles)
    (placed : Placed heap.regionBase requestedSize alignment tiles placement before blockSize after)
    (nonempty : 0 < requestedSize) (aligns : 0 < alignment) (divides : wanted ∣ alignment) :
    (heap.place requestedSize placement).Kept
        (before ++ (cutTile blockSize (placement.alignedEnd - placement.current)
          { address := placement.payload, length := requestedSize, alignment := wanted } ++ after)) ∧
      ∀ address, ¬ InHeader heap.regionBase before address →
        ¬ (placement.current ≤ address ∧ address < placement.current + blockSize) →
          (heap.place requestedSize placement).memory address = heap.memory address := by
  obtain ⟨next, small, block, laidBefore, laidAfter⟩ := placed.block kept
  obtain ⟨multiple, large, ends, header, behind⟩ := placed.sizes kept nonempty aligns
  have laidCut := placed.laidCut kept nonempty aligns small divides block
  have fits : placement.alignedEnd - placement.current ≤ blockSize := by omega
  have enough : minimumFreeBlockSize ≤ placement.alignedEnd - placement.current := by omega
  have isTotal := total_cutTile fits
    { address := placement.payload, length := requestedSize, alignment := wanted }
  obtain ⟨sizedBefore, sizedRest⟩ := sized_append.mp (placed.cut ▸ kept.sized)
  obtain ⟨⟨blockMultiple, blockLarge⟩, sizedAfter⟩ := sized_cons.mp sizedRest
  have whole := kept.whole
  rw [placed.cut, total_append, total_cons] at whole
  replace whole : total before + (blockSize + total after) = heap.regionSize := whole
  have bound := kept.bound
  have current := placed.current
  have smallLink : (if minimumFreeBlockSize ≤ blockSize - (placement.alignedEnd - placement.current) then
      placement.alignedEnd else next) < 2 ^ 64 := by
    split
    · omega
    · exact small
  rw [current] at laidBefore
  have exchanged := laidBefore.exchange sizedBefore placed.previous kept.positive smallLink laidCut
    (by rw [isTotal]; exact laidAfter) sizedAfter fun address outside => by
      rw [isTotal, ← current] at outside
      exact placed.written kept nonempty aligns block outside
  rw [isTotal, ← current] at exchanged
  obtain ⟨sameBase, sameSize⟩ := place_region heap requestedSize placement
  obtain ⟨sameHead, consumedSize, isConsumed, freeBytes, allocatedBytes, active⟩ :=
    @place_fields heap blockSize requestedSize placement next (by omega) block
  obtain ⟨freed, owned⟩ := freeTotal_cutTile fits
    { address := placement.payload, length := requestedSize, alignment := wanted }
  rw [← isConsumed] at freed owned
  have freeBefore := kept.freeBytes
  have ownedBefore := kept.allocatedBytes
  have activeBefore := kept.active
  rw [placed.cut, freeTotal_append, freeTotal] at freeBefore
  rw [placed.cut, ownedTotal_append, ownedTotal] at ownedBefore
  rw [placed.cut, ownedExtents_append, length_append, ownedExtents] at activeBefore
  refine ⟨⟨?_, ?_, ?_, ?_, ?_, ?_, ?_, ?_, ?_, ?_⟩, exchanged.2⟩
  · rw [sameBase]
    exact kept.positive
  · rw [sameBase]
    exact kept.multiple
  · rwa [sameBase, sameSize]
  · rwa [sameSize, total_append, total_append, isTotal]
  · exact sized_append.mpr ⟨sizedBefore, sized_append.mpr
      ⟨sized_cutTile blockMultiple blockLarge multiple enough, sizedAfter⟩⟩
  · exact coalesced_cut (placed.cut ▸ kept.coalesced)
  · rw [sameBase, sameHead]
    exact exchanged.1
  · rw [freeBytes, freeTotal_append, freeTotal_append]
    omega
  · rw [allocatedBytes, ownedTotal_append, ownedTotal_append]
    omega
  · rw [active, activeBefore, sameBase, ownedExtents_append, ownedExtents_append, ownedExtents_cutTile,
      isTotal, length_append, length_append]
    simp only [length_cons, length_nil]
    omega

/-! ### The call -/

theorem allocate_region {requestedAlignment : Nat} {result : Option Nat} {allocated : Heap}
    (done : heap.allocate requestedSize requestedAlignment = some (result, allocated)) :
    allocated.regionBase = heap.regionBase ∧ allocated.regionSize = heap.regionSize := by
  have unchanged (same : some (none, heap) = some (result, allocated)) :
      allocated.regionBase = heap.regionBase ∧ allocated.regionSize = heap.regionSize := by
    cases same
    exact ⟨rfl, rfl⟩
  unfold Heap.allocate at done
  dsimp only at done
  split_ifs at done
  · exact unchanged done
  · exact unchanged done
  split at done
  · cases done
  · exact unchanged done
  · cases done
    exact place_region _ _ _

/-- What an allocation can end in: nothing has happened, because nothing was asked for or no block
has room, or a free tile was cut. -/
theorem Heap.Kept.allocate (kept : heap.Kept tiles) (requestedSize : Nat) {exponent : Nat}
    (power : wanted = 2 ^ exponent) (word : exponent < 64) :
    (heap.allocate requestedSize wanted = some (none, heap) ∧
        (requestedSize = 0 ∨ ∀ block ∈ freeExtents heap.regionBase tiles,
          ¬ CanHold requestedSize (max wanted allocationHeaderAlignment) block)) ∨
      ∃ payload after before blockSize consumedSize behind,
        heap.allocate requestedSize wanted = some (some payload.address, after) ∧
          payload.length = requestedSize ∧ payload.alignment = wanted ∧
          tiles = before ++ .free blockSize :: behind ∧ consumedSize ≤ blockSize ∧
          after.Kept (before ++ (cutTile blockSize consumedSize payload ++ behind)) ∧
          after.regionBase = heap.regionBase ∧ after.regionSize = heap.regionSize ∧
          ∀ address, ¬ InHeader heap.regionBase before address →
            ¬ (heap.regionBase + total before ≤ address ∧
              address < heap.regionBase + total before + blockSize) →
                after.memory address = heap.memory address := by
  have positive : 0 < wanted := by
    rw [power]
    exact Nat.two_pow_pos _
  have powerOfTwo : ¬ (wanted = 0 ∨ wanted &&& (wanted - 1) ≠ 0) := by
    rw [not_or, not_not, power, Nat.and_two_pow_sub_one_eq_mod, Nat.mod_self]
    exact ⟨(Nat.two_pow_pos _).ne', rfl⟩
  have isMax : max wanted allocationHeaderAlignment = 2 ^ max exponent 3 := by
    rw [power]
    show max (2 ^ exponent) (2 ^ 3) = 2 ^ max exponent 3
    exact (pow_right_mono₀ (by decide : 1 ≤ 2)).map_max.symm
  have aligns : 0 < max wanted allocationHeaderAlignment := positive.trans_le (le_max_left _ _)
  have divides : max wanted allocationHeaderAlignment ∣ 2 ^ 64 := by
    rw [isMax]
    exact Nat.pow_dvd_pow 2 (by omega)
  have wantedDivides : wanted ∣ max wanted allocationHeaderAlignment := by
    rw [isMax, power]
    exact Nat.pow_dvd_pow 2 (le_max_left _ _)
  unfold Heap.allocate
  by_cases empty : requestedSize = 0
  · exact .inl ⟨if_pos empty, .inl empty⟩
  · have nonempty := Nat.pos_of_ne_zero empty
    rw [if_neg empty, if_neg powerOfTwo]
    dsimp only
    have whole : heap.regionBase + total ([] ++ tiles) < 2 ^ 64 := by
      rw [nil_append, kept.whole]
      exact kept.bound
    have searched := @findPlacement_spec heap.memory [] tiles heap.regionBase heap.freeHead 0 heap.rounds
      requestedSize (max wanted allocationHeaderAlignment) kept.positive kept.multiple whole kept.sized
      kept.laid (.inl ⟨rfl, fun _ member => absurd member not_mem_nil⟩) kept.rounds nonempty
      aligns divides
    rcases searched with ⟨missed, none⟩ | ⟨placement, before, blockSize, behind, found, placed⟩
    · rw [missed]
      exact .inl ⟨rfl, .inr none⟩
    · rw [found]
      obtain ⟨-, -, ends, -, -⟩ := placed.sizes kept nonempty aligns
      obtain ⟨keptAfter, written⟩ := placed.place kept nonempty aligns wantedDivides
      obtain ⟨sameBase, sameSize⟩ := place_region heap requestedSize placement
      rw [placed.current] at written
      exact .inr ⟨⟨placement.payload, requestedSize, wanted⟩, _, before, blockSize, _, behind, rfl, rfl,
        rfl, placed.cut, by omega, keptAfter, sameBase, sameSize, written⟩

end Place

end ZigOs.KernelHeap
