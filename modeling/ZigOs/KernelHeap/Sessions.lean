/-
This file follows the heap through any sequence of calls. The callers allocate,
free what they have, free again what they have freed since the last allocation,
and write into their payloads. In every state that this leads to, the heap is a
tiling whose owners are the live payloads.
-/

import ZigOs.Lib.Runs
import ZigOs.KernelHeap.Release

namespace ZigOs.KernelHeap

open ByteMemory Extents Tiling List Heap

/-! ### The sessions -/

/-- The heap with the payloads that are live, and those that have been freed since the last
allocation. -/
structure Session where
  heap : Heap
  live : List Payload
  freed : List Payload

inductive Request where
  | allocate (size alignment : Nat)
  | free (payload : Payload)
  | write (address : Nat) (byte : UInt8)

inductive Answer where
  | allocated (address : Option Nat)
  | freed (success : Bool)

/-- A call, or a write of a caller. -/
def Session.perform : Runs.Machine Session Request Answer
  | .allocate size alignment, session =>
    match session.heap.allocate size alignment with
    | none => none
    | some (none, heap) => some ({ session with heap }, [.allocated none])
    | some (some address, heap) =>
      some ({ heap, live := { address, length := size, alignment } :: session.live, freed := [] },
        [.allocated (some address)])
  | .free payload, session =>
    match session.heap.free payload.address payload.length with
    | none => none
    | some (false, heap) => some ({ session with heap }, [.freed false])
    | some (true, heap) =>
      some ({ heap, live := session.live.erase payload, freed := payload :: session.freed },
        [.freed true])
  | .write address byte, session =>
    some ({ session with
      heap := { session.heap with memory := store session.heap.memory address [byte] } }, [])

/-- The alignments are powers of two, what is freed has been allocated, and writes go into live
payloads. -/
def Session.Admits (session : Session) : Request → Prop
  | .allocate _ alignment => ∃ exponent < 64, alignment = 2 ^ exponent
  | .free payload => payload ∈ session.live ∨ payload ∈ session.freed
  | .write address _ => ∃ payload ∈ session.live, payload.Covers address

instance (session : Session) (request : Request) : Decidable (session.Admits request) :=
  match request with
  | .allocate _ alignment => inferInstanceAs (Decidable (∃ exponent < 64, alignment = 2 ^ exponent))
  | .free payload => inferInstanceAs (Decidable (payload ∈ session.live ∨ payload ∈ session.freed))
  | .write address _ => inferInstanceAs (Decidable (∃ payload ∈ session.live, payload.Covers address))

/-! ### The tiling of a session -/

/-- A payload that has been freed: its header is marked, and the mark lies where nobody writes. -/
structure Stale (heap : Heap) (tiles : List Block) (payload : Payload) : Prop where
  marked : Holds heap.memory (payload.address - allocationHeaderBytes) (words [freedMagic])
  slack : ∀ address, payload.address - allocationHeaderBytes ≤ address →
    address < payload.address - allocationHeaderBytes + 8 → Slack heap.regionBase tiles address

/-- The owners of the tiles are the live payloads. -/
structure Session.Kept (session : Session) (tiles : List Block) : Prop where
  heap : session.heap.Kept tiles
  live : ((ownedExtents session.heap.regionBase tiles).map Prod.fst).Perm session.live
  freed : ∀ payload ∈ session.freed, Stale session.heap tiles payload

variable {heap : Heap} {memory : Memory} {exponent : Nat} {request : Request}

section Steps

variable {session : Session} {tiles : List Block} {payload : Payload}

theorem Session.Kept.extent (kept : session.Kept tiles) (live : payload ∈ session.live) :
    ∃ extent, (payload, extent) ∈ ownedExtents session.heap.regionBase tiles := by
  obtain ⟨⟨owner, extent⟩, member, rfl⟩ := mem_map.mp (kept.live.mem_iff.mpr live)
  exact ⟨extent, member⟩

/-- The tile of a live payload. -/
theorem Session.Kept.tile (kept : session.Kept tiles) (live : payload ∈ session.live) :
    ∃ before size after, tiles = before ++ .owned size payload :: after := by
  obtain ⟨extent, member⟩ := kept.extent live
  obtain ⟨before, size, after, isTiles, -⟩ := exists_owned member
  exact ⟨before, size, after, isTiles⟩

/-- Where a payload lies in its block. -/
structure InBlock (heap : Heap) (payload : Payload) (extent : Extent) : Prop where
  nonempty : 0 < payload.length
  room : extent.base + freeBlockBytes + allocationHeaderBytes ≤ payload.address
  fits : payload.address + payload.length ≤ extent.stop
  aligned : payload.alignment ∣ payload.address
  starts : heap.regionBase ≤ extent.base
  within : extent.stop ≤ heap.regionBase + heap.regionSize
  block : heap.blockOf payload.address = extent

theorem Heap.Kept.inBlock {extent : Extent} (kept : heap.Kept tiles)
    (member : (payload, extent) ∈ ownedExtents heap.regionBase tiles) : InBlock heap payload extent := by
  obtain ⟨before, size, after, rfl, rfl⟩ := exists_owned member
  obtain ⟨seated, within, -, header⟩ := kept.header
  refine ⟨seated.nonempty, seated.room, seated.fits, seated.aligned, Nat.le_add_right _ _, within, ?_⟩
  unfold blockOf
  rw [header]

variable {after : List Block}

theorem Stale.keep {other : Heap} (stale : Stale heap tiles payload)
    (sameBase : other.regionBase = heap.regionBase)
    (slack : ∀ address, Slack heap.regionBase tiles address → Slack heap.regionBase after address)
    (same : ∀ address, Slack heap.regionBase tiles address → other.memory address = heap.memory address) :
    Stale other after payload where
  marked := stale.marked.congr fun address above below => same address (stale.slack address above (by
    have count : (words [freedMagic]).length = 8 := words_length _
    omega))
  slack address above below := by
    rw [sameBase]
    exact slack address (stale.slack address above below)

/-- What a call writes in front of a tile or into it does not reach the slack. -/
theorem Slack.apart {memory : Memory} {position head tail address size : Nat} {before after : List Block}
    (slack : Slack position (before ++ .owned size payload :: after) address)
    (laid : Laid memory position (before ++ .owned size payload :: after) head tail)
    (sized : Sized (before ++ .owned size payload :: after)) :
    ¬ InHeader position before address ∧
      ¬ (position + total before ≤ address ∧ address < position + total before + size) := by
  refine ⟨fun inside => slack.not_inHeader laid sized (inHeader_append.mpr (.inl inside)), ?_⟩
  rcases slack_append.mp slack with front | behind
  · have bounds := front.within
    omega
  · have later : Slack (position + total before + size) after address := behind
    have bounds := later.within
    omega

variable {address : Nat}

/-- The bytes of a payload are neither header nor slack. -/
theorem Heap.Kept.payloadBytes {before : List Block} {size : Nat}
    (kept : heap.Kept (before ++ .owned size payload :: after)) (covers : payload.Covers address) :
    ¬ InHeader heap.regionBase (before ++ .owned size payload :: after) address ∧
      ¬ Slack heap.regionBase (before ++ .owned size payload :: after) address := by
  obtain ⟨seated, -, -, -⟩ := kept.header
  obtain ⟨middle, laidBefore, -, laidAfter⟩ := laid_append.mp kept.laid
  obtain ⟨sizedBefore, sizedRest⟩ := sized_append.mp kept.sized
  have fits := seated.fits
  have room := seated.room
  obtain ⟨above, below⟩ := covers
  constructor
  · intro inside
    rcases inHeader_append.mp inside with front | header | behind
    · have bounds := laidBefore.within sizedBefore front
      omega
    · omega
    · have bounds := laidAfter.within (sized_cons.mp sizedRest).2 behind
      omega
  · intro slack
    exact (slack.apart kept.laid kept.sized).2 ⟨by omega, by omega⟩

theorem Heap.Kept.congr (kept : heap.Kept tiles)
    (same : ∀ address, InHeader heap.regionBase tiles address → memory address = heap.memory address) :
    Heap.Kept { heap with memory } tiles :=
  ⟨kept.positive, kept.multiple, kept.bound, kept.whole, kept.sized, kept.coalesced,
    kept.laid.congr same, kept.freeBytes, kept.allocatedBytes, kept.active⟩

/-- A write into a live payload keeps the tiling. -/
theorem Session.Kept.write (kept : session.Kept tiles) (live : payload ∈ session.live)
    (covers : payload.Covers address) (byte : UInt8) : Session.Kept { session with
        heap := { session.heap with memory := store session.heap.memory address [byte] } } tiles := by
  obtain ⟨before, size, after, rfl⟩ := kept.tile live
  obtain ⟨notHeader, notSlack⟩ := kept.heap.payloadBytes covers
  have elsewhere {place : Nat} (other : place ≠ address) :
      store session.heap.memory address [byte] place = session.heap.memory place :=
    store_outside (by rw [length_singleton]; omega)
  refine ⟨kept.heap.congr fun place inside => elsewhere fun same => notHeader (same ▸ inside), kept.live,
    fun stale member => (kept.freed stale member).keep rfl (fun _ slack => slack)
      fun place slack => elsewhere fun same => notSlack (same ▸ slack)⟩

/-- An allocation gives a payload with a tile of its own, or changes nothing. -/
theorem Session.Kept.allocate (kept : session.Kept tiles) (size : Nat) (word : exponent < 64) :
    (session.heap.allocate size (2 ^ exponent) = some (none, session.heap) ∧
        (size = 0 ∨ ∀ block ∈ freeExtents session.heap.regionBase tiles,
          ¬ CanHold size (max (2 ^ exponent) allocationHeaderAlignment) block)) ∨
      ∃ address heap after, session.heap.allocate size (2 ^ exponent) = some (some address, heap) ∧
        Session.Kept {
          heap
          live := { address, length := size, alignment := 2 ^ exponent } :: session.live
          freed := [] } after ∧
        ∀ payload ∈ session.live, ∀ place, payload.Covers place →
          heap.memory place = session.heap.memory place := by
  rcases kept.heap.allocate size rfl word with refused | ⟨payload, heap, before, blockSize, consumedSize,
    behind, done, rfl, isAlignment, rfl, fits, keptAfter, sameBase, sameSize, outside⟩
  · exact .inl refused
  · obtain ⟨address, length, alignment⟩ := payload
    obtain rfl : alignment = 2 ^ exponent := isAlignment
    have isTotal := total_cutTile fits { address, length, alignment := 2 ^ exponent }
    refine .inr ⟨address, heap, _, done, ⟨keptAfter, ?_, fun _ member => absurd member
      not_mem_nil⟩, fun payload live place covers => outside place (fun inside => ?_) fun within => ?_⟩
    · have owners := kept.live
      rw [ownedExtents_append, map_append, ownedExtents] at owners
      show ((ownedExtents heap.regionBase _).map Prod.fst).Perm _
      rw [sameBase, ownedExtents_append, ownedExtents_append, isTotal, ownedExtents_cutTile,
        map_append, map_append]
      exact perm_middle.trans (owners.cons _)
    · obtain ⟨first, large, last, isTiles⟩ := kept.tile live
      have bytes := (isTiles ▸ kept.heap).payloadBytes covers
      rw [← isTiles] at bytes
      exact bytes.1 (inHeader_append.mpr (.inl inside))
    · obtain ⟨extent, member⟩ := kept.extent live
      have inBlock := kept.heap.inBlock member
      have room := inBlock.room
      have fits := inBlock.fits
      obtain ⟨above, below⟩ := covers
      rw [ownedExtents_append] at member
      rcases mem_append.mp member with front | back
      · have bounds := ownedExtents_within front
        omega
      · have later : (payload, extent) ∈
            ownedExtents (session.heap.regionBase + total before + blockSize) behind := back
        have bounds := ownedExtents_within later
        omega

/-- A live payload can be freed, and no other payload is touched, nor is this one. -/
theorem Session.Kept.free (kept : session.Kept tiles) (live : payload ∈ session.live) :
    ∃ heap after, session.heap.free payload.address payload.length = some (true, heap) ∧
      Session.Kept {
        heap
        live := session.live.erase payload
        freed := payload :: session.freed } after ∧
      ∀ other ∈ session.live, ∀ place, other.Covers place →
        heap.memory place = session.heap.memory place := by
  obtain ⟨before, size, after, rfl⟩ := kept.tile live
  obtain ⟨tiles, heap, done, released⟩ := kept.heap.free
  obtain ⟨seated, -, -, -⟩ := kept.heap.header
  have room := seated.room
  have fits := seated.fits
  have word : 8 ≤ allocationHeaderBytes := by decide
  refine ⟨heap, tiles, done, ⟨released.kept, ?_, fun other member => ?_⟩, fun other among place covers => ?_⟩
  · have owners := kept.live
    rw [ownedExtents_append, map_append, ownedExtents, map_cons] at owners
    have erased := (perm_middle.symm.trans owners).erase payload
    rw [erase_cons_head] at erased
    show ((ownedExtents heap.regionBase tiles).map Prod.fst).Perm _
    rwa [released.regionBase, released.owned, map_append]
  · rcases mem_cons.mp member with rfl | earlier
    · refine ⟨released.marked, fun place above below => ?_⟩
      show Slack heap.regionBase tiles place
      rw [released.regionBase]
      refine released.slack place (slack_append.mpr (.inr (.inl ⟨?_, ?_⟩)))
      · exact (Nat.le_sub_of_add_le room).trans above
      · omega
    · refine (kept.freed other earlier).keep released.regionBase
        (fun place slack => released.slack place slack.release) fun place slack => ?_
      obtain ⟨notHeader, notTile⟩ := slack.apart kept.heap.laid kept.heap.sized
      exact released.outside place notHeader (by omega)
  · obtain ⟨first, large, last, isTiles⟩ := kept.tile among
    have bytes := (isTiles ▸ kept.heap).payloadBytes covers
    rw [← isTiles] at bytes
    refine released.outside place (fun inside => bytes.1 (inHeader_append.mpr (.inl inside)))
      fun between => ?_
    -- Only the freed payload's own block lies around these addresses, and they are in front of it.
    obtain ⟨extent, owned⟩ := kept.extent among
    have inBlock := kept.heap.inBlock owned
    have starts := inBlock.room
    have ends := inBlock.fits
    obtain ⟨above, below⟩ := covers
    rw [ownedExtents_append] at owned
    rcases mem_append.mp owned with front | back
    · have bounds := ownedExtents_within front
      omega
    · rcases mem_cons.mp back with same | later
      · cases same
        omega
      · have bounds := ownedExtents_within later
        omega

/-- A payload that has been freed cannot be freed again. -/
theorem Session.Kept.refused (kept : session.Kept tiles) (stale : payload ∈ session.freed) :
    session.heap.free payload.address payload.length = some (false, session.heap) :=
  free_refused (kept.freed payload stale).marked

/-! ### Any sequence of requests -/

theorem Session.Kept.perform (kept : session.Kept tiles) (admits : session.Admits request) :
    ∃ after answers, Session.perform request session = some (after, answers) ∧
      ∃ tiles, after.Kept tiles := by
  cases request with
  | allocate size alignment =>
    obtain ⟨exponent, word, rfl⟩ := admits
    unfold Session.perform
    dsimp only
    rcases kept.allocate size word with ⟨refused, -⟩ | ⟨address, heap, after, done, keptAfter, -⟩
    · rw [refused]
      exact ⟨_, _, rfl, tiles, kept⟩
    · rw [done]
      exact ⟨_, _, rfl, after, keptAfter⟩
  | free payload =>
    unfold Session.perform
    dsimp only
    rcases admits with live | stale
    · obtain ⟨heap, after, done, keptAfter, -⟩ := kept.free live
      rw [done]
      exact ⟨_, _, rfl, after, keptAfter⟩
    · rw [kept.refused stale]
      exact ⟨_, _, rfl, tiles, kept⟩
  | write address byte =>
    obtain ⟨payload, live, covers⟩ := admits
    exact ⟨_, _, rfl, tiles, kept.write live covers byte⟩

end Steps

variable {regionBase regionSize : Nat}

/-- The heap that lies in a region at first, with one free tile. -/
theorem init_kept (present : regionBase ≠ 0)
    (starts : init memory regionBase regionSize = some heap) :
    heap.regionBase = regionBase ∧ heap.regionSize = alignBackward regionSize blockAlignment ∧
      heap.Kept [.free heap.regionSize] := by
  unfold init at starts
  dsimp only at starts
  split_ifs at starts with misaligned short high
  cases starts
  refine ⟨rfl, rfl, Nat.pos_of_ne_zero present, Nat.dvd_of_mod_eq_zero (not_not.mp misaligned), ?_,
    Nat.add_zero _, ?_, isChain_singleton _, ⟨rfl, 0, by decide, store_holds _ _ _, rfl⟩,
    (Nat.add_zero _).symm, rfl, rfl⟩
  · dsimp only
    omega
  · exact forall_mem_singleton.mpr ⟨Nat.dvd_mul_left _ _, not_lt.mp short⟩

variable {session : Session}

/-- A request leaves the region as it is. -/
theorem perform_region {after : Session} {answers : List Answer}
    (steps : Session.perform request session = some (after, answers)) :
    after.heap.regionBase = session.heap.regionBase ∧
      after.heap.regionSize = session.heap.regionSize := by
  cases request with
  | allocate size alignment =>
    unfold Session.perform at steps
    dsimp only at steps
    rcases outcome : session.heap.allocate size alignment with _ | ⟨result, heap⟩
    · rw [outcome] at steps
      cases steps
    · have same := allocate_region outcome
      rw [outcome] at steps
      cases result with
      | none =>
        cases steps
        exact same
      | some address =>
        cases steps
        exact same
  | free payload =>
    unfold Session.perform at steps
    dsimp only at steps
    rcases outcome : session.heap.free payload.address payload.length with _ | ⟨success, heap⟩
    · rw [outcome] at steps
      cases steps
    · have same := free_region outcome
      rw [outcome] at steps
      cases success with
      | false =>
        cases steps
        exact same
      | true =>
        cases steps
        exact same
  | write address byte =>
    cases steps
    exact ⟨rfl, rfl⟩

/-- In every state that a session leads to, the heap is a tiling. -/
theorem reached_kept (present : regionBase ≠ 0)
    (starts : init memory regionBase regionSize = some heap)
    (reached : Runs.Reached Session.perform (fun request session => session.Admits request)
      { heap, live := [], freed := [] } session) : (session.heap.regionBase = regionBase ∧
        session.heap.regionSize = alignBackward regionSize blockAlignment) ∧
      ∃ tiles, session.Kept tiles := by
  obtain ⟨isBase, isSize, kept⟩ := init_kept present starts
  induction reached with
  | origin =>
    exact ⟨⟨isBase, isSize⟩, _, kept, List.Perm.nil, fun _ member => absurd member not_mem_nil⟩
  | step _ admits steps hypothesis =>
    obtain ⟨⟨isBase, isSize⟩, tiles, kept⟩ := hypothesis
    obtain ⟨sameBase, sameSize⟩ := perform_region steps
    obtain ⟨next, answers, performed, keptNext⟩ := kept.perform admits
    cases performed.symm.trans steps
    exact ⟨⟨sameBase.trans isBase, sameSize.trans isSize⟩, keptNext⟩

/-! ### The free list -/

variable {tiles : List Block}

theorem freeListFrom_of_laid {position head rounds : Nat} (positive : 0 < position)
    (bound : position + total tiles < 2 ^ 64) (laid : Laid memory position tiles head 0)
    (enough : tiles.length < rounds) :
    freeListFrom memory rounds head = some (freeExtents position tiles) := by
  induction tiles generalizing position head rounds with
  | nil =>
    obtain ⟨rounds, rfl⟩ := Nat.exists_eq_succ_of_ne_zero (Nat.ne_of_gt enough)
    exact if_pos laid
  | cons tile rest hypothesis =>
    rw [total_cons, ← Nat.add_assoc] at bound
    have later : 0 < position + tile.size := Nat.add_pos_left positive _
    cases tile with
    | owned size payload => exact hypothesis later bound laid.2 (Nat.lt_of_succ_lt enough)
    | free size =>
      obtain ⟨rfl, next, small, holds, behind⟩ := laid
      obtain ⟨rounds, rfl⟩ := Nat.exists_eq_succ_of_ne_zero (Nat.ne_of_gt (Nat.zero_lt_of_lt enough))
      replace bound : head + size + total rest < 2 ^ 64 := bound
      rw [freeListFrom, if_neg positive.ne']
      dsimp only
      rw [freeBlockAt_of_holds (by omega) small holds]
      dsimp only
      rw [hypothesis later bound behind (Nat.lt_of_succ_lt_succ enough)]
      rfl

theorem Heap.Kept.freeList (kept : heap.Kept tiles) :
    heap.freeList = some (freeExtents heap.regionBase tiles) :=
  freeListFrom_of_laid kept.positive (by rw [kept.whole]; exact kept.bound) kept.laid kept.rounds

theorem coalesced_whole (kept : heap.Kept tiles)
    (ownerless : ownedExtents heap.regionBase tiles = []) (present : 0 < heap.regionSize) :
    freeExtents heap.regionBase tiles = [⟨heap.regionBase, heap.regionBase + heap.regionSize⟩] := by
  have whole := kept.whole
  rcases single_of_ownerless kept.coalesced ownerless with rfl | ⟨size, rfl⟩
  · exact absurd whole.symm present.ne'
  · rw [← whole]
    rfl

/-! ### What holds of every session -/

def Session.blockOf (session : Session) (payload : Payload) : Extent :=
  session.heap.blockOf payload.address

/-- An allocation returns, touches no live payload, and gives nothing only when nothing is asked for
or no free block has room behind a header. -/
structure Session.Allocates (session : Session) (blocks : List Extent) (size alignment : Nat)
    (result : Option Nat) (heap : Heap) : Prop where
  returns : session.heap.allocate size alignment = some (result, heap)
  refused : result = none → heap = session.heap ∧ (size = 0 ∨
    ∀ block ∈ blocks, ¬ CanHold size (max alignment allocationHeaderAlignment) block)
  untouched : ∀ payload ∈ session.live, ∀ address, payload.Covers address →
    heap.memory address = session.heap.memory address

/-- The free list and the blocks of the live payloads partition the region, the counters are exact,
and so is every call that can come next. -/
structure Session.Sound (session : Session) (region : Extent) (blocks : List Extent) : Prop where
  list : session.heap.freeList = some blocks
  partition : Partition region (blocks ++ session.live.map session.blockOf)
  sorted : blocks.Pairwise fun first second => first.stop < second.base
  payloads : ∀ payload ∈ session.live, InBlock session.heap payload (session.blockOf payload)
  disjoint : session.live.Pairwise fun first second => ∀ address,
    first.Covers address → ¬ second.Covers address
  freeBytes : session.heap.freeBytes = (blocks.map fun block => block.stop - block.base).sum
  allocatedBytes : session.heap.allocatedBytes =
    (session.live.map fun payload => (session.blockOf payload).stop - (session.blockOf payload).base).sum
  active : session.heap.activeAllocations = session.live.length
  allocates : ∀ size, ∀ exponent < 64, ∃ result heap,
    session.Allocates blocks size (2 ^ exponent) result heap
  frees : ∀ payload ∈ session.live, ∃ heap,
    session.heap.free payload.address payload.length = some (true, heap) ∧
      ∀ other ∈ session.live, ∀ address, other.Covers address →
        heap.memory address = session.heap.memory address
  refuses : ∀ payload ∈ session.freed,
    session.heap.free payload.address payload.length = some (false, session.heap)
  emptied : session.live = [] → blocks = [region]

section Sound

variable {session : Session} {tiles : List Block}

/-- The blocks of the live payloads are the owned extents. -/
theorem Session.Kept.blocks (kept : session.Kept tiles) :
    ((ownedExtents session.heap.regionBase tiles).map Prod.snd).Perm
      (session.live.map session.blockOf) := by
  refine List.Perm.trans (List.Perm.of_eq ?_) (kept.live.map session.blockOf)
  rw [map_map]
  exact map_congr_left fun owned member => (kept.heap.inBlock member).block.symm

theorem Session.Kept.disjoint (kept : session.Kept tiles) :
    session.live.Pairwise fun first second => ∀ address, first.Covers address →
      ¬ second.Covers address := by
  refine (kept.live.pairwise_iff fun {_ _} apart address covers other =>
    apart address other covers).mp (pairwise_map.mpr ?_)
  refine (ownedExtents_apart kept.heap.sized.positive).imp_of_mem
    fun {first second} memberFirst memberSecond apart address covers other => ?_
  have inFirst := kept.heap.inBlock memberFirst
  have inSecond := kept.heap.inBlock memberSecond
  have roomFirst := inFirst.room
  have fitsFirst := inFirst.fits
  have roomSecond := inSecond.room
  have fitsSecond := inSecond.fits
  obtain ⟨above, below⟩ := covers
  obtain ⟨otherAbove, otherBelow⟩ := other
  omega

theorem Session.Kept.allocates (kept : session.Kept tiles) (size : Nat)
    (word : exponent < 64) : ∃ result heap,
      session.Allocates (freeExtents session.heap.regionBase tiles) size (2 ^ exponent) result heap := by
  rcases kept.allocate size word with ⟨refused, cannot⟩ | ⟨address, heap, after, done, -, untouched⟩
  · exact ⟨none, session.heap, refused, fun _ => ⟨rfl, cannot⟩, fun _ _ _ _ => rfl⟩
  · refine ⟨some address, heap, done, fun missing => ?_, untouched⟩
    cases missing

theorem Session.Kept.sound (kept : session.Kept tiles) (present : 0 < session.heap.regionSize) :
    session.Sound ⟨session.heap.regionBase, session.heap.regionBase + session.heap.regionSize⟩
      (freeExtents session.heap.regionBase tiles) where
  list := kept.heap.freeList
  partition := by
    rw [← kept.heap.whole]
    exact (tiles_partition kept.heap.sized.positive).perm (kept.blocks.symm.append_left _)
  sorted := freeExtents_separate kept.heap.sized.positive kept.heap.coalesced
  payloads payload live := by
    obtain ⟨extent, member⟩ := kept.extent live
    have inBlock := kept.heap.inBlock member
    have isBlock : session.blockOf payload = extent := inBlock.block
    rwa [isBlock]
  disjoint := kept.disjoint
  freeBytes := by rw [freeExtents_sum, kept.heap.freeBytes]
  allocatedBytes := by
    rw [kept.heap.allocatedBytes, ← ownedExtents_sum session.heap.regionBase]
    have sums := (kept.blocks.map fun block => block.stop - block.base).sum_eq
    rwa [map_map, map_map] at sums
  active := by
    rw [kept.heap.active, ← length_map Prod.fst]
    exact kept.live.length_eq
  allocates size _ word := kept.allocates size word
  frees payload live := by
    obtain ⟨heap, after, done, -, untouched⟩ := kept.free live
    exact ⟨heap, done, untouched⟩
  refuses payload stale := kept.refused stale
  emptied none := by
    have owners := kept.live
    rw [none] at owners
    exact coalesced_whole kept.heap (map_eq_nil_iff.mp owners.eq_nil) present

end Sound

/-- Any sequence of allocations, frees and writes into live payloads keeps the heap sound. -/
theorem sessions_sound {memory : Memory} {regionBase regionSize : Nat} {heap : Heap} {session : Session}
    (present : regionBase ≠ 0) (starts : init memory regionBase regionSize = some heap)
    (reached : Runs.Reached Session.perform (fun request session => session.Admits request)
      { heap, live := [], freed := [] } session) :
    ∃ blocks, session.Sound
      ⟨regionBase, regionBase + alignBackward regionSize blockAlignment⟩ blocks := by
  obtain ⟨⟨isBase, isSize⟩, tiles, kept⟩ := reached_kept present starts reached
  have large : 0 < session.heap.regionSize := by
    unfold init at starts
    dsimp only at starts
    split_ifs at starts with misaligned short high
    rw [isSize]
    exact Nat.lt_of_lt_of_le (by decide) (not_lt.mp short)
  have sound := kept.sound large
  rw [isBase, isSize] at sound
  exact ⟨_, sound⟩

/-- A payload that is allocated, written and freed. -/
theorem sessions_sound_freed : ∃ session : Session, session.live = [] ∧
    session.freed = [⟨4160, 24, 32⟩] ∧ ∃ blocks, session.Sound ⟨4096, 8192⟩ blocks := by
  have starts : init (fun _ => 0) 4096 4100 =
    some ((init (fun _ => 0) 4096 4100).get (by decide +kernel)) := (Option.some_get _).symm
  have admits : Runs.Admits Session.perform (fun request session => session.Admits request)
      [.allocate 24 32, .write 4170 7, .free ⟨4160, 24, 32⟩]
      { heap := (init (fun _ => 0) 4096 4100).get (by decide +kernel), live := [], freed := [] } :=
    ⟨by decide +kernel, by decide +kernel, by decide +kernel, trivial⟩
  exact ⟨_, by decide +kernel, by decide +kernel,
    sessions_sound (by decide) starts (Runs.Reached.origin.run admits)⟩

/-- A request for nothing is refused, whatever room there is. -/
theorem emptyRequest_refused : ∃ heap blocks, init (fun _ => 0) 4096 4096 = some heap ∧
    heap.freeList = some blocks ∧ ¬ ∀ size after, heap.allocate size 8 = some (none, after) →
      ∀ block ∈ blocks, ¬ CanHold size (max 8 allocationHeaderAlignment) block := by
  have begins : (init (fun _ => 0) 4096 4096).bind freeList = some [⟨4096, 8192⟩] := by
    decide +kernel
  rcases starts : init (fun _ => 0) 4096 4096 with _ | heap
  · rw [starts] at begins
    cases begins
  · rw [starts] at begins
    refine ⟨heap, _, rfl, begins, fun claimed => claimed 0 heap rfl _ mem_cons_self ?_⟩
    unfold CanHold
    decide

end ZigOs.KernelHeap
