/-
This file models the allocator that hands out physical pages at boot, before
the physical memory manager exists. It walks the usable regions of the layout
upwards and never looks back; a request with a low limit can leave it in front
of a region, or inside one, that a later request goes on with. A loop of the
source takes a bound on its rounds and has no result when the bound is used up:
a request for contiguous pages that the current region cannot fill goes round
forever.
-/

import ZigOs.RuntimePagePool.Manager

namespace ZigOs.Memory

open Extents RuntimePagePool

inductive RegionKind where
  | usable | loader | bootServices | runtimeServices | acpiReclaimable | acpiNvs | mmio
  | persistent | unaccepted | reserved
  deriving DecidableEq, Repr

structure Region where
  base : Nat
  stop : Nat
  kind : RegionKind
  deriving DecidableEq, Repr

/-- The regions of memory, in order and apart from each other. -/
structure Layout where
  regions : List Region
  count : regions.length ≤ maximumRegions
  base_lt : ∀ region ∈ regions, region.base < 2 ^ 64
  stop_lt : ∀ region ∈ regions, region.stop < 2 ^ 64
  ordered : regions.Pairwise fun first second => first.stop ≤ second.base

structure Checkpoint where
  regionIndex : Nat
  currentFrame : Nat
  currentRegionEnd : Nat
  currentRegionFullEnd : Nat
  allocatedPages : Nat
  deriving DecidableEq, Repr

structure FrameAllocator where
  regionIndex : Nat := 0
  currentFrame : Nat := 0
  currentRegionEnd : Nat := 0
  currentRegionFullEnd : Nat := 0
  allocatedPages : Nat := 0
  isSealed : Bool := false
  deriving DecidableEq, Repr

/-- The first page of a region that may be handed out. -/
def Region.start (region : Region) : Nat := max (alignForward region.base) minimumAllocatableAddress

/-- The end of the last whole page of a region. -/
def Region.fullEnd (region : Region) : Nat := alignBackward region.stop

namespace FrameAllocator

def checkpoint (allocator : FrameAllocator) : Checkpoint where
  regionIndex := allocator.regionIndex
  currentFrame := allocator.currentFrame
  currentRegionEnd := allocator.currentRegionEnd
  currentRegionFullEnd := allocator.currentRegionFullEnd
  allocatedPages := allocator.allocatedPages

/-- A checkpoint is restored only when it lies behind the allocator and is well formed. -/
def restore (allocator : FrameAllocator) (layout : Layout) (saved : Checkpoint) :
    Option FrameAllocator :=
  if allocator.isSealed ∨ allocator.allocatedPages < saved.allocatedPages then none
  else if saved.regionIndex > layout.regions.length ∨ allocator.regionIndex < saved.regionIndex then none
  else if saved.currentFrame % pageBytes ≠ 0 ∨ saved.currentRegionEnd % pageBytes ≠ 0 ∨
      saved.currentRegionFullEnd % pageBytes ≠ 0 then none
  else if (saved.currentFrame == 0) ≠ (saved.currentRegionFullEnd == 0) then none
  else if saved.currentFrame > saved.currentRegionEnd ∨
      saved.currentRegionEnd > saved.currentRegionFullEnd then none
  else if allocator.regionIndex = saved.regionIndex ∧
      (allocator.currentRegionFullEnd ≠ saved.currentRegionFullEnd ∨
        allocator.currentRegionEnd < saved.currentRegionEnd ∨
        allocator.currentFrame < saved.currentFrame) then none
  else some { allocator with
    regionIndex := saved.regionIndex
    currentFrame := saved.currentFrame
    currentRegionEnd := saved.currentRegionEnd
    currentRegionFullEnd := saved.currentRegionFullEnd
    allocatedPages := saved.allocatedPages }

/-- Go on to the next region that has a whole page; it becomes the current one even when all of
it lies above the limit. -/
def scanRegions (limitExclusive : Nat) : List Region → FrameAllocator → Bool × FrameAllocator
  | [], allocator => (false, allocator)
  | region :: rest, allocator =>
    let passed := { allocator with regionIndex := allocator.regionIndex + 1 }
    if region.kind ≠ .usable then scanRegions limitExclusive rest passed
    else if region.start ≥ region.fullEnd then scanRegions limitExclusive rest passed
    else
      let currentRegionEnd := alignBackward (min region.fullEnd limitExclusive)
      (decide (region.start < currentRegionEnd), { passed with
        currentFrame := region.start
        currentRegionFullEnd := region.fullEnd
        currentRegionEnd })

def loadNextRegion (allocator : FrameAllocator) (layout : Layout) (limitExclusive : Nat) :
    Bool × FrameAllocator :=
  if allocator.currentFrame < allocator.currentRegionFullEnd then
    let extendedEnd := alignBackward (min allocator.currentRegionFullEnd limitExclusive)
    if allocator.currentFrame < extendedEnd then
      (true, { allocator with currentRegionEnd := extendedEnd })
    else (false, allocator)
  else scanRegions limitExclusive (layout.regions.drop allocator.regionIndex) allocator

def allocateBelowLoop (layout : Layout) (limitExclusive : Nat) :
    Nat → FrameAllocator → Option (Option Nat × FrameAllocator)
  | 0, _ => none
  | rounds + 1, allocator =>
    if allocator.currentFrame < allocator.currentRegionEnd ∧
        allocator.currentFrame ≤ limitExclusive - pageBytes then
      some (some allocator.currentFrame, { allocator with
        currentFrame := allocator.currentFrame + pageBytes
        allocatedPages := allocator.allocatedPages + 1 })
    else match allocator.loadNextRegion layout limitExclusive with
      | (false, loaded) => some (none, loaded)
      | (true, loaded) => allocateBelowLoop layout limitExclusive rounds loaded

def allocateBelow (allocator : FrameAllocator) (layout : Layout) (limitExclusive rounds : Nat) :
    Option (Option Nat × FrameAllocator) :=
  if allocator.isSealed ∨ limitExclusive < pageBytes then some (none, allocator)
  else allocateBelowLoop layout limitExclusive rounds allocator

/-- The limit of a request without one. -/
abbrev maximumLimit : Nat := 2 ^ 64 - 1

def allocate (allocator : FrameAllocator) (layout : Layout) (rounds : Nat) :
    Option (Option Nat × FrameAllocator) :=
  if allocator.isSealed then some (none, allocator)
  else allocator.allocateBelow layout maximumLimit rounds

/-- The size of a request saturates at the largest 64-bit number. -/
def byteCount (pageCount : Nat) : Nat := min (pageCount * pageBytes) (2 ^ 64 - 1)

def allocateContiguousLoop (layout : Layout) (pageCount limitExclusive : Nat) :
    Nat → FrameAllocator → Option (Option Nat × FrameAllocator)
  | 0, _ => none
  | rounds + 1, allocator =>
    if allocator.currentFrame < allocator.currentRegionEnd ∧
        byteCount pageCount ≤ allocator.currentRegionEnd - allocator.currentFrame ∧
        allocator.currentFrame ≤ limitExclusive - byteCount pageCount then
      some (some allocator.currentFrame, { allocator with
        currentFrame := allocator.currentFrame + byteCount pageCount
        allocatedPages := allocator.allocatedPages + pageCount })
    else match allocator.loadNextRegion layout limitExclusive with
      | (false, loaded) => some (none, loaded)
      | (true, loaded) => allocateContiguousLoop layout pageCount limitExclusive rounds loaded

def allocateContiguousBelow (allocator : FrameAllocator) (layout : Layout)
    (pageCount limitExclusive rounds : Nat) : Option (Option Nat × FrameAllocator) :=
  if allocator.isSealed ∨ pageCount = 0 then some (none, allocator)
  else if byteCount pageCount = 0 ∨ byteCount pageCount > limitExclusive then some (none, allocator)
  else allocateContiguousLoop layout pageCount limitExclusive rounds allocator

/-! ### The hand-over -/

/-- The index of the region that was being handed out, when there is one. -/
def currentRegionIndex (allocator : FrameAllocator) : Option Nat :=
  if allocator.currentRegionFullEnd ≠ 0 ∧ allocator.regionIndex ≠ 0 then
    some (allocator.regionIndex - 1)
  else none

/-- Where the pages of a region begin that were never handed out. -/
def remainingStart (allocator : FrameAllocator) (index : Nat) (region : Region) : Option Nat :=
  match allocator.currentRegionIndex with
  | some currentIndex =>
    if index < currentIndex then none
    else if index = currentIndex then some (max region.start allocator.currentFrame)
    else if index < allocator.regionIndex then none
    else some region.start
  | none => if index < allocator.regionIndex then none else some region.start

/-- Give the manager what is left of each region from the given index on. -/
def handOver (allocator : FrameAllocator) :
    Nat → List Region → PhysicalMemoryManager → Bool × PhysicalMemoryManager
  | _, [], manager => (true, manager)
  | index, region :: rest, manager =>
    if region.kind ≠ .usable then handOver allocator (index + 1) rest manager
    else match allocator.remainingStart index region with
      | none => handOver allocator (index + 1) rest manager
      | some start =>
        if start ≥ region.fullEnd then handOver allocator (index + 1) rest manager
        else match manager.appendInitialExtent ⟨start, region.fullEnd⟩ with
          | none => (false, manager)
          | some grown => handOver allocator (index + 1) rest grown

/-- Make the manager of everything that was not handed out, and seal the allocator. -/
def initializeFromBootstrap (allocator : FrameAllocator) (layout : Layout)
    (manager : PhysicalMemoryManager) : Bool × PhysicalMemoryManager × FrameAllocator :=
  if allocator.isSealed then (false, manager, allocator)
  else
    let handed := handOver allocator 0 layout.regions {}
    if handed.1 = false ∨ handed.2.totalPages = 0 then (false, handed.2, allocator)
    else (true, handed.2, { allocator with isSealed := true })

end FrameAllocator

end ZigOs.Memory
