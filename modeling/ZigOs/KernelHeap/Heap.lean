/-
This file models the kernel heap. The free blocks form a list in the managed
memory itself, in order of address: the first words of a free block are its size
and the address of the next one. The four words in front of a payload say which
block it is in.
-/

import ZigOs.Lib.ByteMemory
import ZigOs.Lib.Extents

namespace ZigOs.KernelHeap

open ByteMemory Extents

abbrev blockAlignment : Nat := 16
abbrev allocationMagic : Nat := 0x5A49_474F_5348_4541
abbrev freedMagic : Nat := 0x4652_4545_4448_4541
abbrev freeBlockBytes : Nat := 16
abbrev allocationHeaderBytes : Nat := 32
abbrev allocationHeaderAlignment : Nat := 8

/-- A free block's and a header's room and one byte, rounded up. -/
abbrev minimumFreeBlockSize : Nat := 64

structure FreeBlock where
  size : Nat
  next : Nat
  deriving DecidableEq, Repr

structure AllocationHeader where
  magic : Nat
  blockStart : Nat
  blockSize : Nat
  payloadSize : Nat
  deriving DecidableEq, Repr

/-! ### The structures in memory -/

def freeBlockAt (memory : Memory) (address : Nat) : FreeBlock :=
  { size := readWord memory address, next := readWord memory (address + 8) }

def setFreeBlock (memory : Memory) (address : Nat) (block : FreeBlock) : Memory :=
  store memory address (words [block.size, block.next])

def setNext (memory : Memory) (address next : Nat) : Memory := store memory (address + 8) (words [next])

def allocationHeaderAt (memory : Memory) (address : Nat) : AllocationHeader :=
  { magic := readWord memory address
    blockStart := readWord memory (address + 8)
    blockSize := readWord memory (address + 16)
    payloadSize := readWord memory (address + 24) }

def setAllocationHeader (memory : Memory) (address : Nat) (header : AllocationHeader) : Memory :=
  store memory address (words [header.magic, header.blockStart, header.blockSize, header.payloadSize])

def setMagic (memory : Memory) (address magic : Nat) : Memory := store memory address (words [magic])

/-- Rounding up, unless the sum does not fit a word. -/
def alignForward (value alignment : Nat) : Option Nat :=
  if value > 2 ^ 64 - 1 - (alignment - 1) then none
  else some ((value + (alignment - 1)) / alignment * alignment)

def alignBackward (value alignment : Nat) : Nat := value / alignment * alignment

/-! ### The heap -/

/-- The heap, with the memory that it lies in. -/
structure Heap where
  regionBase : Nat
  regionSize : Nat
  freeHead : Nat
  freeBytes : Nat
  allocatedBytes : Nat := 0
  activeAllocations : Nat := 0
  totalAllocations : Nat := 0
  totalFrees : Nat := 0
  memory : Memory

namespace Heap

def init (memory : Memory) (regionBase regionSize : Nat) : Option Heap :=
  if regionBase % blockAlignment ≠ 0 then none
  else
    let usableSize := alignBackward regionSize blockAlignment
    if usableSize < minimumFreeBlockSize then none
    else if regionBase > 2 ^ 64 - 1 - usableSize then none
    else some {
      regionBase
      regionSize := usableSize
      freeHead := regionBase
      freeBytes := usableSize
      memory := setFreeBlock memory regionBase { size := usableSize, next := 0 } }

/-- More than the rounds that a loop over the free list takes. -/
def rounds (heap : Heap) : Nat := heap.regionSize / minimumFreeBlockSize + 1

/-- Where a request is placed, and the free block in front of the one it is placed in. -/
structure Placement where
  previous : Nat
  current : Nat
  payload : Nat
  alignedEnd : Nat

/-- The loop that looks for a free block with room. The outer option is about the rounds. -/
def findPlacement (memory : Memory) (requestedSize alignment : Nat) :
    Nat → Nat → Nat → Option (Option Placement)
  | 0, _, _ => none
  | rounds + 1, previous, current =>
    if current = 0 then some none
    else
      let block := freeBlockAt memory current
      let blockEnd := current + block.size
      match alignForward (current + freeBlockBytes + allocationHeaderBytes) alignment with
      | none => some none
      | some payload =>
        if payload ≥ blockEnd ∨ requestedSize > blockEnd - payload then
          findPlacement memory requestedSize alignment rounds current block.next
        else match alignForward (payload + requestedSize) blockAlignment with
          | none => some none
          | some alignedEnd =>
            if alignedEnd > blockEnd then
              findPlacement memory requestedSize alignment rounds current block.next
            else some (some { previous, current, payload, alignedEnd })

/-- Make the free block in front, or the head when there is none, lead to an address. -/
def linkTo (heap : Heap) (previous address : Nat) : Heap :=
  if previous = 0 then { heap with freeHead := address }
  else { heap with memory := setNext heap.memory previous address }

/-- Take the placed block off the free list, put back what is left of it if that is enough, and
write the header. -/
def place (heap : Heap) (requestedSize : Nat) (placement : Placement) : Heap :=
  let block := freeBlockAt heap.memory placement.current
  let remainingSize := placement.current + block.size - placement.alignedEnd
  let splits := remainingSize ≥ minimumFreeBlockSize
  let consumedSize := if splits then placement.alignedEnd - placement.current else block.size
  let split := if splits then
      { heap with
        memory := setFreeBlock heap.memory placement.alignedEnd
          { size := remainingSize, next := block.next } }
    else heap
  let linked := split.linkTo placement.previous (if splits then placement.alignedEnd else block.next)
  { linked with
    freeBytes := heap.freeBytes - consumedSize
    allocatedBytes := heap.allocatedBytes + consumedSize
    activeAllocations := heap.activeAllocations + 1
    totalAllocations := heap.totalAllocations + 1
    memory := setAllocationHeader linked.memory (placement.payload - allocationHeaderBytes) {
      magic := allocationMagic
      blockStart := placement.current
      blockSize := consumedSize
      payloadSize := requestedSize } }

/-- The address of the payload, if there is room, and the heap afterwards. -/
def allocate (heap : Heap) (requestedSize requestedAlignment : Nat) : Option (Option Nat × Heap) :=
  if requestedSize = 0 then some (none, heap)
  else if requestedAlignment = 0 ∨ requestedAlignment &&& (requestedAlignment - 1) ≠ 0 then
    some (none, heap)
  else
    let alignment := max requestedAlignment allocationHeaderAlignment
    match findPlacement heap.memory requestedSize alignment heap.rounds 0 heap.freeHead with
    | none => none
    | some none => some (none, heap)
    | some (some placement) => some (some placement.payload, heap.place requestedSize placement)

/-! ### Freeing -/

/-- The loop that looks for the free blocks on either side of a block. -/
def findGap (memory : Memory) (blockStart : Nat) : Nat → Nat → Nat → Option (Nat × Nat)
  | 0, _, _ => none
  | rounds + 1, previous, current =>
    if current ≠ 0 ∧ current < blockStart then
      findGap memory blockStart rounds current (freeBlockAt memory current).next
    else some (previous, current)

/-- Put the block into the free list between its neighbours. -/
def linkBlock (heap : Heap) (blockStart blockSize previous current : Nat) : Heap :=
  { heap with
    memory := setFreeBlock heap.memory blockStart { size := blockSize, next := current } }.linkTo
      previous blockStart

def mergeNext (heap : Heap) (blockStart current : Nat) : Heap :=
  let inserted := freeBlockAt heap.memory blockStart
  if current ≠ 0 ∧ blockStart + inserted.size = current then
    let next := freeBlockAt heap.memory current
    { heap with
      memory := setFreeBlock heap.memory blockStart
        { size := inserted.size + next.size, next := next.next } }
  else heap

def mergePrevious (heap : Heap) (blockStart previous : Nat) : Heap :=
  let before := freeBlockAt heap.memory previous
  if previous ≠ 0 ∧ previous + before.size = blockStart then
    let inserted := freeBlockAt heap.memory blockStart
    { heap with
      memory := setFreeBlock heap.memory previous
        { size := before.size + inserted.size, next := inserted.next } }
  else heap

def insertFreeBlock (heap : Heap) (blockStart blockSize : Nat) : Option Heap :=
  match findGap heap.memory blockStart heap.rounds 0 heap.freeHead with
  | none => none
  | some (previous, current) =>
    some (((heap.linkBlock blockStart blockSize previous current).mergeNext blockStart
      current).mergePrevious blockStart previous)

/-- The header speaks of a block of the region and of a payload of this length. -/
def acceptsHeader (heap : Heap) (header : AllocationHeader) (length : Nat) : Bool :=
  header.magic = allocationMagic ∧ header.payloadSize = length ∧
    heap.regionBase ≤ header.blockStart ∧ minimumFreeBlockSize ≤ header.blockSize ∧
    header.blockStart ≤ heap.regionBase + heap.regionSize - header.blockSize

/-- Free a payload, given by its address and its length. -/
def free (heap : Heap) (payload length : Nat) : Option (Bool × Heap) :=
  if length = 0 then some (false, heap)
  else if payload < heap.regionBase + allocationHeaderBytes then some (false, heap)
  else if payload ≥ heap.regionBase + heap.regionSize then some (false, heap)
  else
    let header := allocationHeaderAt heap.memory (payload - allocationHeaderBytes)
    if heap.acceptsHeader header length = false then some (false, heap)
    else
      let marked := { heap with
        memory := setMagic heap.memory (payload - allocationHeaderBytes) freedMagic }
      match marked.insertFreeBlock header.blockStart header.blockSize with
      | none => none
      | some inserted =>
        some (true, { inserted with
          freeBytes := inserted.freeBytes + header.blockSize
          allocatedBytes := inserted.allocatedBytes - header.blockSize
          activeAllocations := inserted.activeAllocations - 1
          totalFrees := inserted.totalFrees + 1 })

/-! ### The free list -/

/-- The free blocks of the list, from an address on. -/
def freeListFrom (memory : Memory) : Nat → Nat → Option (List Extent)
  | 0, _ => none
  | rounds + 1, current =>
    if current = 0 then some []
    else
      let block := freeBlockAt memory current
      (freeListFrom memory rounds block.next).map (⟨current, current + block.size⟩ :: ·)

def freeList (heap : Heap) : Option (List Extent) :=
  freeListFrom heap.memory heap.rounds heap.freeHead

/-- The block of a payload, as its header has it. -/
def blockOf (heap : Heap) (payload : Nat) : Extent :=
  let header := allocationHeaderAt heap.memory (payload - allocationHeaderBytes)
  ⟨header.blockStart, header.blockStart + header.blockSize⟩

end Heap

end ZigOs.KernelHeap
