/-
This file models the contents of files: the sparse map from the slots of a file
to blocks of a shared pool, the write-through cache of file pages with its pins
and its dirty marks, and the calls that read, write, truncate, preallocate and
punch holes. The source's loops over the slots of a range copy one part of the
range at a time; so do the definitions here.
-/

import ZigOs.RuntimeVfs.Lookup

namespace ZigOs.RuntimeVfs

open Scan Call Function

/-! ### Slots of a range -/

def slotBit (slot : Nat) : BitVec 8 := 1 <<< slot

/-- The slots a nonempty range of bytes touches. -/
def rangeSlots (offset length : Nat) : List Nat :=
  if length = 0 then []
  else List.range' (offset / fileBlockSize)
    ((offset + length - 1) / fileBlockSize + 1 - offset / fileBlockSize)

def filePageRangeBitmap (offset length : Nat) : BitVec 8 :=
  ((rangeSlots offset length).filter (· < fileBlocksPerNode)).foldl
    (fun bitmap slot => bitmap ||| slotBit slot) 0

/-- A page with the part of `bytes`, placed at `offset` of the file, that falls into it. -/
def Page.overwrite (page : Page) (slot offset : Nat) (bytes : Bytes) : Page := fun index =>
  let position := slot * fileBlockSize + index
  if offset ≤ position then (bytes[position - offset]?).getD (page index) else page index

/-- A page with zeros from one offset of it up to another. -/
def Page.clear (page : Page) (first last : Nat) : Page := fun index =>
  if first ≤ index ∧ index < last then 0 else page index

/-- The bytes of a page from one offset of it up to another. -/
def Page.slice (page : Page) (first last : Nat) : Bytes :=
  (List.range' first (last - first)).map page

namespace Vfs

/-! ### The block pool -/

def freeDataBlockCount (vfs : Vfs) : Nat :=
  countIndex maximumDataBlocks fun block => !(vfs.dataBlocks block).used

def nodeAllocatedBlockCount (vfs : Vfs) (node : Nat) : Nat :=
  countIndex fileBlocksPerNode fun slot => (vfs.nodes node).fileBlocks slot != invalidDataBlock

def setFileBlock (vfs : Vfs) (node slot block : Nat) : Vfs :=
  vfs.modifyNode node fun entry =>
    { entry with fileBlocks := update entry.fileBlocks slot block }

/-- The first free block becomes the slot's block, full of zeros. Its callers have counted the
free blocks before. -/
def allocateFileBlockLocked (node : Nat) (vfs : Vfs) (slot : Nat) : Vfs :=
  match firstIndex maximumDataBlocks fun block => !(vfs.dataBlocks block).used with
  | some block =>
    (vfs.modifyBlock block fun _ => { used := true, ownerNode := node, ownerSlot := slot }).setFileBlock
      node slot block
  | none => vfs

def releaseFileBlockLocked (node : Nat) (vfs : Vfs) (slot : Nat) : Vfs :=
  let block := (vfs.nodes node).fileBlocks slot
  if block = invalidDataBlock then vfs
  else (vfs.modifyBlock block fun _ => {}).setFileBlock node slot invalidDataBlock

def releaseAllFileBlocks (vfs : Vfs) (node : Nat) : Vfs :=
  (List.range fileBlocksPerNode).foldl (releaseFileBlockLocked node) vfs

/-- What the file holds in a slot: its block, or zeros for a hole. -/
def blockPage (vfs : Vfs) (node slot : Nat) : Page :=
  let block := (vfs.nodes node).fileBlocks slot
  if block = invalidDataBlock then fun _ => 0 else (vfs.dataBlocks block).data

/-- Change the contents of the block behind a slot. -/
def modifyFileBlock (vfs : Vfs) (node slot : Nat) (step : Page → Page) : Vfs :=
  let block := (vfs.nodes node).fileBlocks slot
  if block = invalidDataBlock then vfs
  else vfs.modifyBlock block fun entry => { entry with data := step entry.data }

/-! ### The file-page cache -/

/-- The cache entry holds this slot of this very node. -/
def caches (vfs : Vfs) (index node slot : Nat) : Bool :=
  let entry := vfs.filePageCache index
  entry.used && entry.node == node && entry.nodeGeneration == (vfs.nodes node).generation &&
    entry.slot == slot

def pageDirty (vfs : Vfs) (node slot : Nat) : Bool :=
  vfs.dirtyFilePageBitmap node &&& slotBit slot != 0

/-- Empty a cache entry and give its page back; a pinned entry stays. The result is whether
the allocator took the page. -/
def releaseFilePageCacheEntryLocked (index : Nat) (vfs : Vfs) : Bool × Vfs :=
  let entry := vfs.filePageCache index
  if entry.used = false then (true, vfs)
  else if entry.mappingReferences ≠ 0 then (false, vfs)
  else
    let emptied := vfs.modifyPage index fun _ => {}
    match vfs.filePageCacheAllocator with
    | none => (false, emptied)
    | some allocator =>
      if entry.address = 0 then (false, emptied)
      else
        let called := { emptied with allocatorCalls := vfs.allocatorCalls + 1 }
        if allocator.releases vfs.allocatorCalls then
          (true, { called with heldPages := update vfs.heldPages entry.address false })
        else (false, called)

/-- Ask the allocator for a page. It hands out pages that nobody holds. -/
def allocatePage (allocator : FilePageAllocator) (vfs : Vfs) : Option Nat × Vfs :=
  let called := { vfs with allocatorCalls := vfs.allocatorCalls + 1 }
  match allocator.offers vfs.allocatorCalls with
  | none => (none, called)
  | some address =>
    if address = 0 ∨ vfs.heldPages address then (none, called)
    else (some address, { called with heldPages := update vfs.heldPages address true })

/-- The entry a new page goes to: an unused one, or else the unpinned one that was used least
recently. -/
def pageCandidate (vfs : Vfs) : Option Nat :=
  match firstIndex maximumFilePageCacheEntries fun index => !(vfs.filePageCache index).used with
  | some index => some index
  | none => leastIndex maximumFilePageCacheEntries
      (fun index => (vfs.filePageCache index).mappingReferences == 0)
      (fun index => (vfs.filePageCache index).lastUsed) (2 ^ 64 - 1)

/-- Install a freshly filled page in a cache entry. -/
def installPage (vfs : Vfs) (index node slot address : Nat) : Vfs :=
  (vfs.modifyPage index fun _ =>
    { used := true
      node := node
      nodeGeneration := (vfs.nodes node).generation
      slot := slot
      dirty := vfs.pageDirty node slot
      lastUsed := vfs.filePageCacheClock
      address := address }).writePage address (vfs.blockPage node slot)

/-- The address of the cached page of a slot, cached now if need be and possible. -/
def cachedFilePageLocked (node slot : Nat) (vfs : Vfs) : Option Nat × Vfs :=
  let ticked := { vfs with filePageCacheClock := nextNonzero 64 vfs.filePageCacheClock }
  match firstIndex maximumFilePageCacheEntries fun index => ticked.caches index node slot with
  | some index =>
    (some (ticked.filePageCache index).address,
      ticked.modifyPage index fun entry => { entry with lastUsed := ticked.filePageCacheClock })
  | none =>
    match ticked.filePageCacheAllocator, ticked.pageCandidate with
    | some allocator, some index =>
      match allocatePage allocator (releaseFilePageCacheEntryLocked index ticked).2 with
      | (some address, allocated) => (some address, allocated.installPage index node slot address)
      | (none, allocated) => (none, allocated)
    | _, _ => (none, ticked)

/-- Bring the cache entries of a node up to date with its blocks: pinned ones are refilled, the
others are dropped. -/
def refreshPage (node : Nat) (vfs : Vfs) (index : Nat) : Vfs :=
  let entry := vfs.filePageCache index
  if entry.used = false ∨ entry.node ≠ node then vfs
  else if entry.mappingReferences ≠ 0 ∧ entry.nodeGeneration = (vfs.nodes node).generation then
    (vfs.writePage entry.address (vfs.blockPage node entry.slot)).modifyPage index fun entry =>
      { entry with dirty := vfs.pageDirty node entry.slot }
  else (releaseFilePageCacheEntryLocked index vfs).2

def invalidateFilePageCacheNode (vfs : Vfs) (node : Nat) : Vfs :=
  (List.range maximumFilePageCacheEntries).foldl (refreshPage node) vfs

/-! ### Dirty pages -/

/-- Set the dirty mark of the cached pages of a node that the bitmap selects. -/
def markCached (vfs : Vfs) (node : Nat) (bitmap : BitVec 8) (dirty : Bool) : Vfs :=
  { vfs with
    filePageCache := fun index =>
      let entry := vfs.filePageCache index
      if index < maximumFilePageCacheEntries ∧ entry.used ∧ entry.node = node ∧
          entry.nodeGeneration = (vfs.nodes node).generation ∧ bitmap &&& slotBit entry.slot ≠ 0
      then { entry with dirty := dirty } else entry }

def setDirtyBitmap (vfs : Vfs) (node : Nat) (bitmap : BitVec 8) : Vfs :=
  { vfs with dirtyFilePageBitmap := update vfs.dirtyFilePageBitmap node bitmap }

def markDirtyFilePagesLocked (vfs : Vfs) (node : Nat) (bitmap : BitVec 8) : Vfs :=
  if bitmap = 0 then vfs
  else (vfs.setDirtyBitmap node (vfs.dirtyFilePageBitmap node ||| bitmap)).markCached node bitmap true

def clearDirtyNodePagesLocked (vfs : Vfs) (node : Nat) : Vfs :=
  if vfs.dirtyFilePageBitmap node = 0 then vfs
  else (vfs.setDirtyBitmap node 0).markCached node (BitVec.allOnes 8) false

def discardDirtyFilePagesLocked (vfs : Vfs) (node : Nat) (bitmap : BitVec 8) : Vfs :=
  let discarded := vfs.dirtyFilePageBitmap node &&& bitmap
  if discarded = 0 then vfs
  else (vfs.setDirtyBitmap node (vfs.dirtyFilePageBitmap node &&& ~~~bitmap)).markCached node
    discarded false

/-- The slots that are below the end of the file or have a block. -/
def validPageBitmap (vfs : Vfs) (node : Nat) : BitVec 8 :=
  ((List.range fileBlocksPerNode).filter fun slot =>
    slot * fileBlockSize < (vfs.nodes node).size ∨
      (vfs.nodes node).fileBlocks slot ≠ invalidDataBlock).foldl
    (fun bitmap slot => bitmap ||| slotBit slot) 0

def trimDirtyFilePagesLocked (vfs : Vfs) (node : Nat) : Vfs :=
  vfs.discardDirtyFilePagesLocked node (vfs.dirtyFilePageBitmap node &&& ~~~vfs.validPageBitmap node)

def bitCount (bitmap : BitVec 8) : Nat :=
  countIndex fileBlocksPerNode fun slot => bitmap &&& slotBit slot != 0

/-! ### Reading -/

/-- Read the part of a range that falls into one slot, from its cached page or its block. -/
def readSlot (node offset length slot : Nat) (vfs : Vfs) : Bytes × Vfs :=
  let first := max offset (slot * fileBlockSize) - slot * fileBlockSize
  let last := min (offset + length) ((slot + 1) * fileBlockSize) - slot * fileBlockSize
  match cachedFilePageLocked node slot vfs with
  | (some address, after) => ((after.pageMemory address).slice first last, after)
  | (none, after) => ((after.blockPage node slot).slice first last, after)

def readSlots (node offset length : Nat) : List Nat → Vfs → Bytes × Vfs
  | [], vfs => ([], vfs)
  | slot :: rest, vfs =>
    let (chunk, after) := readSlot node offset length slot vfs
    let (chunks, final) := readSlots node offset length rest after
    (chunk ++ chunks, final)

def readFileDataLocked (node offset length : Nat) (vfs : Vfs) : Bytes × Vfs :=
  readSlots node offset length (rangeSlots offset length) vfs

/-! ### Writing -/

def copyIntoFileBlocks (vfs : Vfs) (node offset : Nat) (bytes : Bytes) : Vfs :=
  (rangeSlots offset bytes.length).foldl
    (fun vfs slot => vfs.modifyFileBlock node slot fun page => page.overwrite slot offset bytes) vfs

/-- The slots that a write has to find blocks for. -/
def slotsWithoutBlock (vfs : Vfs) (node : Nat) (slots : List Nat) : List Nat :=
  slots.filter fun slot => (vfs.nodes node).fileBlocks slot == invalidDataBlock

/-- Give every slot of the range that has no block one of its own. -/
def fillSlot (node : Nat) (vfs : Vfs) (slot : Nat) : Vfs :=
  if (vfs.nodes node).fileBlocks slot = invalidDataBlock then allocateFileBlockLocked node vfs slot
  else vfs

/-- Check that the pool has the blocks a write needs, and only then change anything. -/
def prepareWriteBlocks (node offset length : Nat) (truncateFirst : Bool) : VfsCall Unit := do
  let vfs ← state
  let slots := rangeSlots offset length
  let required := if truncateFirst then slots.length else (vfs.slotsWithoutBlock node slots).length
  let reusable := if truncateFirst then vfs.nodeAllocatedBlockCount node else 0
  failWhen (required > vfs.freeDataBlockCount + reusable) .noSpace
  change fun vfs =>
    slots.foldl (fillSlot node) (if truncateFirst then vfs.releaseAllFileBlocks node else vfs)

def touch (vfs : Vfs) (node tick : Nat) : Vfs :=
  vfs.modifyNode node fun entry => { entry with modifiedTick := tick, changedTick := tick }

def setSize (vfs : Vfs) (node size : Nat) : Vfs :=
  vfs.modifyNode node fun entry => { entry with size := size }

/-- Mark the pages of a range dirty, when the range is not empty. -/
def markDirtyRange (vfs : Vfs) (node first last : Nat) : Vfs :=
  if first < last then vfs.markDirtyFilePagesLocked node (filePageRangeBitmap first (last - first))
  else vfs

/-- What a write does once its blocks are there. -/
def storeBytes (node offset : Nat) (bytes : Bytes) (truncateFirst : Bool) (tick : Nat) (vfs : Vfs) :
    Vfs :=
  let previousSize := (vfs.nodes node).size
  let started := if truncateFirst then
      (vfs.setSize node 0).discardDirtyFilePagesLocked node (BitVec.allOnes 8)
    else vfs
  let copied := started.copyIntoFileBlocks node offset bytes
  let sized := (copied.setSize node (max (started.nodes node).size (offset + bytes.length))).touch
    node tick
  (sized.invalidateFilePageCacheNode node).markDirtyRange node
    (if truncateFirst then 0 else min offset previousSize) (offset + bytes.length)

def writeNodeLocked (node offset : Nat) (bytes : Bytes) (truncateFirst : Bool) (tick : Nat) :
    VfsCall Nat := do
  failWhen (offset > maximumFileSize ∨ bytes.length > maximumFileSize - offset) .fileTooLarge
  if bytes.length = 0 ∧ truncateFirst = false then return 0
  else do
    prepareWriteBlocks node offset bytes.length truncateFirst
    change (storeBytes node offset bytes truncateFirst tick)
    return bytes.length

def writeNode (node offset : Nat) (bytes : Bytes) (truncateFirst : Bool) (tick : Nat) :
    VfsCall Nat := do
  let vfs ← state
  lift (vfs.requireWritableFile node)
  writeNodeLocked node offset bytes truncateFirst tick

/-- Write at the end of the file; the result is what was written and where it ends. -/
def appendNode (node : Nat) (bytes : Bytes) (tick : Nat) : VfsCall (Nat × Nat) := do
  let vfs ← state
  lift (vfs.requireWritableFile node)
  let written ← writeNodeLocked node (vfs.nodes node).size bytes false tick
  return (written, (vfs.nodes node).size + written)

/-- The first slot that lies wholly past a size. -/
def firstReleasedSlot (size : Nat) : Nat := (size + fileBlockSize - 1) / fileBlockSize

/-- Cut the blocks of a file down to a size: the tail of the last block turns zero and the later
blocks return to the pool. -/
def shrinkBlocks (vfs : Vfs) (node size : Nat) : Vfs :=
  let tail := if size % fileBlockSize ≠ 0 then
      vfs.modifyFileBlock node (size / fileBlockSize) fun page =>
        page.clear (size % fileBlockSize) fileBlockSize
    else vfs
  (List.range' (firstReleasedSlot size) (fileBlocksPerNode - firstReleasedSlot size)).foldl
    (releaseFileBlockLocked node) tail

def truncateNodeLocked (node size tick : Nat) (vfs : Vfs) : Vfs :=
  let previousSize := (vfs.nodes node).size
  let cut := if size < previousSize then vfs.shrinkBlocks node size else vfs
  let sized := (cut.setSize node size).touch node tick
  let trimmed := (sized.invalidateFilePageCacheNode node).trimDirtyFilePagesLocked node
  if size > previousSize then
    trimmed.markDirtyFilePagesLocked node (filePageRangeBitmap previousSize (size - previousSize))
  else if size < previousSize ∧ size % fileBlockSize ≠ 0 then
    trimmed.markDirtyFilePagesLocked node (slotBit (size / fileBlockSize))
  else trimmed

/-! ### Preallocation and holes -/

/-- Clear the part of the range that falls into one slot; a wholly covered block is released. -/
def punchSlot (node offset length : Nat) (vfs : Vfs) (slot : Nat) : Vfs :=
  let first := max offset (slot * fileBlockSize) - slot * fileBlockSize
  let last := min (offset + length) ((slot + 1) * fileBlockSize) - slot * fileBlockSize
  if first = 0 ∧ last = fileBlockSize then releaseFileBlockLocked node vfs slot
  else vfs.modifyFileBlock node slot fun page => page.clear first last

def punchHoleLocked (vfs : Vfs) (node offset length : Nat) : Vfs :=
  (rangeSlots offset length).foldl (punchSlot node offset length) vfs

def allocateNode (node offset length : Nat) (flags : AllocationFlags) (tick : Nat)
    (enforceMode : Bool) : VfsCall Unit := do
  failWhen (length = 0) .invalidOffset
  failWhen (offset > maximumFileSize ∨ length > maximumFileSize - offset) .fileTooLarge
  failWhen (flags.punchHole ∧ flags.keepSize = false) .invalidOffset
  let vfs ← state
  lift (if enforceMode then vfs.requireWritableFile node else vfs.requireMutableFile node)
  let previousSize := (vfs.nodes node).size
  if flags.punchHole then change fun vfs => vfs.punchHoleLocked node offset length
  else do
    prepareWriteBlocks node offset length false
    change fun vfs =>
      if flags.keepSize then vfs
      else vfs.setSize node (max (vfs.nodes node).size (offset + length))
  change fun vfs =>
    (((vfs.touch node tick).invalidateFilePageCacheNode node).markDirtyRange node
      (if flags.keepSize = false ∧ offset > previousSize then previousSize else offset)
      (offset + length)).trimDirtyFilePagesLocked node

/-! ### Reclaiming a node -/

def reclaimNode (vfs : Vfs) (node : Nat) : Vfs :=
  (((vfs.invalidateFilePageCacheNode node).discardDirtyFilePagesLocked node
    (BitVec.allOnes 8)).releaseAllFileBlocks node).modifyNode node fun entry =>
      { generation := entry.generation }

/-- Reclaim a node that has no name and no reference left. -/
def maybeReclaimUnlinked (vfs : Vfs) (node : Nat) : Vfs :=
  if vfs.nodeUsed node = false ∨ (vfs.nodes node).linkCount ≠ 0 then vfs
  else if vfs.hasOpenReferences node then vfs else vfs.reclaimNode node

/-! ### Pins and pressure -/

structure MappedFilePage where
  address : Nat
  node : Nat
  generation : Nat
  slot : Nat
  validBytes : Nat
  deriving DecidableEq, Repr

def setFilePageAllocator (allocator : FilePageAllocator) : VfsCall Unit := do
  let vfs ← state
  failWhen ((firstIndex maximumFilePageCacheEntries fun index =>
    (vfs.filePageCache index).used).isSome) .busy
  change fun vfs => { vfs with filePageCacheAllocator := some allocator }

/-- Add to the mapping counts of a cache entry and its node, or take from them. -/
def countMapping (vfs : Vfs) (index node : Nat) (step : Nat → Nat) : Vfs :=
  (vfs.modifyPage index fun entry =>
    { entry with mappingReferences := step entry.mappingReferences }).modifyNode node fun entry =>
      { entry with mappingReferences := step entry.mappingReferences }

def pinFilePage (node generation slot : Nat) : VfsCall MappedFilePage := do
  let vfs ← state
  let entry := vfs.nodes node
  failWhen (node ≥ maximumNodes ∨ slot ≥ fileBlocksPerNode) .notFound
  failWhen (entry.used = false ∨ entry.generation ≠ generation ∨ entry.kind ≠ .file ∨
    entry.pseudoOperations.isSome) .notFound
  failWhen (slot * fileBlockSize ≥ entry.size) .invalidOffset
  let cached := cachedFilePageLocked node slot vfs
  change fun _ => cached.2
  failWhen (cached.1 = none) .noSpace
  let vfs ← state
  match firstIndex maximumFilePageCacheEntries fun index => vfs.caches index node slot with
  | none => fail .invalidHandle
  | some index => do
    failWhen ((vfs.filePageCache index).mappingReferences = 0xFFFF ∨
      (vfs.nodes node).mappingReferences = 0xFFFF) .noSpace
    change fun vfs => vfs.countMapping index node (· + 1)
    return {
      address := (vfs.filePageCache index).address
      node := node
      generation := generation
      slot := slot
      validBytes := min fileBlockSize (entry.size - slot * fileBlockSize) }

def unpinFilePage (node generation slot : Nat) : VfsCall Unit := do
  let vfs ← state
  let entry := vfs.nodes node
  failWhen (node ≥ maximumNodes ∨ slot ≥ fileBlocksPerNode) .notFound
  failWhen (entry.used = false ∨ entry.generation ≠ generation ∨ entry.kind ≠ .file) .notFound
  match firstIndex maximumFilePageCacheEntries fun index => vfs.caches index node slot with
  | none => fail .notFound
  | some index => do
    failWhen ((vfs.filePageCache index).mappingReferences = 0 ∨
      (vfs.nodes node).mappingReferences = 0) .invalidHandle
    change fun vfs => (vfs.countMapping index node (· - 1)).maybeReclaimUnlinked node

/-- The clean, unpinned entry that was used least recently. -/
def pressureCandidate (vfs : Vfs) : Option Nat :=
  leastIndex maximumFilePageCacheEntries
    (fun index => (vfs.filePageCache index).used && !(vfs.filePageCache index).dirty &&
      (vfs.filePageCache index).mappingReferences == 0)
    (fun index => (vfs.filePageCache index).lastUsed) (2 ^ 64 - 1)

/-- Drop clean pages until no more than the target are left. The first argument bounds the
rounds; each round drops one entry or is the last. -/
def reclaimDownTo (target : Nat) : Nat → Nat → Vfs → Nat × Vfs
  | 0, _, vfs => (0, vfs)
  | rounds + 1, active, vfs =>
    if active ≤ target then (0, vfs)
    else match vfs.pressureCandidate with
      | none => (0, vfs)
      | some index =>
        match releaseFilePageCacheEntryLocked index vfs with
        | (false, after) => (0, after)
        | (true, after) =>
          let (reclaimed, final) := reclaimDownTo target rounds (active - 1) after
          (reclaimed + 1, final)

def reclaimCleanFilePageCacheUnderPressure (freePages lowWatermark targetEntries : Nat) (vfs : Vfs) :
    Nat × Vfs :=
  if lowWatermark = 0 ∨ freePages ≥ lowWatermark then (0, vfs)
  else
    let active := countIndex maximumFilePageCacheEntries fun index => (vfs.filePageCache index).used
    reclaimDownTo (min targetEntries maximumFilePageCacheEntries) maximumFilePageCacheEntries active vfs

/-- Drop the page at one index if it is clean and unpinned. -/
def releaseCleanPage (result : Nat × Vfs) (index : Nat) : Nat × Vfs :=
  let entry := result.2.filePageCache index
  if entry.used = false ∨ entry.dirty ∨ entry.mappingReferences ≠ 0 then result
  else
    let (released, after) := releaseFilePageCacheEntryLocked index result.2
    (if released then result.1 + 1 else result.1, after)

def releaseFilePageCache (vfs : Vfs) : Nat × Vfs :=
  (List.range maximumFilePageCacheEntries).foldl releaseCleanPage (0, vfs)

def clearDirtyNodePages (node : Nat) (vfs : Vfs) : Nat × Vfs :=
  if vfs.nodeUsed node = false ∨ (vfs.nodes node).kind ≠ .file then (0, vfs)
  else (bitCount (vfs.dirtyFilePageBitmap node), vfs.clearDirtyNodePagesLocked node)

/-- Clear the dirty pages of a node that lies on a writable mount. -/
def clearDirtyIfWritable (vfs : Vfs) (node : Nat) : Vfs :=
  let entry := vfs.nodes node
  if entry.used = false ∨ entry.kind ≠ .file ∨ entry.mountId = 0 then vfs
  else if entry.mountId - 1 ≥ maximumMounts ∨ (vfs.mounts (entry.mountId - 1)).used = false ∨
      (vfs.mounts (entry.mountId - 1)).readonly then vfs
  else vfs.clearDirtyNodePagesLocked node

def clearDirtyWritableMountPages (vfs : Vfs) : Vfs :=
  (List.range maximumNodes).foldl clearDirtyIfWritable vfs

end Vfs

end ZigOs.RuntimeVfs
