/-
This file holds the tables of the virtual filesystem: nodes, directory entries,
data blocks, the file-page cache, the directory-entry cache, mounts, open files
and the ring of directory events. A table is a function on the naturals whose
indices below the table's bound are its slots. Page memory is a component of
the state because cached pages live outside the tables, at the addresses an
allocator handed out.
-/

import ZigOs.Error

namespace ZigOs.RuntimeVfs

open Scan Function

abbrev maximumNodes : Nat := 128
abbrev maximumDentries : Nat := 256
abbrev maximumDentryCacheEntries : Nat := 16
abbrev maximumFilePageCacheEntries : Nat := 16
abbrev maximumNameLength : Nat := 31
abbrev maximumPathLength : Nat := 255
abbrev maximumSymlinkDepth : Nat := 8
abbrev maximumSymlinkTargetLength : Nat := 255
abbrev maximumFileSize : Nat := 32768
abbrev fileBlockSize : Nat := 4096
abbrev fileBlocksPerNode : Nat := 8
abbrev maximumDataBlocks : Nat := 256
abbrev maximumMounts : Nat := 8
abbrev maximumOpenFiles : Nat := 64
abbrev maximumOpenFilesPerOwner : Nat := 16
abbrev maximumDirectoryEntries : Nat := 64
abbrev maximumDirectoryEvents : Nat := 64
abbrev invalidDataBlock : Nat := 0xFFFF
abbrev invalidNode : Nat := 0xFFFF
abbrev invalidDentry : Nat := 0xFFFF
abbrev invalidCacheEntry : Nat := 0xFFFF

/-! ### What the filesystem calls out to -/

/-- The bytes of a page, by offset. -/
abbrev Page := Nat → UInt8

/-- The allocator of cache pages. Its answers depend on the world outside, which is seen here
as the number of earlier calls; an offered page is only taken while nobody holds it. -/
structure FilePageAllocator where
  offers : Nat → Option Nat
  releases : Nat → Bool

inductive PseudoStream where
  | console
  deriving DecidableEq, Repr

/-- The callbacks of a pseudo node. The first argument of a callback stands for the world
outside: the number of callbacks made so far. The others are the context, the node and what
the source passes. The address tells two tables of callbacks apart. -/
structure PseudoOperations where
  address : Nat := 0
  read : Option (Nat → Nat → Nat → Nat → Nat → Except Error Bytes) := none
  write : Option (Nat → Nat → Nat → Nat → Bytes → Except Error Nat) := none
  poll : Option (Nat → Nat → Nat → BitVec 16 → Except Error (BitVec 16)) := none
  ioctl : Option (Nat → Nat → Nat → Nat → Nat → Except Error Nat) := none
  stream : Option PseudoStream := none

/-! ### Table entries -/

inductive Kind where
  | file | directory | pseudo | symlink
  deriving DecidableEq, Repr

inductive MountKind where
  | ramfs | tmpfs | bootFat | procfs | devfs | netfs | zigosPersist
  deriving DecidableEq, Repr

structure Ownership where
  uid : Nat := 0
  gid : Nat := 0
  deriving DecidableEq, Repr

structure Timestamps where
  createdTick : Nat
  modifiedTick : Nat
  changedTick : Nat
  accessedTick : Nat
  deriving DecidableEq, Repr

structure Access where
  read : Bool := false
  write : Bool := false
  execute : Bool := false

structure Node where
  used : Bool := false
  generation : Nat := 0
  kind : Kind := .file
  linkCount : Nat := 0
  mappingReferences : Nat := 0
  size : Nat := 0
  fileBlocks : Nat → Nat := fun _ => invalidDataBlock
  symlinkData : Bytes := []
  mode : BitVec 16 := 0o644
  readonly : Bool := false
  mountId : Nat := 0
  uid : Nat := 0
  gid : Nat := 0
  createdTick : Nat := 0
  modifiedTick : Nat := 0
  changedTick : Nat := 0
  accessedTick : Nat := 0
  pseudoOperations : Option PseudoOperations := none
  pseudoContext : Nat := 0

structure DataBlock where
  used : Bool := false
  ownerNode : Nat := invalidNode
  ownerSlot : Nat := 0
  data : Page := fun _ => 0

structure FilePageCacheEntry where
  used : Bool := false
  node : Nat := invalidNode
  nodeGeneration : Nat := 0
  slot : Nat := 0
  dirty : Bool := false
  mappingReferences : Nat := 0
  lastUsed : Nat := 0
  address : Nat := 0
  deriving DecidableEq, Repr

/-- A directory entry; the name is the slice of its fixed array. -/
structure Dentry where
  used : Bool := false
  generation : Nat := 0
  parent : Nat := invalidNode
  node : Nat := invalidNode
  name : Bytes := []
  deriving DecidableEq, Repr

structure DentryCacheEntry where
  used : Bool := false
  stale : Bool := false
  generation : Nat := 0
  parent : Nat := invalidNode
  dentry : Nat := invalidDentry
  dentryGeneration : Nat := 0
  references : Nat := 0
  lastUsed : Nat := 0
  name : Bytes := []
  deriving DecidableEq, Repr

structure DentryReference where
  cacheEntry : Nat := invalidCacheEntry
  cacheGeneration : Nat := 0
  dentry : Nat
  deriving DecidableEq, Repr

structure Mount where
  used : Bool := false
  id : Nat := 0
  parentId : Nat := 0
  mountpointNode : Nat := invalidNode
  rootNode : Nat := invalidNode
  kind : MountKind := .ramfs
  readonly : Bool := false
  capacityBlockSize : Nat := 0
  capacityTotalBlocks : Nat := 0
  capacityFreeBlocks : Nat := 0
  capacityConfigured : Bool := false
  source : Bytes := []
  deriving DecidableEq, Repr

structure OpenFlags where
  read : Bool := false
  write : Bool := false
  create : Bool := false
  truncate : Bool := false
  append : Bool := false
  deriving DecidableEq, Repr

structure AllocationFlags where
  keepSize : Bool := false
  punchHole : Bool := false
  deriving DecidableEq, Repr

structure OpenFile where
  used : Bool := false
  generation : Nat := 0
  node : Nat := invalidNode
  nodeGeneration : Nat := 0
  ownerPid : Nat := 0
  offset : Nat := 0
  readable : Bool := false
  writable : Bool := false
  append : Bool := false
  deriving DecidableEq, Repr

/-- What happened to a name of a directory. -/
inductive DirectoryEvent where
  | created | removed | renameFrom | renameTo | overflow
  deriving DecidableEq, Repr

structure DirectoryChange where
  sequence : Nat := 0
  directory : Nat := invalidNode
  directoryGeneration : Nat := 0
  node : Nat := invalidNode
  generation : Nat := 0
  kind : Kind := .file
  flags : Option DirectoryEvent := none
  name : Bytes := []
  deriving DecidableEq, Repr

/-! ### The state -/

structure Vfs where
  nodes : Nat → Node := fun _ => {}
  dataBlocks : Nat → DataBlock := fun _ => {}
  filePageCache : Nat → FilePageCacheEntry := fun _ => {}
  filePageCacheAllocator : Option FilePageAllocator := none
  filePageCacheClock : Nat := 0
  dirtyFilePageBitmap : Nat → BitVec 8 := fun _ => 0
  dentries : Nat → Dentry := fun _ => {}
  directoryEvents : Nat → DirectoryChange := fun _ => {}
  directoryEventSequence : Nat := 0
  dentryCache : Nat → DentryCacheEntry := fun _ => {}
  dentryCacheClock : Nat := 0
  mounts : Nat → Mount := fun _ => {}
  openFiles : Nat → OpenFile := fun _ => {}
  -- The world outside: page memory, the pages handed out, and the calls made so far.
  pageMemory : Nat → Page := fun _ _ => 0
  heldPages : Nat → Bool := fun _ => false
  allocatorCalls : Nat := 0
  pseudoCalls : Nat := 0

/-- A call on the filesystem. -/
abbrev VfsCall := Call Error Vfs

def nextGeneration (current : Nat) : Nat := nextNonzero 16 current

def makeHandle (index generation : Nat) : Nat := generation * 2 ^ 16 + index

/-- The root directory of a fresh filesystem. -/
def rootNode : Node :=
  { used := true, generation := 1, kind := .directory, linkCount := 1, mode := 0o755, mountId := 1 }

/-- The mount of a fresh filesystem; its source is `ramfs`. -/
def rootMount : Mount :=
  { used := true, id := 1, mountpointNode := 0, rootNode := 0, source := [114, 97, 109, 102, 115] }

def Vfs.initialized : Vfs :=
  { nodes := update (fun _ => {}) 0 rootNode
    mounts := update (fun _ => {}) 0 rootMount }

namespace Vfs

def modifyNode (vfs : Vfs) (index : Nat) (step : Node → Node) : Vfs :=
  { vfs with nodes := update vfs.nodes index (step (vfs.nodes index)) }

def modifyBlock (vfs : Vfs) (index : Nat) (step : DataBlock → DataBlock) : Vfs :=
  { vfs with dataBlocks := update vfs.dataBlocks index (step (vfs.dataBlocks index)) }

def modifyPage (vfs : Vfs) (index : Nat) (step : FilePageCacheEntry → FilePageCacheEntry) : Vfs :=
  { vfs with
    filePageCache := update vfs.filePageCache index (step (vfs.filePageCache index)) }

def modifyDentry (vfs : Vfs) (index : Nat) (step : Dentry → Dentry) : Vfs :=
  { vfs with dentries := update vfs.dentries index (step (vfs.dentries index)) }

def modifyCacheSlot (vfs : Vfs) (index : Nat) (step : DentryCacheEntry → DentryCacheEntry) : Vfs :=
  { vfs with dentryCache := update vfs.dentryCache index (step (vfs.dentryCache index)) }

def modifyMount (vfs : Vfs) (index : Nat) (step : Mount → Mount) : Vfs :=
  { vfs with mounts := update vfs.mounts index (step (vfs.mounts index)) }

def modifyOpen (vfs : Vfs) (index : Nat) (step : OpenFile → OpenFile) : Vfs :=
  { vfs with openFiles := update vfs.openFiles index (step (vfs.openFiles index)) }

def writePage (vfs : Vfs) (address : Nat) (page : Page) : Vfs :=
  { vfs with pageMemory := update vfs.pageMemory address page }

/-! ### Mounts -/

/-- The slot of the mount that covers this directory. -/
def mountAtNode (vfs : Vfs) (node : Nat) : Option Nat :=
  firstIndex maximumMounts fun index =>
    (vfs.mounts index).used && (vfs.mounts index).id != 1 &&
      (vfs.mounts index).mountpointNode == node

/-- The slot of the mount whose root this directory is. -/
def mountForRoot (vfs : Vfs) (node : Nat) : Option Nat :=
  firstIndex maximumMounts fun index =>
    (vfs.mounts index).used && (vfs.mounts index).id != 1 && (vfs.mounts index).rootNode == node

def followMount (vfs : Vfs) (node : Nat) : Nat :=
  match vfs.mountAtNode node with
  | some index => (vfs.mounts index).rootNode
  | none => node

def mountReadonly (vfs : Vfs) (mountId : Nat) : Bool :=
  mountId != 0 && decide (mountId - 1 < maximumMounts) && (vfs.mounts (mountId - 1)).used &&
    (vfs.mounts (mountId - 1)).readonly

/-- The slot of a mount identifier, as the calls that take one look it up. -/
def mountSlot (vfs : Vfs) (mountId : Nat) : Except Error Nat :=
  if mountId = 0 then .error .notFound
  else if mountId - 1 ≥ maximumMounts ∨ (vfs.mounts (mountId - 1)).used = false then
    .error .notFound
  else .ok (mountId - 1)

def nodeReadonly (vfs : Vfs) (node : Nat) : Bool :=
  if (vfs.nodes node).kind = .pseudo then
    match (vfs.nodes node).pseudoOperations with
    | none => true
    | some operations => operations.write.isNone && operations.stream.isNone
  else (vfs.nodes node).readonly || vfs.mountReadonly (vfs.nodes node).mountId

/-- The node is in the table and in use. -/
def nodeUsed (vfs : Vfs) (node : Nat) : Bool := decide (node < maximumNodes) && (vfs.nodes node).used

/-- The node is in use and has a name. -/
def nodeLinked (vfs : Vfs) (node : Nat) : Bool :=
  vfs.nodeUsed node && (vfs.nodes node).linkCount != 0

/-! ### Directory entries -/

/-- The lowest entry that names the node. -/
def canonicalDentry (vfs : Vfs) (node : Nat) : Option Nat :=
  firstIndex maximumDentries fun index =>
    (vfs.dentries index).used && (vfs.dentries index).node == node

def hasChildren (vfs : Vfs) (node : Nat) : Bool :=
  (firstIndex maximumDentries fun index =>
    (vfs.dentries index).used && (vfs.dentries index).parent == node).isSome

def freeDentry (vfs : Vfs) : Except Error Nat :=
  match firstIndex maximumDentries fun index => !(vfs.dentries index).used with
  | some index => .ok index
  | none => .error .noSpace

/-- The first free node; node zero is the root and never free. -/
def freeNode (vfs : Vfs) : Except Error Nat :=
  match firstIndex maximumNodes fun index => index != 0 && !(vfs.nodes index).used with
  | some index => .ok index
  | none => .error .noSpace

/-- The directory above a directory; above the root of a mount it is the one that holds the
mount point. -/
def directoryParent (vfs : Vfs) (node : Nat) : Except Error Nat :=
  if node = 0 then .ok 0
  else if vfs.nodeLinked node = false ∨ (vfs.nodes node).kind ≠ .directory then
    .error .notDirectory
  else
    let named := match vfs.mountForRoot node with
      | some index => (vfs.mounts index).mountpointNode
      | none => node
    match vfs.canonicalDentry named with
    | some entry => .ok (vfs.dentries entry).parent
    | none => .error .notFound

/-- Climb from the candidate for at most the given number of steps. A failed climb counts as a
descendant. -/
def climbsTo (vfs : Vfs) (ancestor : Nat) : Nat → Nat → Bool
  | 0, _ => true
  | steps + 1, current =>
    if current = ancestor then true
    else if current = 0 then false
    else match vfs.directoryParent current with
      | .ok parent => vfs.climbsTo ancestor steps parent
      | .error _ => true

def isDescendant (vfs : Vfs) (candidate ancestor : Nat) : Bool :=
  vfs.climbsTo ancestor maximumNodes candidate

/-! ### Open files -/

/-- The open handle holds this very node, not an earlier one of its slot. -/
def opens (vfs : Vfs) (index node : Nat) : Bool :=
  (vfs.openFiles index).used && (vfs.openFiles index).node == node &&
    (vfs.openFiles index).nodeGeneration == (vfs.nodes node).generation

def hasOpenReferences (vfs : Vfs) (node : Nat) : Bool :=
  (vfs.nodes node).mappingReferences != 0 ||
    (firstIndex maximumOpenFiles fun index => vfs.opens index node).isSome

def resolveOpen (vfs : Vfs) (ownerPid handle : Nat) : Except Error Nat :=
  let index := handle % 2 ^ 16
  let generation := handle / 2 ^ 16
  let openFile := vfs.openFiles index
  if index ≥ maximumOpenFiles then .error .invalidHandle
  else if openFile.used = false ∨ openFile.generation ≠ generation ∨ openFile.ownerPid ≠ ownerPid
  then .error .invalidHandle
  else if vfs.nodeUsed openFile.node = false ∨
      (vfs.nodes openFile.node).generation ≠ openFile.nodeGeneration then .error .invalidHandle
  else .ok index

end Vfs

end ZigOs.RuntimeVfs
