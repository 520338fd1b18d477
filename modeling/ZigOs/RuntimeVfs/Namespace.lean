/-
This file models the calls that change the name space: creation of nodes of all
kinds, hard links, removal, renaming, metadata, and the mounts with the
migration of what a mount point held. A name that goes away takes one link from
its node, and a node without links goes away with its last open handle or
mapped page.
-/

import ZigOs.Lib.Sorting
import ZigOs.RuntimeVfs.Data

namespace ZigOs.RuntimeVfs

open Scan Call

namespace Vfs

/-! ### Directory events and entries -/

def recordDirectoryChange (vfs : Vfs) (directory node : Nat) (flags : DirectoryEvent)
    (name : Bytes) : Vfs :=
  let sequence := nextNonzero 64 vfs.directoryEventSequence
  { vfs with
    directoryEventSequence := sequence
    directoryEvents := Function.update vfs.directoryEvents ((sequence - 1) % maximumDirectoryEvents)
      { sequence := sequence
        directory := directory
        directoryGeneration := (vfs.nodes directory).generation
        node := node
        generation := (vfs.nodes node).generation
        kind := (vfs.nodes node).kind
        flags := some flags
        name := name } }

def initializeDentry (vfs : Vfs) (index parent node : Nat) (name : Bytes) : Vfs :=
  vfs.modifyDentry index fun entry =>
    { used := true
      generation := nextGeneration entry.generation
      parent := parent
      node := node
      name := name }

def setChangedTick (vfs : Vfs) (node tick : Nat) : Vfs :=
  vfs.modifyNode node fun entry => { entry with changedTick := tick }

def releaseDentry (vfs : Vfs) (index : Nat) : Vfs :=
  (vfs.invalidateCachedDentry index).modifyDentry index fun entry =>
    { generation := entry.generation }

/-- Take away a name, and the node with it when nothing refers to it any more. -/
def detachOrReclaimEntry (vfs : Vfs) (index : Nat) : Vfs :=
  let node := (vfs.dentries index).node
  let detached := (vfs.releaseDentry index).modifyNode node fun entry =>
    { entry with linkCount := entry.linkCount - 1 }
  if (detached.nodes node).linkCount = 0 ∧ detached.hasOpenReferences node = false
  then detached.reclaimNode node else detached

def renameEntry (vfs : Vfs) (index parent : Nat) (name : Bytes) (tick : Nat) : Vfs :=
  ((vfs.invalidateCachedDentry index).modifyDentry index fun entry =>
    { entry with parent := parent, name := name }).setChangedTick (vfs.dentries index).node tick

/-! ### Creation -/

def validatePseudoMountRoot (vfs : Vfs) (node : Nat) : Except Error Unit :=
  match vfs.mountForRoot node with
  | none => .error .invalidPath
  | some index =>
    if (vfs.mounts index).readonly = false then .error .unsupportedOperation
    else match (vfs.mounts index).kind with
      | .procfs | .devfs | .netfs => .ok ()
      | _ => .error .unsupportedOperation

/-- What a new node is made of. -/
structure NewNode where
  kind : Kind
  mode : BitVec 16
  readonly : Bool := false
  owner : Ownership := {}
  tick : Nat

def NewNode.entry (new : NewNode) (generation mountId : Nat) : Node :=
  { used := true
    generation := generation
    kind := new.kind
    linkCount := 1
    mode := new.mode
    readonly := new.readonly
    mountId := mountId
    uid := new.owner.uid
    gid := new.owner.gid
    createdTick := new.tick
    modifiedTick := new.tick
    changedTick := new.tick
    accessedTick := new.tick }

/-- Install a new node under its name. -/
def installNode (vfs : Vfs) (node entry parent : Nat) (name : Bytes) (new : NewNode) : Vfs :=
  let placed := vfs.modifyNode node fun old =>
    new.entry (nextGeneration old.generation) (vfs.nodes parent).mountId
  ((placed.initializeDentry entry parent node name).touch parent new.tick).recordDirectoryChange
    parent node .created name

def createNodeInternal (parent : Nat) (name : Bytes) (new : NewNode)
    (privilegedPseudoPublication : Bool) : VfsCall Nat := do
  let vfs ← state
  let _ ← lift (vfs.validateDirectory parent)
  failWhen (validStoredMode new.mode = false) .invalidPath
  let existing ← findDentry parent name
  failWhen existing.isSome .alreadyExists
  let vfs ← state
  failWhen (((vfs.nodes parent).readonly ∨ vfs.mountReadonly (vfs.nodes parent).mountId) ∧
    privilegedPseudoPublication = false) .readOnly
  lift (if privilegedPseudoPublication then vfs.validatePseudoMountRoot parent else .ok ())
  failWhen (privilegedPseudoPublication ∧ (new.kind ≠ .pseudo ∨ new.readonly)) .unsupportedOperation
  let node ← lift vfs.freeNode
  let entry ← lift vfs.freeDentry
  change fun vfs => vfs.installNode node entry parent name new
  return node

def createNode (parent : Nat) (name : Bytes) (new : NewNode) : VfsCall Nat :=
  createNodeInternal parent name new false

def mkdirOwned (cwd : Nat) (path : Bytes) (mode : BitVec 16) (owner : Ownership) (tick : Nat) :
    VfsCall Nat := do
  let (parent, name) ← parentAndNameAs cwd path owner
  createNode parent name { kind := .directory, mode, owner, tick }

def mkdir (cwd : Nat) (path : Bytes) (mode : BitVec 16) (tick : Nat) : VfsCall Nat :=
  mkdirOwned cwd path mode {} tick

def createOwned (cwd : Nat) (path : Bytes) (mode : BitVec 16) (owner : Ownership) (tick : Nat) :
    VfsCall Nat := do
  let (parent, name) ← parentAndNameAs cwd path owner
  createNode parent name { kind := .file, mode, owner, tick }

def create (cwd : Nat) (path : Bytes) (mode : BitVec 16) (tick : Nat) : VfsCall Nat :=
  createOwned cwd path mode {} tick

def symlinkOwned (cwd : Nat) (target path : Bytes) (owner : Ownership) (tick : Nat) :
    VfsCall Nat := do
  failWhen (target = []) .invalidPath
  lift (validatePathBounds target)
  lift (validatePathBounds path)
  let (parent, name) ← parentAndNameAs cwd path owner
  let node ← createNode parent name { kind := .symlink, mode := 0o777, owner, tick }
  change fun vfs => vfs.modifyNode node fun entry =>
    { entry with symlinkData := target, size := target.length }
  return node

/-- Attach callbacks to a node. -/
def setPseudo (vfs : Vfs) (node : Nat) (operations : Option PseudoOperations) (context : Nat) :
    Vfs :=
  vfs.modifyNode node fun entry =>
    { entry with pseudoOperations := operations, pseudoContext := context }

def createPseudoWithOperations (cwd : Nat) (path : Bytes) (mode : BitVec 16) (tick : Nat)
    (operations : Option PseudoOperations) (context : Nat) : VfsCall Nat := do
  let (parent, name) ← parentAndNameAs cwd path {}
  let node ← createNode parent name { kind := .pseudo, mode, tick }
  change fun vfs => vfs.setPseudo node operations context
  return node

/-- Publish a pseudo node into the root of a read-only pseudo filesystem. -/
def publishPseudoRegistration (mountRoot : Nat) (name : Bytes) (mode : BitVec 16) (tick : Nat)
    (operations : PseudoOperations) (context : Nat) : VfsCall Nat := do
  let vfs ← state
  lift (vfs.validatePseudoMountRoot mountRoot)
  lift (validateSingleComponent name)
  let node ← createNodeInternal mountRoot name { kind := .pseudo, mode, tick } true
  change fun vfs => vfs.setPseudo node (some operations) context
  return node

def withdrawPseudoRegistration (mountRoot : Nat) (name : Bytes) : VfsCall Unit := do
  let vfs ← state
  lift (vfs.validatePseudoMountRoot mountRoot)
  lift (validateSingleComponent name)
  let found ← findDentry mountRoot name
  match found with
  | none => fail .notFound
  | some entry => do
    let vfs ← state
    let node := (vfs.dentries entry).node
    failWhen ((vfs.nodes node).kind ≠ .pseudo ∨
      (vfs.nodes node).mountId ≠ (vfs.nodes mountRoot).mountId) .unsupportedOperation
    failWhen (vfs.hasOpenReferences node) .busy
    change fun vfs =>
      (vfs.recordDirectoryChange mountRoot node .removed
        (vfs.dentries entry).name).detachOrReclaimEntry entry

def createBackedFileWithOperations (cwd : Nat) (path : Bytes) (size : Nat) (mode : BitVec 16)
    (tick : Nat) (operations : PseudoOperations) (context : Nat) : VfsCall Nat := do
  failWhen (operations.read.isNone ∨ operations.write.isSome ∨ operations.stream.isSome)
    .unsupportedOperation
  let (parent, name) ← parentAndNameAs cwd path {}
  let node ← createNode parent name { kind := .file, mode, readonly := true, tick }
  change fun vfs => (vfs.setSize node size).setPseudo node (some operations) context
  return node

/-- The node a path names, made by the given call when nothing has that name. -/
def resolveOr (cwd : Nat) (path : Bytes) (credentials : Ownership) (make : VfsCall Nat) :
    VfsCall Nat := do
  let found ← Call.attempt (resolveAs cwd path credentials)
  match found with
  | .ok node => return node
  | .error .notFound => make
  | .error failure => fail failure

def ensureDirectory (cwd : Nat) (path : Bytes) (mode : BitVec 16) (tick : Nat) : VfsCall Nat :=
  resolveOr cwd path {} (mkdir cwd path mode tick)

/-! ### Whole files -/

/-- The node accepts new contents as a whole. -/
def requireReplaceableFile (vfs : Vfs) (node : Nat) : Except Error Unit :=
  let entry := vfs.nodes node
  if entry.kind = .directory then .error .isDirectory
  else if entry.kind ≠ .file then .error .unsupportedOperation
  else if entry.readonly ∨ vfs.mountReadonly entry.mountId then .error .readOnly
  else .ok ()

def putFile (cwd : Nat) (path bytes : Bytes) (mode : BitVec 16) (readonly : Bool) (tick : Nat) :
    VfsCall Nat := do
  failWhen (bytes.length > maximumFileSize) .fileTooLarge
  failWhen (validStoredMode mode = false) .invalidPath
  let node ← resolveOr cwd path {} (create cwd path mode tick)
  let vfs ← state
  lift (vfs.requireReplaceableFile node)
  let _ ← writeNodeLocked node 0 bytes true tick
  change fun vfs => vfs.modifyNode node fun entry =>
    { entry with mode := mode, readonly := readonly, modifiedTick := tick }
  return node

/-- The slots a bitmap selects, in order. -/
def bitmapSlots (bitmap : BitVec 8) : List Nat :=
  (List.range fileBlocksPerNode).filter fun slot => bitmap &&& slotBit slot != 0

/-- Give a slot a block and fill it with the next block of the data. -/
def restoreSlot (node : Nat) (progress : Vfs × Bytes) (slot : Nat) : Vfs × Bytes :=
  ((allocateFileBlockLocked node progress.1 slot).modifyFileBlock node slot fun page index =>
      if index < fileBlockSize then (progress.2[index]?).getD (page index) else page index,
    progress.2.drop fileBlockSize)

def restoreBlocks (vfs : Vfs) (node : Nat) (bitmap : BitVec 8) (data : Bytes) : Vfs :=
  ((bitmapSlots bitmap).foldl (restoreSlot node) (vfs.releaseAllFileBlocks node, data)).1

def restoreSparseFile (cwd : Nat) (path : Bytes) (mode : BitVec 16) (size : Nat)
    (allocationBitmap : BitVec 8) (allocatedData : Bytes) (tick : Nat) : VfsCall Nat := do
  failWhen (size > maximumFileSize) .fileTooLarge
  failWhen (validStoredMode mode = false) .invalidPath
  let allocatedCount := bitCount allocationBitmap
  failWhen (allocatedData.length ≠ allocatedCount * fileBlockSize) .invalidPath
  let node ← resolveOr cwd path {} (create cwd path mode tick)
  let vfs ← state
  lift (vfs.requireReplaceableFile node)
  failWhen (allocatedCount > vfs.freeDataBlockCount + vfs.nodeAllocatedBlockCount node) .noSpace
  change fun vfs =>
    let restored := vfs.restoreBlocks node allocationBitmap allocatedData
    ((restored.modifyNode node fun entry =>
      { entry with size := size, mode := mode, modifiedTick := tick, changedTick := tick
        }).invalidateFilePageCacheNode node).discardDirtyFilePagesLocked node (BitVec.allOnes 8)
  return node

/-! ### Links, removal and renaming -/

def linkAs (cwd : Nat) (oldPath newPath : Bytes) (credentials : Ownership) (tick : Nat) :
    VfsCall Nat := do
  lift (validatePathBounds oldPath)
  lift (validatePathBounds newPath)
  let node ← resolveNoFollowAs cwd oldPath credentials
  let vfs ← state
  failWhen ((vfs.nodes node).kind = .directory) .isDirectory
  failWhen ((vfs.nodes node).kind ≠ .file) .unsupportedOperation
  let (parent, name) ← parentAndNameAs cwd newPath credentials
  let vfs ← state
  failWhen ((vfs.nodes node).mountId ≠ (vfs.nodes parent).mountId) .crossMount
  failWhen ((vfs.nodes node).readonly ∨ vfs.mountReadonly (vfs.nodes node).mountId ∨
    (vfs.nodes parent).readonly) .readOnly
  let existing ← findDentry parent name
  failWhen existing.isSome .alreadyExists
  let vfs ← state
  failWhen ((vfs.nodes node).linkCount = 0xFFFF) .noSpace
  let entry ← lift vfs.freeDentry
  change fun vfs =>
    (((vfs.initializeDentry entry parent node name).modifyNode node fun old =>
      { old with linkCount := old.linkCount + 1, changedTick := tick }).touch parent
        tick).recordDirectoryChange parent node .created name
  return node

/-- Take away a name and tell its directory. -/
def dropEntry (vfs : Vfs) (index tick : Nat) : Vfs :=
  let entry := vfs.dentries index
  ((vfs.touch entry.parent tick).recordDirectoryChange entry.parent entry.node .removed
    entry.name).detachOrReclaimEntry index

def unlinkEntry (index tick : Nat) : VfsCall Unit := do
  let vfs ← state
  let node := (vfs.dentries index).node
  failWhen (index ≥ maximumDentries ∨ (vfs.dentries index).used = false) .notFound
  failWhen ((vfs.nodes node).readonly ∨ vfs.mountReadonly (vfs.nodes node).mountId) .readOnly
  failWhen (vfs.mountAtNode node).isSome .busy
  change fun vfs => (vfs.setChangedTick node tick).dropEntry index tick

def removeEntry (index tick : Nat) : VfsCall Unit := do
  let vfs ← state
  let node := (vfs.dentries index).node
  failWhen (index ≥ maximumDentries ∨ (vfs.dentries index).used = false) .notFound
  failWhen ((vfs.nodes node).readonly ∨ vfs.mountReadonly (vfs.nodes node).mountId) .readOnly
  failWhen (vfs.mountAtNode node).isSome .busy
  failWhen (vfs.hasOpenReferences node) .busy
  change fun vfs => vfs.dropEntry index tick

def unlinkAs (cwd : Nat) (path : Bytes) (credentials : Ownership) (tick : Nat) : VfsCall Unit := do
  let entry ← entryForPathAs cwd path credentials
  let vfs ← state
  let node := (vfs.dentries entry).node
  failWhen ((vfs.nodes node).kind = .directory) .isDirectory
  lift (vfs.requireStickyRemoval (vfs.dentries entry).parent node credentials)
  unlinkEntry entry tick

def rmdirAs (cwd : Nat) (path : Bytes) (credentials : Ownership) (tick : Nat) : VfsCall Unit := do
  let entry ← entryForPathAs cwd path credentials
  let vfs ← state
  let node := (vfs.dentries entry).node
  failWhen (node = 0 ∨ (vfs.nodes node).kind ≠ .directory) .notDirectory
  failWhen (vfs.hasChildren node) .directoryNotEmpty
  lift (vfs.requireStickyRemoval (vfs.dentries entry).parent node credentials)
  removeEntry entry tick

def validateRenameReplacement (vfs : Vfs) (source target : Nat) : Except Error Unit :=
  let sourceNode := vfs.nodes source
  let targetNode := vfs.nodes target
  if targetNode.readonly ∨ vfs.mountReadonly targetNode.mountId then .error .readOnly
  else if (vfs.mountAtNode target).isSome then .error .busy
  else if sourceNode.kind = .pseudo ∨ targetNode.kind = .pseudo then .error .unsupportedOperation
  else if sourceNode.kind = .directory ∧ targetNode.kind ≠ .directory then .error .notDirectory
  else if sourceNode.kind ≠ .directory ∧ targetNode.kind = .directory then .error .isDirectory
  else if targetNode.kind = .directory ∧ vfs.hasChildren target then .error .directoryNotEmpty
  else if targetNode.kind = .directory ∧ vfs.hasOpenReferences target then .error .busy
  else .ok ()

/-- Take away the entry that a rename replaces. -/
def replaceEntry (vfs : Vfs) (index parent tick : Nat) : Vfs :=
  let target := (vfs.dentries index).node
  ((vfs.setChangedTick target tick).recordDirectoryChange parent target .removed
    (vfs.dentries index).name).detachOrReclaimEntry index

/-- Check that the sticky bits allow a replacement and that the entries can be exchanged. -/
def requireReplacement (vfs : Vfs) (index parent source : Nat) (credentials : Ownership) :
    Except Error Unit :=
  let target := (vfs.dentries index).node
  match vfs.requireStickyRemoval parent target credentials with
  | .error failure => .error failure
  | .ok _ => vfs.validateRenameReplacement source target

/-- Move the entry to its new directory and name, and tell both directories. -/
def moveEntry (vfs : Vfs) (index parent : Nat) (name : Bytes) (tick : Nat) : Vfs :=
  let entry := vfs.dentries index
  let moved := ((vfs.recordDirectoryChange entry.parent entry.node .renameFrom
    entry.name).renameEntry index parent name tick).recordDirectoryChange parent entry.node
      .renameTo name
  let left := moved.touch entry.parent tick
  if parent = entry.parent then left else left.touch parent tick

def renameAs (cwd : Nat) (oldPath newPath : Bytes) (credentials : Ownership) (tick : Nat) :
    VfsCall Unit := do
  lift (validatePathBounds oldPath)
  lift (validatePathBounds newPath)
  let sourceEntry ← entryForPathAs cwd oldPath credentials
  let vfs ← state
  let source := (vfs.dentries sourceEntry).node
  let sourceParent := (vfs.dentries sourceEntry).parent
  failWhen (vfs.mountAtNode source).isSome .busy
  let (parent, name) ← parentAndNameAs cwd newPath credentials
  let vfs ← state
  failWhen ((vfs.nodes source).mountId ≠ (vfs.nodes parent).mountId) .crossMount
  failWhen ((vfs.nodes source).readonly ∨ vfs.mountReadonly (vfs.nodes source).mountId ∨
    (vfs.nodes parent).readonly) .readOnly
  failWhen ((vfs.nodes source).kind = .directory ∧ vfs.isDescendant parent source) .cycle
  let target ← findDentry parent name
  let vfs ← state
  match target with
  | some targetEntry =>
    -- Renaming an entry to itself, or to another name of its own node, does nothing.
    if targetEntry = sourceEntry ∨ (vfs.dentries targetEntry).node = source then return ()
    else do
      lift (vfs.requireStickyRemoval sourceParent source credentials)
      lift (vfs.requireReplacement targetEntry parent source credentials)
      change fun vfs =>
        (vfs.replaceEntry targetEntry parent tick).moveEntry sourceEntry parent name tick
  | none => do
    lift (vfs.requireStickyRemoval sourceParent source credentials)
    change fun vfs => vfs.moveEntry sourceEntry parent name tick

/-! ### Metadata -/

def chmodAs (cwd : Nat) (path : Bytes) (mode : BitVec 16) (credentials : Ownership) (tick : Nat) :
    VfsCall Unit := do
  let node ← resolveAs cwd path credentials
  let vfs ← state
  failWhen (credentials.uid ≠ 0 ∧ credentials.uid ≠ (vfs.nodes node).uid) .permissionDenied
  failWhen ((vfs.nodes node).readonly ∨ vfs.mountReadonly (vfs.nodes node).mountId) .readOnly
  failWhen (validStoredMode mode = false) .invalidPath
  change fun vfs => vfs.modifyNode node fun entry =>
    { entry with mode := mode, changedTick := tick }

def restoreOwnership (cwd : Nat) (path : Bytes) (restored : Ownership) : VfsCall Unit := do
  let node ← resolveNoFollow cwd path
  change fun vfs => vfs.modifyNode node fun entry =>
    { entry with uid := restored.uid, gid := restored.gid }

def restoreTimestamps (cwd : Nat) (path : Bytes) (restored : Timestamps) : VfsCall Unit := do
  let node ← resolveNoFollow cwd path
  change fun vfs => vfs.modifyNode node fun entry =>
    { entry with
      createdTick := restored.createdTick
      modifiedTick := restored.modifiedTick
      changedTick := restored.changedTick
      accessedTick := restored.accessedTick }

/-! ### Mounts -/

/-- Assign a node and everything below it to a mount. The recursion of the source ends because
directories form a tree; here it is bounded by the number of entries. -/
def assignNodeMountRecursive (mountId : Nat) : Nat → Vfs → Nat → Vfs
  | 0, vfs, _ => vfs
  | depth + 1, vfs, node =>
    ((List.range maximumDentries).filter fun index =>
      (vfs.dentries index).used && (vfs.dentries index).parent == node).foldl (fun assigned index =>
          assignNodeMountRecursive mountId depth assigned (vfs.dentries index).node)
        (vfs.modifyNode node fun entry => { entry with mountId := mountId })

/-- Move one entry of the mount point below the root of the mount. -/
def migrateEntry (mountpoint root mountId : Nat) (vfs : Vfs) (index : Nat) : Vfs :=
  if (vfs.dentries index).used = false ∨ (vfs.dentries index).parent ≠ mountpoint then vfs
  else assignNodeMountRecursive mountId maximumDentries
    ((vfs.invalidateCachedDentry index).modifyDentry index fun entry =>
      { entry with parent := root }) (vfs.dentries index).node

def migrateMountChildren (vfs : Vfs) (mountpoint root mountId : Nat) : Vfs :=
  (List.range maximumDentries).foldl (migrateEntry mountpoint root mountId) vfs

def discardIfOnMount (mountId : Nat) (vfs : Vfs) (node : Nat) : Vfs :=
  let entry := vfs.nodes node
  if entry.used = false ∨ entry.kind ≠ .file ∨ entry.mountId ≠ mountId then vfs
  else vfs.discardDirtyFilePagesLocked node (BitVec.allOnes 8)

def discardDirtyMountPages (vfs : Vfs) (mountId : Nat) : Vfs :=
  (List.range maximumNodes).foldl (discardIfOnMount mountId) vfs

/-- The number of dirty pages on a mount. -/
def dirtyMountPages (vfs : Vfs) (mountId : Nat) : Nat :=
  (((List.range maximumNodes).filter fun node =>
    (vfs.nodes node).used && (vfs.nodes node).kind == .file &&
      (vfs.nodes node).mountId == mountId).map fun node =>
        bitCount (vfs.dirtyFilePageBitmap node)).sum

def mountRootEntry (generation mountId : Nat) (mountpoint : Node) : Node :=
  { used := true
    generation := generation
    kind := .directory
    linkCount := 1
    mode := mountpoint.mode
    mountId := mountId
    createdTick := mountpoint.createdTick
    modifiedTick := mountpoint.modifiedTick
    changedTick := mountpoint.changedTick
    accessedTick := mountpoint.accessedTick }

/-- The first free slot after the root mount's. -/
def freeMount (vfs : Vfs) : Except Error Nat :=
  match firstIndex maximumMounts fun index => index != 0 && !(vfs.mounts index).used with
  | some index => .ok index
  | none => .error .noSpace

/-- Install a mount with its new root and move what the mount point held below that root. -/
def installMount (vfs : Vfs) (index root mountpoint : Nat) (kind : MountKind) (readonly : Bool)
    (source : Bytes) : Vfs :=
  let placed := vfs.modifyNode root fun old =>
    mountRootEntry (nextGeneration old.generation) (index + 1) (vfs.nodes mountpoint)
  let mounted := placed.modifyMount index fun _ =>
    { used := true
      id := index + 1
      parentId := (vfs.nodes mountpoint).mountId
      mountpointNode := mountpoint
      rootNode := root
      kind := kind
      readonly := readonly
      source := source }
  let migrated := mounted.migrateMountChildren mountpoint root (index + 1)
  if readonly then migrated.discardDirtyMountPages (index + 1) else migrated

/-- A mount other than the root's lies below the directory. -/
def mountBelow (vfs : Vfs) (node : Nat) : Bool :=
  (firstIndex maximumMounts fun index =>
    (vfs.mounts index).used && (vfs.mounts index).id != 1 &&
      vfs.isDescendant (vfs.mounts index).mountpointNode node).isSome

def mount (cwd : Nat) (path : Bytes) (kind : MountKind) (readonly : Bool) (source : Bytes) :
    VfsCall Nat := do
  failWhen (source.length > 32) .nameTooLong
  let entry ← entryForPathAs cwd path {}
  let vfs ← state
  let mountpoint := (vfs.dentries entry).node
  failWhen ((vfs.nodes mountpoint).kind ≠ .directory) .notDirectory
  failWhen (vfs.mountAtNode mountpoint).isSome .busy
  failWhen (vfs.mountBelow mountpoint) .busy
  let index ← lift vfs.freeMount
  let root ← lift vfs.freeNode
  change fun vfs => vfs.installMount index root mountpoint kind readonly source
  return index + 1

def mountEmpty (cwd : Nat) (path : Bytes) (kind : MountKind) (readonly : Bool) (source : Bytes) :
    VfsCall Nat := do
  let entry ← entryForPathAs cwd path {}
  let vfs ← state
  let mountpoint := (vfs.dentries entry).node
  failWhen ((vfs.nodes mountpoint).kind ≠ .directory) .notDirectory
  failWhen (vfs.hasChildren mountpoint) .directoryNotEmpty
  mount cwd path kind readonly source

def remountReadOnly (mountId : Nat) : VfsCall Nat := do
  let vfs ← state
  let index ← lift (vfs.mountSlot mountId)
  if (vfs.mounts index).readonly then return 0
  else do
    change fun vfs =>
      (vfs.modifyMount index fun entry => { entry with readonly := true }).discardDirtyMountPages
        mountId
    return vfs.dirtyMountPages mountId

def setMountBlockCapacity (mountId blockSize totalBlocks freeBlocks : Nat) : VfsCall Unit := do
  failWhen (mountId = 0 ∨ blockSize = 0 ∨ freeBlocks > totalBlocks) .invalidPath
  let vfs ← state
  let index ← lift (vfs.mountSlot mountId)
  failWhen ((vfs.mounts index).kind ≠ .bootFat) .unsupportedOperation
  change fun vfs => vfs.modifyMount index fun entry =>
    { entry with
      capacityBlockSize := blockSize
      capacityTotalBlocks := totalBlocks
      capacityFreeBlocks := freeBlocks
      capacityConfigured := true }

def mountIdAtPath (cwd : Nat) (path : Bytes) : VfsCall Nat := do
  let node ← resolve cwd path
  let vfs ← state
  match vfs.mountForRoot node with
  | some index => return (vfs.mounts index).id
  | none => fail .notFound

/-- The cached entry is held by a lookup and names a node of the mount. -/
def heldOnMount (vfs : Vfs) (mountId index : Nat) : Bool :=
  let cached := vfs.dentryCache index
  let dentry := vfs.dentries cached.dentry
  cached.used && cached.references != 0 && decide (cached.dentry < maximumDentries) &&
    dentry.used && (vfs.nodes dentry.node).mountId == mountId

/-- Something on the mount is in use: a mount below it, an open handle or a held entry. Mapped
pages are not looked at. -/
def mountBusy (vfs : Vfs) (mountId : Nat) : Bool :=
  (firstIndex maximumMounts fun index =>
    (vfs.mounts index).used && (vfs.mounts index).parentId == mountId).isSome ||
  (firstIndex maximumOpenFiles fun index =>
    (vfs.openFiles index).used &&
      (vfs.nodes (vfs.openFiles index).node).mountId == mountId).isSome ||
  (firstIndex maximumDentryCacheEntries (vfs.heldOnMount mountId)).isSome

def releaseOnMount (mountId : Nat) (vfs : Vfs) (index : Nat) : Vfs :=
  let entry := vfs.dentries index
  if entry.used = false ∨ (vfs.nodes entry.node).mountId ≠ mountId then vfs
  else vfs.releaseDentry index

def reclaimOnMount (mountId : Nat) (vfs : Vfs) (node : Nat) : Vfs :=
  if (vfs.nodes node).used ∧ (vfs.nodes node).mountId = mountId then vfs.reclaimNode node else vfs

/-- Take away every name of a node of the mount, and then every node of the mount. -/
def destroyMountNamespace (vfs : Vfs) (mountId : Nat) : Vfs :=
  (List.range' 1 (maximumNodes - 1)).foldl (reclaimOnMount mountId)
    ((List.range maximumDentries).foldl (releaseOnMount mountId) vfs)

def unmount (mountId : Nat) : VfsCall Unit := do
  failWhen (mountId ≤ 1) .busy
  let vfs ← state
  let index ← lift (vfs.mountSlot mountId)
  failWhen (vfs.mountBusy mountId) .busy
  change fun vfs => (vfs.destroyMountNamespace mountId).modifyMount index fun _ => {}

/-! ### Listings and paths -/

structure DirectoryRecord where
  node : Nat := invalidNode
  entry : Nat := invalidDentry
  name : Bytes := []
  kind : Kind := .file
  size : Nat := 0
  readonly : Bool := false
  deriving DecidableEq, Repr

/-- What a listing shows of an entry: the node that is visible there. -/
def directoryRecord (vfs : Vfs) (index : Nat) : DirectoryRecord :=
  let visible := vfs.followMount (vfs.dentries index).node
  { node := visible
    entry := index
    name := (vfs.dentries index).name
    kind := (vfs.nodes visible).kind
    size := (vfs.nodes visible).size
    readonly := vfs.nodeReadonly visible }

def entriesOf (vfs : Vfs) (directory : Nat) : List Nat :=
  (List.range maximumDentries).filter fun index =>
    (vfs.dentries index).used && (vfs.dentries index).parent == directory

def lessThanIgnoreCase (first second : Bytes) : Bool :=
  List.lex (first.map lowerByte) (second.map lowerByte) (fun left right => decide (left < right))

def sortDirectoryRecords (records : List DirectoryRecord) : List DirectoryRecord :=
  Sorting.insertionSort (fun record other => lessThanIgnoreCase record.name other.name) records

def listAs (cwd : Nat) (path : Bytes) (credentials : Ownership) : VfsCall (List DirectoryRecord) := do
  let directory ← resolveAs cwd path credentials
  let vfs ← state
  failWhen ((vfs.nodes directory).kind ≠ .directory) .notDirectory
  lift (vfs.requireAccessNode directory credentials { read := true })
  failWhen ((vfs.entriesOf directory).length > maximumDirectoryEntries) .noSpace
  return sortDirectoryRecords ((vfs.entriesOf directory).map vfs.directoryRecord)

def symlinkTargetNode (vfs : Vfs) (node : Nat) : Except Error Bytes :=
  if vfs.nodeLinked node = false then .error .notFound
  else if (vfs.nodes node).kind ≠ .symlink then .error .notSymlink
  else .ok ((vfs.nodes node).symlinkData.take (vfs.nodes node).size)

def readlinkAs (cwd : Nat) (path : Bytes) (outputLength : Nat) (credentials : Ownership)
    (tick : Nat) : VfsCall Bytes := do
  let node ← resolveNoFollowAs cwd path credentials
  let vfs ← state
  let target ← lift (vfs.symlinkTargetNode node)
  let output := target.take outputLength
  change fun vfs =>
    if output = [] then vfs
    else vfs.modifyNode node fun entry => { entry with accessedTick := tick }
  return output

end Vfs

end ZigOs.RuntimeVfs
