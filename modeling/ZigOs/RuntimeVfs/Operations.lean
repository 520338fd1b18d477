/-
This file lists the public calls of the filesystem that can change its state,
each with its arguments, and the step that each of them takes. Whether a call
succeeds or fails makes no difference here: a failure leaves a state behind
like a success.
-/

import ZigOs.RuntimeVfs.Requests

namespace ZigOs.RuntimeVfs

namespace Vfs

inductive Operation where
  | byPath (cwd : Nat) (path : Bytes) (credentials : Ownership) (request : Request)
  -- Names
  | createPseudoWithOperations (cwd : Nat) (path : Bytes) (mode : BitVec 16) (tick : Nat)
    (operations : Option PseudoOperations) (context : Nat)
  | publishPseudoRegistration (mountRoot : Nat) (name : Bytes) (mode : BitVec 16) (tick : Nat)
    (operations : PseudoOperations) (context : Nat)
  | withdrawPseudoRegistration (mountRoot : Nat) (name : Bytes)
  | createBackedFileWithOperations (cwd : Nat) (path : Bytes) (size : Nat) (mode : BitVec 16)
    (tick : Nat) (operations : PseudoOperations) (context : Nat)
  | ensureDirectory (cwd : Nat) (path : Bytes) (mode : BitVec 16) (tick : Nat)
  | putFile (cwd : Nat) (path bytes : Bytes) (mode : BitVec 16) (readonly : Bool) (tick : Nat)
  | restoreSparseFile (cwd : Nat) (path : Bytes) (mode : BitVec 16) (size : Nat)
    (allocationBitmap : BitVec 8) (allocatedData : Bytes) (tick : Nat)
  | restoreOwnership (cwd : Nat) (path : Bytes) (restored : Ownership)
  | restoreTimestamps (cwd : Nat) (path : Bytes) (restored : Timestamps)
  -- Contents by path
  | write (cwd : Nat) (path : Bytes) (offset : Nat) (bytes : Bytes) (truncateFirst : Bool) (tick : Nat)
  | append (cwd : Nat) (path bytes : Bytes) (tick : Nat)
  | truncate (cwd : Nat) (path : Bytes) (size tick : Nat)
  | allocate (cwd : Nat) (path : Bytes) (offset length : Nat) (flags : AllocationFlags) (tick : Nat)
  -- Mounts
  | mount (cwd : Nat) (path : Bytes) (kind : MountKind) (readonly : Bool) (source : Bytes)
  | mountEmpty (cwd : Nat) (path : Bytes) (kind : MountKind) (readonly : Bool) (source : Bytes)
  | remountReadOnly (mountId : Nat)
  | setMountBlockCapacity (mountId blockSize totalBlocks freeBlocks : Nat)
  | mountIdAtPath (cwd : Nat) (path : Bytes)
  | unmount (mountId : Nat)
  -- Open files
  | close (ownerPid handle : Nat)
  | closeAll (ownerPid : Nat)
  | readOpen (ownerPid handle length : Nat) (tick : Option Nat)
  | readDirectoryOpen (ownerPid handle length tick : Nat)
  | writeOpen (ownerPid handle : Nat) (bytes : Bytes) (tick : Nat)
  | seek (ownerPid handle : Nat) (offset : Int) (whence : Whence)
  | pollOpen (ownerPid handle : Nat) (requested : BitVec 16)
  | ioctlOpen (ownerPid handle request argument : Nat)
  | truncateOpen (ownerPid handle size tick : Nat)
  | allocateOpen (ownerPid handle offset length : Nat) (flags : AllocationFlags) (tick : Nat)
  -- Cached pages
  | setFilePageAllocator (allocator : FilePageAllocator)
  | pinFilePage (node generation slot : Nat)
  | unpinFilePage (node generation slot : Nat)
  | reclaimCleanFilePageCacheUnderPressure (freePages lowWatermark targetEntries : Nat)
  | releaseFilePageCache
  | clearDirtyNodePages (node : Nat)
  | clearDirtyWritableMountPages

/-- The state that a call leaves. -/
def Operation.apply : Operation → Vfs → Vfs
  | .byPath cwd path credentials request, vfs => (request.run cwd path credentials vfs).2
  | .createPseudoWithOperations cwd path mode tick operations context, vfs =>
    (Vfs.createPseudoWithOperations cwd path mode tick operations context vfs).2
  | .publishPseudoRegistration mountRoot name mode tick operations context, vfs =>
    (Vfs.publishPseudoRegistration mountRoot name mode tick operations context vfs).2
  | .withdrawPseudoRegistration mountRoot name, vfs =>
    (Vfs.withdrawPseudoRegistration mountRoot name vfs).2
  | .createBackedFileWithOperations cwd path size mode tick operations context, vfs =>
    (Vfs.createBackedFileWithOperations cwd path size mode tick operations context vfs).2
  | .ensureDirectory cwd path mode tick, vfs => (Vfs.ensureDirectory cwd path mode tick vfs).2
  | .putFile cwd path bytes mode readonly tick, vfs =>
    (Vfs.putFile cwd path bytes mode readonly tick vfs).2
  | .restoreSparseFile cwd path mode size allocationBitmap allocatedData tick, vfs =>
    (Vfs.restoreSparseFile cwd path mode size allocationBitmap allocatedData tick vfs).2
  | .restoreOwnership cwd path restored, vfs => (Vfs.restoreOwnership cwd path restored vfs).2
  | .restoreTimestamps cwd path restored, vfs => (Vfs.restoreTimestamps cwd path restored vfs).2
  | .write cwd path offset bytes truncateFirst tick, vfs =>
    (Vfs.write cwd path offset bytes truncateFirst tick vfs).2
  | .append cwd path bytes tick, vfs => (Vfs.append cwd path bytes tick vfs).2
  | .truncate cwd path size tick, vfs => (Vfs.truncate cwd path size tick vfs).2
  | .allocate cwd path offset length flags tick, vfs =>
    (Vfs.allocate cwd path offset length flags tick vfs).2
  | .mount cwd path kind readonly source, vfs => (Vfs.mount cwd path kind readonly source vfs).2
  | .mountEmpty cwd path kind readonly source, vfs =>
    (Vfs.mountEmpty cwd path kind readonly source vfs).2
  | .remountReadOnly mountId, vfs => (Vfs.remountReadOnly mountId vfs).2
  | .setMountBlockCapacity mountId blockSize totalBlocks freeBlocks, vfs =>
    (Vfs.setMountBlockCapacity mountId blockSize totalBlocks freeBlocks vfs).2
  | .mountIdAtPath cwd path, vfs => (Vfs.mountIdAtPath cwd path vfs).2
  | .unmount mountId, vfs => (Vfs.unmount mountId vfs).2
  | .close ownerPid handle, vfs => (Vfs.close ownerPid handle vfs).2
  | .closeAll ownerPid, vfs => (Vfs.closeAll ownerPid vfs).2
  | .readOpen ownerPid handle length tick, vfs => (readOpenInternal ownerPid handle length tick vfs).2
  | .readDirectoryOpen ownerPid handle length tick, vfs =>
    (Vfs.readDirectoryOpen ownerPid handle length tick vfs).2
  | .writeOpen ownerPid handle bytes tick, vfs => (Vfs.writeOpen ownerPid handle bytes tick vfs).2
  | .seek ownerPid handle offset whence, vfs => (Vfs.seek ownerPid handle offset whence vfs).2
  | .pollOpen ownerPid handle requested, vfs => (Vfs.pollOpen ownerPid handle requested vfs).2
  | .ioctlOpen ownerPid handle request argument, vfs =>
    (Vfs.ioctlOpen ownerPid handle request argument vfs).2
  | .truncateOpen ownerPid handle size tick, vfs => (Vfs.truncateOpen ownerPid handle size tick vfs).2
  | .allocateOpen ownerPid handle offset length flags tick, vfs =>
    (Vfs.allocateOpen ownerPid handle offset length flags tick vfs).2
  | .setFilePageAllocator allocator, vfs => (Vfs.setFilePageAllocator allocator vfs).2
  | .pinFilePage node generation slot, vfs => (Vfs.pinFilePage node generation slot vfs).2
  | .unpinFilePage node generation slot, vfs => (Vfs.unpinFilePage node generation slot vfs).2
  | .reclaimCleanFilePageCacheUnderPressure freePages lowWatermark targetEntries, vfs =>
    (Vfs.reclaimCleanFilePageCacheUnderPressure freePages lowWatermark targetEntries vfs).2
  | .releaseFilePageCache, vfs => vfs.releaseFilePageCache.2
  | .clearDirtyNodePages node, vfs => (Vfs.clearDirtyNodePages node vfs).2
  | .clearDirtyWritableMountPages, vfs => vfs.clearDirtyWritableMountPages

end Vfs

end ZigOs.RuntimeVfs
