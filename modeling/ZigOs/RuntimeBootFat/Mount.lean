/-
This file models the mount of a FAT16 volume. The backend takes stock of the volume
first and does not touch the name space meanwhile. Then it publishes what it found,
the directories in the order they were met and the files after them, one name at a
time into the live filesystem, and only then makes the mount point the root of a
mount. Nothing that was published is taken back when a later step fails.
-/

import ZigOs.RuntimeBootFat.Backend
import ZigOs.RuntimeVfs.Open

namespace ZigOs.RuntimeBootFat

open Fat Call Function

/-- How the filesystem gets back to a published file: its table of callbacks, and the address of
each file context. What a read of a file gives is decided by the backend at that time; the
filesystem sees an answer from outside. -/
structure Backing where
  address : Nat
  read : Nat → Nat → Nat → Nat → Nat → Except ZigOs.Error Bytes
  context : Nat → Nat

def Backing.fileOperations (backing : Backing) : RuntimeVfs.PseudoOperations where
  address := backing.address
  read := some backing.read

/-- The backend and the filesystem it is mounted into. -/
structure Mounting where
  backend : Backend
  vfs : RuntimeVfs.Vfs

/-- A call on the filesystem, with its failures among those of the backend. -/
def onVfs {Value : Type} (call : RuntimeVfs.VfsCall Value) : Call Error RuntimeVfs.Vfs Value where
  run vfs :=
    match call vfs with
    | (.ok value, after) => (.ok value, after)
    | (.error failure, after) => (.error (.vfs failure), after)

def onBackend {Value : Type} (call : BackendCall Value) : Call Error Mounting Value :=
  Call.within Mounting.backend (fun backend mounting => { mounting with backend }) call

def onFilesystem {Value : Type} (call : Call Error RuntimeVfs.Vfs Value) :
    Call Error Mounting Value :=
  Call.within Mounting.vfs (fun vfs mounting => { mounting with vfs }) call

/-! ### Publishing what was found -/

/-- Make the directories from an index on; each one's parent has a lower index. -/
def publishDirectories (backend : Backend) (tick : Nat) :
    Nat → Nat → (Nat → Nat) → Call Error RuntimeVfs.Vfs (Nat → Nat)
  | 0, _, nodes => pure nodes
  | remaining + 1, index, nodes =>
    let directory := backend.directories index
    if directory.used = false then publishDirectories backend tick remaining (index + 1) nodes
    else do
      failWhen (index ≤ directory.parentIndex ∨
        nodes directory.parentIndex = RuntimeVfs.invalidNode) .corruptFilesystem
      let node ← onVfs
        (RuntimeVfs.Vfs.mkdir (nodes directory.parentIndex) directory.name 0o555 tick)
      publishDirectories backend tick remaining (index + 1) (update nodes index node)

def publishFiles (backend : Backend) (backing : Backing) (tick : Nat) (nodes : Nat → Nat) :
    Nat → Nat → Call Error RuntimeVfs.Vfs Unit
  | 0, _ => pure ()
  | remaining + 1, index =>
    let file := backend.files index
    if file.used = false then publishFiles backend backing tick nodes remaining (index + 1)
    else do
      failWhen (maximumDirectories ≤ file.parentDirectory ∨
        nodes file.parentDirectory = RuntimeVfs.invalidNode) .corruptFilesystem
      let _ ← onVfs (RuntimeVfs.Vfs.createBackedFileWithOperations (nodes file.parentDirectory)
        file.name file.size 0o444 tick backing.fileOperations (backing.context index))
      publishFiles backend backing tick nodes remaining (index + 1)

def publishNamespace (backend : Backend) (backing : Backing) (mountpoint tick : Nat) :
    Call Error RuntimeVfs.Vfs Unit := do
  let nodes ← publishDirectories backend tick (maximumDirectories - 1) 1
    (update (fun _ => RuntimeVfs.invalidNode) rootDirectoryIndex mountpoint)
  publishFiles backend backing tick nodes maximumFiles 0

/-- A mount whose capacity cannot be set is taken down again. -/
def setCapacity (mountId blockSize totalBlocks freeBlocks : Nat) :
    Call Error RuntimeVfs.Vfs Unit := do
  let result ← Call.attempt
    (onVfs (RuntimeVfs.Vfs.setMountBlockCapacity mountId blockSize totalBlocks freeBlocks))
  match result with
  | .ok _ => return ()
  | .error failure => do
    let _ ← Call.attempt (onVfs (RuntimeVfs.Vfs.unmount mountId))
    fail failure

/-- The bytes of a cluster, as a product of 16 bits. -/
def Backend.capacityBlockSize (backend : Backend) : Nat :=
  backend.volume.bytesPerSector * backend.volume.sectorsPerCluster % 2 ^ 16

/-- Publish the files and mount over them. -/
def publishAndMount (backend : Backend) (backing : Backing) (path source : Bytes)
    (mountpoint tick : Nat) : Call Error RuntimeVfs.Vfs Nat := do
  publishNamespace backend backing mountpoint tick
  let mountId ← onVfs (RuntimeVfs.Vfs.mount 0 path .bootFat true source)
  setCapacity mountId backend.capacityBlockSize backend.volume.clusterCount backend.freeClusters
  return mountId

/-! ### Mounting -/

/-- A backend as it is made; the geometry is not defined before a boot sector was read. -/
def Backend.reset (backend : Backend) (device : BlockDevice) : Backend :=
  { device, volume := backend.volume }

def readBootSector (device : BlockDevice) : BackendCall Unit := do
  readMetadataBlockLocked device.firstLba
  let backend ← state
  match parseBootSector backend.sector device.blockSize device.firstLba with
  | none => fail .invalidVolume
  | some volume => change fun backend => { backend with volume }

def requireFat16 (device : BlockDevice) : BackendCall Unit := do
  let backend ← state
  let volume := backend.volume
  failWhen (volume.kind ≠ .fat16) .unsupportedFat
  failWhen (volume.bytesPerSector ≠ device.blockSize ∨
    device.sectorCount < volume.totalSectors ∨ visitedBytes * 8 < volume.clusterCount + 2)
    .invalidVolume

def resolveMountpoint (path : Bytes) : Call Error RuntimeVfs.Vfs Nat := do
  let mountpoint ← onVfs (RuntimeVfs.Vfs.resolve 0 path)
  let vfs ← state
  let stat ← onVfs (lift (vfs.statNode mountpoint))
  failWhen (stat.kind ≠ .directory) (.vfs .notDirectory)
  return mountpoint

def Backend.stageRoot (backend : Backend) : Backend :=
  { backend with
    directories := update backend.directories rootDirectoryIndex
      { used := true, firstCluster := backend.volume.rootCluster } }

/-- Find everything the volume holds, starting at its root. -/
def importVolume : BackendCall Unit := do
  change Backend.stageRoot
  let _ ← scanQueue maximumDirectories 0 [rootDirectoryIndex]
  let freeClusters ← countFreeClustersLocked
  change fun backend => { backend with freeClusters }

/-- Everything up to the first change of the name space. -/
def stageVolume (path : Bytes) (device : BlockDevice) : Call Error Mounting Nat := do
  onBackend (readBootSector device)
  onBackend (requireFat16 device)
  let mountpoint ← onFilesystem (resolveMountpoint path)
  onBackend importVolume
  return mountpoint

def mountLocked (backing : Backing) (path source : Bytes) (device : BlockDevice) (tick : Nat) :
    Call Error Mounting Nat := do
  let mountpoint ← stageVolume path device
  let mounting ← state
  let mountId ← onFilesystem (publishAndMount mounting.backend backing path source mountpoint tick)
  onBackend (change fun backend => { backend with mounted := true })
  return mountId

def mount (backing : Backing) (path source : Bytes) (device : BlockDevice) (tick : Nat) :
    Call Error Mounting Nat := do
  let mounting ← state
  failWhen (mounting.backend.mounted = true) .alreadyMounted
  failWhen (device.blockSize < 512 ∨ maximumSectorBytes < device.blockSize ∨
    isPowerOfTwo device.blockSize = false ∨ device.sectorCount = 0) .invalidDevice
  failWhen (2 ^ 64 ≤ device.firstLba + device.sectorCount) .invalidDevice
  onBackend (change fun backend => (backend.reset device).acquireLock)
  Call.closing (mountLocked backing path source device tick)
    fun mounting => { mounting with backend := mounting.backend.releaseLock }

end ZigOs.RuntimeBootFat
