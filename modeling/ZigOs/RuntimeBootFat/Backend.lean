/-
This file models how the read-only FAT16 backend takes stock of a volume: it walks
the directories breadth first, checks and claims the cluster chain of every file
and directory it meets, notes what it found in its own tables and counts the free
clusters. The device is seen through its callback only: a read gets through or it
does not, and a read that fails leaves the buffer it was given as it was.
-/

import ZigOs.Fat.Volume
import ZigOs.RuntimeVfs.Open

namespace ZigOs.RuntimeBootFat

open Fat Call Function

abbrev maximumFiles : Nat := 32
abbrev maximumDirectories : Nat := 24
abbrev maximumDepth : Nat := 8
abbrev maximumSectorBytes : Nat := 4096
abbrev visitedBytes : Nat := 8192
abbrev maximumShortNameBytes : Nat := 12
abbrev rootDirectoryIndex : Nat := 0

/-- The failures of the backend: those of the filesystem and its own. -/
inductive Error where
  | vfs (failure : ZigOs.Error)
  | alreadyMounted | invalidDevice | invalidVolume | unsupportedFat | corruptFilesystem
  | ioFailure | namespaceLimit | chainLoop | crossLinkedCluster | outOfRangeCluster
  deriving DecidableEq, Repr

/-! ### The state -/

/-- What stands behind the callback of a device: its blocks, and for each read in turn whether
it gets through. -/
structure DeviceContext where
  blocks : Nat → Sector
  answers : Nat → Bool
  reads : Nat := 0

structure BlockDevice where
  context : DeviceContext
  blockSize : Nat
  firstLba : Nat
  sectorCount : Nat

inductive QuarantineReason where
  | none | chainLoop | crossLink | outOfRange | corrupt
  deriving DecidableEq, Repr

structure StagedDirectory where
  used : Bool := false
  parentIndex : Nat := rootDirectoryIndex
  firstCluster : Nat := 0
  depth : Nat := 0
  name : Bytes := []
  deriving DecidableEq, Repr

/-- A file the volume holds. A pointer to the backend that owns the table is a flag here. -/
structure FileContext where
  used : Bool := false
  backend : Bool := false
  parentDirectory : Nat := rootDirectoryIndex
  name : Bytes := []
  firstCluster : Nat := 0
  size : Nat := 0
  cursorValid : Bool := false
  cursorCluster : Nat := 0
  cursorOrdinal : Nat := 0
  deriving DecidableEq, Repr

structure TicketLock where
  nextTicket : Nat := 0
  servingTicket : Nat := 0
  deriving DecidableEq, Repr

/-- The bitmaps hold one bit for each cluster. -/
structure Backend where
  mounted : Bool := false
  quarantined : Bool := false
  quarantineReason : QuarantineReason := .none
  quarantineEvents : Nat := 0
  device : BlockDevice
  volume : Volume
  files : Nat → FileContext := fun _ => {}
  directories : Nat → StagedDirectory := fun _ => {}
  sector : Sector := fun _ => 0
  fatSector : Sector := fun _ => 0
  cachedFatLba : Nat := 0
  fatSectorValid : Bool := false
  directoryVisited : Nat → Bool := fun _ => false
  fileVisited : Nat → Bool := fun _ => false
  claimedClusterBitmap : Nat → Bool := fun _ => false
  ioLock : TicketLock := {}
  fileCount : Nat := 0
  directoryCount : Nat := 0
  byteCount : Nat := 0
  claimedClusters : Nat := 0
  freeClusters : Nat := 0
  chainLoops : Nat := 0
  crossLinks : Nat := 0
  outOfRangeLinks : Nat := 0

/-- A call on the backend. -/
abbrev BackendCall := Call Error Backend

def TicketLock.acquire (lock : TicketLock) : TicketLock :=
  { lock with nextTicket := wrapIncrement 32 lock.nextTicket }

def TicketLock.release (lock : TicketLock) : TicketLock :=
  { lock with servingTicket := wrapIncrement 32 lock.servingTicket }

def Backend.acquireLock (backend : Backend) : Backend :=
  { backend with ioLock := backend.ioLock.acquire }

def Backend.releaseLock (backend : Backend) : Backend :=
  { backend with ioLock := backend.ioLock.release }

/-! ### Reading blocks -/

def Backend.countRead (backend : Backend) : Backend :=
  { backend with
    device.context.reads := backend.device.context.reads + 1 }

/-- One call of the device's callback. -/
def readDeviceBlockLocked (lba : Nat) : BackendCall Sector := do
  let backend ← state
  let device := backend.device
  failWhen (lba < device.firstLba ∨ device.firstLba + device.sectorCount ≤ lba)
    .corruptFilesystem
  change Backend.countRead
  failWhen (device.context.answers device.context.reads = false) .ioFailure
  return device.context.blocks lba

def readBlockLocked (lba : Nat) : BackendCall Unit := do
  let block ← readDeviceBlockLocked lba
  change fun backend => { backend with sector := block }

def readMetadataBlockLocked (lba : Nat) : BackendCall Unit := readBlockLocked lba

def readFileBlockLocked (lba : Nat) : BackendCall Unit := readBlockLocked lba

def readFatBlockLocked (lba : Nat) : BackendCall Unit := do
  let block ← readDeviceBlockLocked lba
  change fun backend => { backend with fatSector := block }

/-! ### The allocation table -/

def outOfRangeCluster {Value : Type} : BackendCall Value := do
  change fun backend =>
    { backend with outOfRangeLinks := wrapIncrement 64 backend.outOfRangeLinks }
  fail .outOfRangeCluster

def orOutOfRange {Value : Type} : Option Value → BackendCall Value
  | none => outOfRangeCluster
  | some value => pure value

def orCorrupt {Value : Type} : Option Value → BackendCall Value
  | none => fail .corruptFilesystem
  | some value => pure value

/-- Bring a block of the table into the one-block cache. -/
def cacheFatBlock (lba : Nat) : BackendCall Unit := do
  let backend ← state
  if backend.fatSectorValid = false ∨ backend.cachedFatLba ≠ lba then do
    readFatBlockLocked lba
    change fun backend => { backend with cachedFatLba := lba, fatSectorValid := true }
  else pure ()

def readClusterLinkLocked (cluster : Nat) : BackendCall ClusterLink := do
  let backend ← state
  let location ← orOutOfRange (fatEntryLocation backend.volume cluster)
  cacheFatBlock location.lba
  let backend ← state
  orOutOfRange
    (decodeClusterLink backend.volume cluster backend.fatSector backend.device.blockSize)

def clusterFirstLbaLocked (cluster : Nat) : BackendCall Nat := do
  let backend ← state
  orOutOfRange (clusterFirstLba backend.volume cluster)

/-! ### Marking clusters -/

/-- Which of the two bitmaps a walk marks. -/
inductive Walk where
  | directory | file
  deriving DecidableEq, Repr

def Backend.visited (backend : Backend) : Walk → Nat → Bool
  | .directory => backend.directoryVisited
  | .file => backend.fileVisited

def Backend.setVisited (backend : Backend) (bitmap : Nat → Bool) : Walk → Backend
  | .directory => { backend with directoryVisited := bitmap }
  | .file => { backend with fileVisited := bitmap }

/-- No bitmap has a bit for the cluster, or the volume does not have the cluster. -/
def Backend.outOfRange (backend : Backend) (cluster : Nat) : Prop :=
  cluster < 2 ∨ backend.volume.clusterCount + 2 ≤ cluster ∨ visitedBytes * 8 ≤ cluster

instance (backend : Backend) (cluster : Nat) : Decidable (backend.outOfRange cluster) :=
  inferInstanceAs (Decidable (_ ∨ _))

def clearVisited (walk : Walk) : BackendCall Unit :=
  change fun backend => backend.setVisited (fun _ => false) walk

def markChainVisitedLocked (walk : Walk) (cluster : Nat) : BackendCall Unit := do
  let backend ← state
  if backend.outOfRange cluster then outOfRangeCluster
  else if backend.visited walk cluster then do
    change fun backend => { backend with chainLoops := wrapIncrement 64 backend.chainLoops }
    fail .chainLoop
  else
    change fun backend =>
      backend.setVisited (update (backend.visited walk) cluster true) walk

def Backend.claim (backend : Backend) (cluster : Nat) : Backend :=
  { backend with
    claimedClusterBitmap := update backend.claimedClusterBitmap cluster true
    claimedClusters := backend.claimedClusters + 1 }

def claimClusterLocked (cluster : Nat) : BackendCall Unit := do
  let backend ← state
  if backend.outOfRange cluster then outOfRangeCluster
  else if backend.claimedClusterBitmap cluster then do
    change fun backend => { backend with crossLinks := wrapIncrement 64 backend.crossLinks }
    fail .crossLinkedCluster
  else change fun backend => backend.claim cluster

/-- A walk that met as many clusters as there are and has not ended. -/
def chainLoop {Value : Type} : BackendCall Value := do
  change fun backend => { backend with chainLoops := wrapIncrement 64 backend.chainLoops }
  fail .chainLoop

/-! ### The chain of a file -/

def validateChainLoop (required : Nat) : Nat → Nat → Nat → BackendCall Unit
  | 0, _, _ => chainLoop
  | fuel + 1, count, cluster => do
    markChainVisitedLocked .file cluster
    claimClusterLocked cluster
    let link ← readClusterLinkLocked cluster
    match link with
    | .next next => validateChainLoop required fuel (count + 1) next
    | .finish => do
      failWhen (count + 1 < required) .corruptFilesystem
      return ()
    | .free | .bad => fail .corruptFilesystem

def Backend.clusterBytes (backend : Backend) : Nat :=
  backend.device.blockSize * backend.volume.sectorsPerCluster

def validateFileChainLocked (firstCluster size : Nat) : BackendCall Unit := do
  let backend ← state
  if size = 0 ∧ firstCluster = 0 then return ()
  else if firstCluster < 2 then outOfRangeCluster
  else do
    clearVisited .file
    validateChainLoop ((size + backend.clusterBytes - 1) / backend.clusterBytes)
      backend.volume.clusterCount 0 firstCluster

/-! ### Directories -/

def Backend.stage (backend : Backend) (parent index : Nat) (entry : DirectoryEntry) : Backend :=
  { backend with
    directories := update backend.directories index
      { used := true
        parentIndex := parent
        firstCluster := entry.firstCluster
        depth := (backend.directories parent).depth + 1
        name := entry.name }
    directoryCount := backend.directoryCount + 1 }

/-- Queue a directory; its slot in the table is its place in the queue. -/
def stageDirectory (directoryIndex : Nat) (entry : DirectoryEntry) (queue : List Nat) :
    BackendCall (List Nat) := do
  failWhen (entry.firstCluster < 2 ∨ maximumDirectories ≤ queue.length) .namespaceLimit
  change fun backend => backend.stage directoryIndex queue.length entry
  return queue ++ [queue.length]

def Backend.addFile (backend : Backend) (directoryIndex : Nat) (entry : DirectoryEntry) :
    Backend :=
  { backend with
    files := update backend.files backend.fileCount
      { used := true
        backend := true
        parentDirectory := directoryIndex
        name := entry.name
        firstCluster := entry.firstCluster
        size := entry.fileSize }
    fileCount := backend.fileCount + 1
    byteCount := backend.byteCount + entry.fileSize }

def importFile (directoryIndex : Nat) (entry : DirectoryEntry) : BackendCall Unit := do
  let backend ← state
  failWhen (maximumFiles ≤ backend.fileCount) .namespaceLimit
  validateFileChainLocked entry.firstCluster entry.fileSize
  change fun backend => backend.addFile directoryIndex entry

def scanDirectoryEntry (directoryIndex : Nat) (entry : DirectoryEntry) (queue : List Nat) :
    BackendCall (List Nat) :=
  if entry.name = RuntimeVfs.dot ∨ entry.name = RuntimeVfs.dotDot then pure queue
  else do
    failWhen (entry.name.length = 0 ∨ maximumShortNameBytes < entry.name.length)
      .corruptFilesystem
    if entry.isDirectory then stageDirectory directoryIndex entry queue
    else do
      importFile directoryIndex entry
      return queue

def scanDirectorySectorLocked (directoryIndex : Nat) :
    List DirectoryEntry → List Nat → BackendCall (List Nat)
  | [], queue => pure queue
  | entry :: rest, queue => do
    let queue ← scanDirectoryEntry directoryIndex entry queue
    scanDirectorySectorLocked directoryIndex rest queue

/-- Scan sectors that lie in a row, up to the one the directory ends in. The result tells
whether it did end. -/
def scanSectors (directoryIndex firstLba : Nat) :
    Nat → Nat → List Nat → BackendCall (List Nat × Bool)
  | 0, _, queue => pure (queue, false)
  | remaining + 1, sectorIndex, queue => do
    readMetadataBlockLocked (firstLba + sectorIndex)
    let backend ← state
    let decoded ← orCorrupt (parseDirectorySector backend.sector backend.device.blockSize)
    let queue ← scanDirectorySectorLocked directoryIndex decoded.entries queue
    if decoded.endOfDirectory then pure (queue, true)
    else scanSectors directoryIndex firstLba remaining (sectorIndex + 1) queue

/-- Scan one cluster of a directory that has not ended yet. -/
def scanCluster (directoryIndex cluster : Nat) (progress : List Nat × Bool) :
    BackendCall (List Nat × Bool) :=
  if progress.2 then pure progress
  else do
    let firstLba ← clusterFirstLbaLocked cluster
    let backend ← state
    scanSectors directoryIndex firstLba backend.volume.sectorsPerCluster 0 progress.1

def scanClusters (directoryIndex : Nat) :
    Nat → Nat → List Nat × Bool → BackendCall (List Nat)
  | 0, _, _ => chainLoop
  | fuel + 1, cluster, progress => do
    markChainVisitedLocked .directory cluster
    claimClusterLocked cluster
    let progress ← scanCluster directoryIndex cluster progress
    let link ← readClusterLinkLocked cluster
    match link with
    | .next next => scanClusters directoryIndex fuel next progress
    | .finish => return progress.1
    | .free | .bad => fail .corruptFilesystem

def scanRootDirectory (directoryIndex : Nat) (queue : List Nat) : BackendCall (List Nat) := do
  let backend ← state
  failWhen (backend.volume.kind = .fat32) .unsupportedFat
  let (queue, _) ← scanSectors directoryIndex backend.volume.rootDirectoryLba
    backend.volume.rootDirectorySectors 0 queue
  return queue

def scanDirectoryLocked (directoryIndex : Nat) (queue : List Nat) : BackendCall (List Nat) := do
  let backend ← state
  let directory := backend.directories directoryIndex
  failWhen (maximumDirectories ≤ directoryIndex ∨ directory.used = false) .corruptFilesystem
  failWhen (maximumDepth < directory.depth) .namespaceLimit
  if directory.firstCluster = 0 then scanRootDirectory directoryIndex queue
  else do
    clearVisited .directory
    scanClusters directoryIndex backend.volume.clusterCount directory.firstCluster (queue, false)

/-- Scan the directories of the queue in turn, also those that are queued on the way. The
queue has room for every directory there can be. -/
def scanQueue : Nat → Nat → List Nat → BackendCall (List Nat)
  | 0, _, queue => pure queue
  | fuel + 1, index, queue =>
    match queue[index]? with
    | none => pure queue
    | some directoryIndex => do
      let queue ← scanDirectoryLocked directoryIndex queue
      scanQueue fuel (index + 1) queue

def isFree : ClusterLink → Bool
  | .free => true
  | .next _ | .finish | .bad => false

def countFreeLoop : Nat → Nat → Nat → BackendCall Nat
  | 0, _, freeClusters => pure freeClusters
  | remaining + 1, cluster, freeClusters => do
    let link ← readClusterLinkLocked cluster
    countFreeLoop remaining (cluster + 1) (if isFree link then freeClusters + 1 else freeClusters)

def countFreeClustersLocked : BackendCall Nat := do
  let backend ← state
  countFreeLoop backend.volume.clusterCount 2 0

end ZigOs.RuntimeBootFat
