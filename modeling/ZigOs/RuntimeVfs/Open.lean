/-
This file models the calls that move data: reads and writes by path, the table
of open files with its generations, and everything that goes through an open
handle. A pseudo node answers through its callbacks instead of through blocks.
-/

import ZigOs.RuntimeVfs.Namespace

namespace ZigOs.RuntimeVfs

open Scan Call

namespace Vfs

/-! ### Pseudo nodes -/

/-- The callbacks of a node. -/
def requireOperations (vfs : Vfs) (node : Nat) : Except Error PseudoOperations :=
  match (vfs.nodes node).pseudoOperations with
  | some operations => .ok operations
  | none => .error .unsupportedOperation

/-- Count a callback: the world outside may answer the next one differently. -/
def countPseudoCall : VfsCall Nat where
  run vfs := (.ok vfs.pseudoCalls, { vfs with pseudoCalls := vfs.pseudoCalls + 1 })

def readPseudo (node offset length : Nat) : VfsCall Bytes := do
  let vfs ← state
  let operations ← lift (vfs.requireOperations node)
  match operations.read with
  | none => fail .permissionDenied
  | some readFn => do
    let moment ← countPseudoCall
    lift (readFn moment (vfs.nodes node).pseudoContext node offset length)

def writePseudo (node offset : Nat) (bytes : Bytes) : VfsCall Nat := do
  let vfs ← state
  let operations ← lift (vfs.requireOperations node)
  match operations.write with
  | none => fail .permissionDenied
  | some writeFn => do
    let moment ← countPseudoCall
    lift (writeFn moment (vfs.nodes node).pseudoContext node offset bytes)

/-! ### By path -/

structure Stat where
  node : Nat
  generation : Nat
  kind : Kind
  size : Nat
  mode : BitVec 16
  readonly : Bool
  mountId : Nat
  linkCount : Nat
  uid : Nat
  gid : Nat
  createdTick : Nat
  modifiedTick : Nat
  changedTick : Nat
  accessedTick : Nat
  deriving DecidableEq

def statNode (vfs : Vfs) (node : Nat) : Except Error Stat :=
  let entry := vfs.nodes node
  if vfs.nodeUsed node = false then .error .notFound
  else .ok {
    node := node
    generation := entry.generation
    kind := entry.kind
    size := entry.size
    mode := entry.mode
    readonly := vfs.nodeReadonly node
    mountId := entry.mountId
    linkCount := entry.linkCount
    uid := entry.uid
    gid := entry.gid
    createdTick := entry.createdTick
    modifiedTick := entry.modifiedTick
    changedTick := entry.changedTick
    accessedTick := entry.accessedTick }

def statAs (cwd : Nat) (path : Bytes) (credentials : Ownership) : VfsCall Stat := do
  let node ← resolveAs cwd path credentials
  let vfs ← state
  lift (vfs.statNode node)

def ownershipNode (vfs : Vfs) (node : Nat) : Except Error Ownership :=
  if vfs.nodeUsed node = false then .error .notFound
  else .ok { uid := (vfs.nodes node).uid, gid := (vfs.nodes node).gid }

def timestampsNode (vfs : Vfs) (node : Nat) : Except Error Timestamps :=
  let entry := vfs.nodes node
  if vfs.nodeUsed node = false then .error .notFound
  else .ok {
    createdTick := entry.createdTick
    modifiedTick := entry.modifiedTick
    changedTick := entry.changedTick
    accessedTick := entry.accessedTick }

def ownershipAs (cwd : Nat) (path : Bytes) (credentials : Ownership) : VfsCall Ownership := do
  let node ← resolveAs cwd path credentials
  let vfs ← state
  lift (vfs.ownershipNode node)

def timestampsAs (cwd : Nat) (path : Bytes) (credentials : Ownership) : VfsCall Timestamps := do
  let node ← resolveAs cwd path credentials
  let vfs ← state
  lift (vfs.timestampsNode node)

structure FilesystemStats where
  mountId : Nat
  kind : MountKind
  readonly : Bool
  blockSize : Nat
  totalBlocks : Nat
  freeBlocks : Nat
  totalNodes : Nat
  freeNodes : Nat
  sharedBlocks : Bool
  sharedNodes : Bool
  synthetic : Bool
  deriving DecidableEq

/-- What the filesystem reports about a mount: the shared tables, the capacity of the medium
behind it, or nothing for a synthetic one. -/
def filesystemStats (vfs : Vfs) (entry : Mount) (mountId : Nat) : FilesystemStats :=
  let shared : FilesystemStats := {
    mountId := mountId
    kind := entry.kind
    readonly := entry.readonly
    blockSize := fileBlockSize
    totalBlocks := maximumDataBlocks
    freeBlocks := vfs.freeDataBlockCount
    totalNodes := maximumNodes
    freeNodes := countIndex maximumNodes fun node => !(vfs.nodes node).used
    sharedBlocks := true
    sharedNodes := true
    synthetic := false }
  match entry.kind with
  | .ramfs | .tmpfs | .zigosPersist => shared
  | .bootFat =>
    if entry.capacityConfigured then
      { shared with
        blockSize := entry.capacityBlockSize
        totalBlocks := entry.capacityTotalBlocks
        freeBlocks := entry.capacityFreeBlocks
        sharedBlocks := false }
    else shared
  | .procfs | .devfs | .netfs =>
    { shared with totalBlocks := 0, freeBlocks := 0, sharedBlocks := false, synthetic := true }

def statFilesystemAs (cwd : Nat) (path : Bytes) (credentials : Ownership) :
    VfsCall FilesystemStats := do
  let node ← resolveAs cwd path credentials
  let vfs ← state
  let mountId := (vfs.nodes node).mountId
  failWhen (mountId = 0 ∨ mountId - 1 ≥ maximumMounts ∨
    (vfs.mounts (mountId - 1)).used = false) .corruptState
  return vfs.filesystemStats (vfs.mounts (mountId - 1)) mountId

/-- Read the contents of a file through the page cache. -/
def readContents (node offset length : Nat) : VfsCall Bytes where
  run vfs :=
    let (bytes, after) := readFileDataLocked node offset length vfs
    (.ok bytes, after)

def readAs (cwd : Nat) (path : Bytes) (offset length : Nat) (credentials : Ownership) :
    VfsCall Bytes := do
  let node ← resolveAs cwd path credentials
  let vfs ← state
  failWhen ((vfs.nodes node).kind = .directory) .isDirectory
  lift (vfs.requireAccessNode node credentials { read := true })
  if (vfs.nodes node).pseudoOperations.isSome then readPseudo node offset length
  else do
    failWhen (offset > (vfs.nodes node).size) .invalidOffset
    readContents node offset (min length ((vfs.nodes node).size - offset))

def fileViewNode (node : Nat) : VfsCall Bytes := do
  let vfs ← state
  failWhen ((vfs.nodes node).kind = .directory) .isDirectory
  failWhen ((vfs.nodes node).kind ≠ .file ∨ (vfs.nodes node).pseudoOperations.isSome)
    .unsupportedOperation
  readContents node 0 (vfs.nodes node).size

def readOnlyViewAs (cwd : Nat) (path : Bytes) (credentials : Ownership) : VfsCall Bytes := do
  let node ← resolveAs cwd path credentials
  let vfs ← state
  lift (vfs.requireAccessNode node credentials { read := true })
  fileViewNode node

def executableViewAs (cwd : Nat) (path : Bytes) (credentials : Ownership) : VfsCall Bytes := do
  let node ← resolveAs cwd path credentials
  let vfs ← state
  lift (vfs.requireAccessNode node credentials { execute := true })
  fileViewNode node

/-- Set the modification times when something was written. -/
def touchWritten (node tick written : Nat) : VfsCall Unit :=
  change fun vfs => if written = 0 then vfs else vfs.touch node tick

def write (cwd : Nat) (path : Bytes) (offset : Nat) (bytes : Bytes) (truncateFirst : Bool)
    (tick : Nat) : VfsCall Nat := do
  let node ← resolve cwd path
  let vfs ← state
  if (vfs.nodes node).kind = .pseudo then do
    failWhen (truncateFirst = true) .unsupportedOperation
    let written ← writePseudo node offset bytes
    touchWritten node tick written
    return written
  else writeNode node offset bytes truncateFirst tick

def append (cwd : Nat) (path bytes : Bytes) (tick : Nat) : VfsCall Nat := do
  let node ← resolve cwd path
  let vfs ← state
  if (vfs.nodes node).kind = .pseudo then writePseudo node 0 bytes
  else do
    let (written, _) ← appendNode node bytes tick
    return written

def truncate (cwd : Nat) (path : Bytes) (size tick : Nat) : VfsCall Unit := do
  failWhen (size > maximumFileSize) .fileTooLarge
  let node ← resolve cwd path
  let vfs ← state
  lift (vfs.requireWritableFile node)
  change (truncateNodeLocked node size tick)

def allocate (cwd : Nat) (path : Bytes) (offset length : Nat) (flags : AllocationFlags)
    (tick : Nat) : VfsCall Unit := do
  let node ← resolve cwd path
  allocateNode node offset length flags tick true

/-! ### Opening and closing -/

/-- What an open of an existing node checks, by the kind of the node. -/
def requireOpenable (vfs : Vfs) (node : Nat) (flags : OpenFlags) (owner : Ownership) :
    Except Error Unit := do
  let entry := vfs.nodes node
  match entry.kind with
  | .directory =>
    if flags.write ∨ flags.create ∨ flags.truncate ∨ flags.append then .error .isDirectory
    else if flags.read then vfs.requireAccessNode node owner { read := true } else .ok ()
  | .pseudo => do
    let operations ← vfs.requireOperations node
    if flags.create ∨ flags.truncate ∨ flags.append then .error .unsupportedOperation
    if flags.read then do
      vfs.requireAccessNode node owner { read := true }
      if operations.read.isNone ∧ operations.stream.isNone then .error .permissionDenied
    if flags.write then do
      vfs.requireAccessNode node owner { write := true }
      if operations.write.isNone ∧ operations.stream.isNone then .error .permissionDenied
  | _ => do
    if flags.read then vfs.requireAccessNode node owner { read := true }
    if flags.write then do
      vfs.requireAccessNode node owner { write := true }
      vfs.requireMutableFile node

/-- The number of open files of an owner. -/
def ownerCount (vfs : Vfs) (ownerPid : Nat) : Nat :=
  countIndex maximumOpenFiles fun index =>
    (vfs.openFiles index).used && (vfs.openFiles index).ownerPid == ownerPid

/-- The slot a new open file goes to. -/
def freeOpen (vfs : Vfs) (ownerPid : Nat) : Except Error Nat :=
  if vfs.ownerCount ownerPid ≥ maximumOpenFilesPerOwner then .error .tooManyOpenFiles
  else match firstIndex maximumOpenFiles fun index => !(vfs.openFiles index).used with
    | some index => .ok index
    | none => .error .tooManyOpenFiles

def installOpen (vfs : Vfs) (index ownerPid node : Nat) (flags : OpenFlags) : Vfs :=
  vfs.modifyOpen index fun old =>
    { used := true
      generation := nextGeneration old.generation
      node := node
      nodeGeneration := (vfs.nodes node).generation
      ownerPid := ownerPid
      offset := if flags.append then (vfs.nodes node).size else 0
      readable := flags.read
      writable := flags.write
      append := flags.append }

/-- A truncating open cuts the file before the table of open files is looked at. -/
def truncateOnOpen (node : Nat) (flags : OpenFlags) (tick : Nat) (vfs : Vfs) : Vfs :=
  let kind := (vfs.nodes node).kind
  if kind ≠ .directory ∧ kind ≠ .pseudo ∧ flags.truncate ∧ flags.write
  then truncateNodeLocked node 0 tick vfs else vfs

def openOwned (ownerPid cwd : Nat) (path : Bytes) (flags : OpenFlags) (mode : BitVec 16)
    (owner : Ownership) (tick : Nat) : VfsCall Nat := do
  failWhen (flags.read = false ∧ flags.write = false) .permissionDenied
  let node ← resolveOr cwd path owner
    (if flags.create then createOwned cwd path mode owner tick else fail .notFound)
  let vfs ← state
  lift (vfs.requireOpenable node flags owner)
  change (truncateOnOpen node flags tick)
  let node ← resolveAs cwd path owner
  let vfs ← state
  let index ← lift (vfs.freeOpen ownerPid)
  change fun vfs => vfs.installOpen index ownerPid node flags
  return makeHandle index (nextGeneration (vfs.openFiles index).generation)

/-- Free a slot of the open files and drop the node if this was its last reference. The close
callback of a pseudo node does not reach into the filesystem. -/
def closeSlot (vfs : Vfs) (index : Nat) : Vfs :=
  (vfs.modifyOpen index fun old => { generation := old.generation }).maybeReclaimUnlinked
    (vfs.openFiles index).node

def close (ownerPid handle : Nat) : VfsCall Unit := do
  let vfs ← state
  let index ← lift (vfs.resolveOpen ownerPid handle)
  change fun vfs => vfs.closeSlot index

def closeIfOwned (ownerPid : Nat) (vfs : Vfs) (index : Nat) : Vfs :=
  if (vfs.openFiles index).used = false ∨ (vfs.openFiles index).ownerPid ≠ ownerPid then vfs
  else vfs.closeSlot index

def closeAll (ownerPid : Nat) (vfs : Vfs) : Nat × Vfs :=
  (vfs.ownerCount ownerPid, (List.range maximumOpenFiles).foldl (closeIfOwned ownerPid) vfs)

/-! ### Through a handle -/

def advance (vfs : Vfs) (index offset : Nat) : Vfs :=
  vfs.modifyOpen index fun old => { old with offset := offset }

/-- Note a read: the offset moves on, and a tick is recorded when something was read. -/
def finishRead (index count : Nat) (tick : Option Nat) (vfs : Vfs) : Vfs :=
  let openFile := vfs.openFiles index
  let advanced := vfs.advance index (openFile.offset + count)
  match tick with
  | some tick =>
    if count = 0 then advanced
    else advanced.modifyNode openFile.node fun entry => { entry with accessedTick := tick }
  | none => advanced

def readOpenInternal (ownerPid handle length : Nat) (tick : Option Nat) : VfsCall Bytes := do
  let vfs ← state
  let index ← lift (vfs.resolveOpen ownerPid handle)
  let openFile := vfs.openFiles index
  let node := vfs.nodes openFile.node
  failWhen (openFile.readable = false) .permissionDenied
  failWhen (node.kind = .directory) .isDirectory
  let bytes ←
    if node.pseudoOperations.isSome then readPseudo openFile.node openFile.offset length
    else do
      failWhen (openFile.offset > node.size) .invalidOffset
      readContents openFile.node openFile.offset (min length (node.size - openFile.offset))
  change (finishRead index bytes.length tick)
  return bytes

/-- The records a directory read returns and where the next one starts: the entries from the
offset on, until the output is full. -/
def scanDirectory (vfs : Vfs) (directory : Nat) : List Nat → Nat → List DirectoryRecord × Nat
  | [], _ => ([], maximumDentries)
  | index :: rest, room =>
    if room = 0 then ([], index)
    else if (vfs.dentries index).used = false ∨ (vfs.dentries index).parent ≠ directory then
      vfs.scanDirectory directory rest room
    else
      let (records, next) := vfs.scanDirectory directory rest (room - 1)
      (vfs.directoryRecord index :: records, next)

def readDirectoryOpen (ownerPid handle length tick : Nat) : VfsCall (List DirectoryRecord) := do
  let vfs ← state
  let index ← lift (vfs.resolveOpen ownerPid handle)
  let openFile := vfs.openFiles index
  failWhen (openFile.readable = false) .permissionDenied
  failWhen ((vfs.nodes openFile.node).kind ≠ .directory) .notDirectory
  let (records, next) := vfs.scanDirectory openFile.node
    (List.range' openFile.offset (maximumDentries - openFile.offset)) length
  change fun vfs =>
    let advanced := vfs.advance index (max openFile.offset next)
    if records = [] then advanced
    else advanced.modifyNode openFile.node fun entry => { entry with accessedTick := tick }
  return records

def writeOpen (ownerPid handle : Nat) (bytes : Bytes) (tick : Nat) : VfsCall Nat := do
  let vfs ← state
  let index ← lift (vfs.resolveOpen ownerPid handle)
  let openFile := vfs.openFiles index
  failWhen (openFile.writable = false) .permissionDenied
  if (vfs.nodes openFile.node).kind = .pseudo then do
    let written ← writePseudo openFile.node openFile.offset bytes
    change fun vfs => vfs.advance index (openFile.offset + written)
    touchWritten openFile.node tick written
    return written
  else do
    lift (vfs.requireMutableFile openFile.node)
    let offset := if openFile.append then (vfs.nodes openFile.node).size else openFile.offset
    let written ← writeNodeLocked openFile.node offset bytes false tick
    change fun vfs => vfs.advance index (offset + written)
    return written

inductive Whence where
  | start | current | fromEnd
  deriving DecidableEq, Repr

/-- Offsets are 64-bit signed numbers; a sum outside their range is refused. -/
def seek (ownerPid handle : Nat) (offset : Int) (whence : Whence) : VfsCall Nat := do
  let vfs ← state
  let index ← lift (vfs.resolveOpen ownerPid handle)
  let openFile := vfs.openFiles index
  let node := vfs.nodes openFile.node
  failWhen (node.kind = .pseudo) .notSeekable
  let base : Nat := match whence with
    | .start => 0
    | .current => openFile.offset
    | .fromEnd => node.size
  let target : Int := base + offset
  let maximumOffset := if node.pseudoOperations.isSome then node.size else maximumFileSize
  failWhen (target < -(2 ^ 63) ∨ target ≥ 2 ^ 63) .invalidOffset
  failWhen (target < 0 ∨ target > maximumOffset) .invalidOffset
  change fun vfs => vfs.advance index target.toNat
  return target.toNat

structure OpenInfo where
  node : Nat
  nodeGeneration : Nat
  offset : Nat
  readable : Bool
  writable : Bool
  append : Bool
  deriving DecidableEq, Repr

def openInfo (vfs : Vfs) (ownerPid handle : Nat) : Except Error OpenInfo :=
  match vfs.resolveOpen ownerPid handle with
  | .error failure => .error failure
  | .ok index =>
    let openFile := vfs.openFiles index
    .ok {
      node := openFile.node
      nodeGeneration := openFile.nodeGeneration
      offset := openFile.offset
      readable := openFile.readable
      writable := openFile.writable
      append := openFile.append }

def pseudoStreamOpen (vfs : Vfs) (ownerPid handle : Nat) : Except Error (Option PseudoStream) := do
  let index ← vfs.resolveOpen ownerPid handle
  let node := (vfs.openFiles index).node
  if (vfs.nodes node).kind ≠ .pseudo then return none
  let operations ← vfs.requireOperations node
  return operations.stream

/-- The two readiness bits of an open file that answers for itself. -/
def readyBits (readable writable : Bool) : BitVec 16 :=
  (if readable then 1 else 0) ||| (if writable then 2 else 0)

def pollOpen (ownerPid handle : Nat) (requested : BitVec 16) : VfsCall (BitVec 16) := do
  let vfs ← state
  let index ← lift (vfs.resolveOpen ownerPid handle)
  let openFile := vfs.openFiles index
  if (vfs.nodes openFile.node).kind ≠ .pseudo then
    let writable := openFile.writable && !vfs.nodeReadonly openFile.node
    return readyBits openFile.readable writable &&& requested
  else do
    let operations ← lift (vfs.requireOperations openFile.node)
    match operations.poll with
    | none => do
      let readable := openFile.readable && operations.read.isSome
      let writable := openFile.writable && operations.write.isSome
      return readyBits readable writable &&& requested
    | some pollFn => do
      let moment ← countPseudoCall
      lift (pollFn moment (vfs.nodes openFile.node).pseudoContext openFile.node requested)

def ioctlOpen (ownerPid handle request argument : Nat) : VfsCall Nat := do
  let vfs ← state
  let index ← lift (vfs.resolveOpen ownerPid handle)
  let node := (vfs.openFiles index).node
  failWhen ((vfs.nodes node).kind ≠ .pseudo) .unsupportedOperation
  let operations ← lift (vfs.requireOperations node)
  match operations.ioctl with
  | none => fail .unsupportedOperation
  | some ioctlFn => do
    let moment ← countPseudoCall
    lift (ioctlFn moment (vfs.nodes node).pseudoContext node request argument)

def truncateOpen (ownerPid handle size tick : Nat) : VfsCall Unit := do
  failWhen (size > maximumFileSize) .fileTooLarge
  let vfs ← state
  let index ← lift (vfs.resolveOpen ownerPid handle)
  failWhen ((vfs.openFiles index).writable = false) .permissionDenied
  lift (vfs.requireMutableFile (vfs.openFiles index).node)
  change (truncateNodeLocked (vfs.openFiles index).node size tick)

def allocateOpen (ownerPid handle offset length : Nat) (flags : AllocationFlags) (tick : Nat) :
    VfsCall Unit := do
  let vfs ← state
  let index ← lift (vfs.resolveOpen ownerPid handle)
  failWhen ((vfs.openFiles index).writable = false) .permissionDenied
  allocateNode (vfs.openFiles index).node offset length flags tick false

/-! ### Directory events -/

def validateDirectoryGeneration (vfs : Vfs) (directory generation : Nat) : Except Error Unit :=
  if vfs.nodeUsed directory = false ∨ (vfs.nodes directory).generation ≠ generation then
    .error .notFound
  else if (vfs.nodes directory).kind ≠ .directory then .error .notDirectory
  else .ok ()

def directoryEventCursor (vfs : Vfs) (directory generation : Nat) : Except Error Nat := do
  vfs.validateDirectoryGeneration directory generation
  return vfs.directoryEventSequence

/-- The oldest event still in the ring. -/
def earliestEvent (vfs : Vfs) : Nat :=
  if vfs.directoryEventSequence > maximumDirectoryEvents
  then vfs.directoryEventSequence - maximumDirectoryEvents + 1 else 1

def directoryEvent (vfs : Vfs) (sequence : Nat) : DirectoryChange :=
  vfs.directoryEvents ((sequence - 1) % maximumDirectoryEvents)

/-- Whether one of the events concerns the directory. -/
def anyEvent (vfs : Vfs) (directory generation : Nat) : List Nat → Except Error Bool
  | [] => .ok false
  | sequence :: rest =>
    let event := vfs.directoryEvent sequence
    if event.sequence ≠ sequence then .error .corruptState
    else if event.directory = directory ∧ event.directoryGeneration = generation then .ok true
    else vfs.anyEvent directory generation rest

def directoryEventsReady (vfs : Vfs) (directory generation cursor : Nat) : Except Error Bool := do
  vfs.validateDirectoryGeneration directory generation
  let pending := List.range' (cursor + 1) (vfs.directoryEventSequence - cursor)
  if cursor > vfs.directoryEventSequence then .error .corruptState
  else if cursor = vfs.directoryEventSequence then .ok false
  else if cursor + 1 < vfs.earliestEvent then .ok true
  else vfs.anyEvent directory generation pending

/-- Collect the events of a directory until the output is full. The cursor moves past every
event looked at, also when a later one turns out to be damaged. -/
def collectEvents (vfs : Vfs) (directory generation room : Nat) :
    List Nat → Nat → Except Error (List DirectoryChange) × Nat
  | [], cursor => (.ok [], cursor)
  | sequence :: rest, cursor =>
    let event := vfs.directoryEvent sequence
    if event.sequence ≠ sequence then (.error .corruptState, cursor)
    else if event.directory ≠ directory ∨ event.directoryGeneration ≠ generation then
      vfs.collectEvents directory generation room rest sequence
    else if room ≤ 1 then (.ok [event], sequence)
    else match vfs.collectEvents directory generation (room - 1) rest sequence with
      | (.ok events, next) => (.ok (event :: events), next)
      | (.error failure, next) => (.error failure, next)

/-- Read events from a cursor on; the second result is the new cursor. -/
def readDirectoryEvents (vfs : Vfs) (directory generation cursor length : Nat) :
    Except Error (List DirectoryChange) × Nat :=
  match vfs.validateDirectoryGeneration directory generation with
  | .error failure => (.error failure, cursor)
  | .ok _ =>
    if length = 0 then (.ok [], cursor)
    else if cursor > vfs.directoryEventSequence then (.error .corruptState, cursor)
    else if cursor = vfs.directoryEventSequence then (.ok [], cursor)
    else if cursor + 1 < vfs.earliestEvent then
      (.ok [{
        sequence := vfs.earliestEvent - 1
        directory := directory
        directoryGeneration := generation
        flags := some .overflow }], vfs.earliestEvent - 1)
    else vfs.collectEvents directory generation length
      (List.range' (cursor + 1) (vfs.directoryEventSequence - cursor)) cursor

end Vfs

end ZigOs.RuntimeVfs
