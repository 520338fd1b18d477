/-
This file models the descriptor system: a namespace of descriptors for each
process slot, the open descriptions they share by reference count, and the
pipes. A call works on three subsystems at once, so its state is the descriptor
system together with the filesystem and the process table.
-/

import ZigOs.Lib.RingBuffer
import ZigOs.RuntimeTty.Tty
import ZigOs.RuntimeVfs.Open
import ZigOs.RuntimeFd.Locks

namespace ZigOs.RuntimeFd

open Scan RuntimeProcess RuntimeVfs RuntimeTty Call Function

abbrev maximumDescriptorsPerProcess : Nat := 32
abbrev maximumOpenDescriptions : Nat := 96
abbrev maximumPipes : Nat := 32
abbrev maximumDirectoryEventBatch : Nat := 16
abbrev directoryEventSize : Nat := 64
abbrev pipeCapacity : Nat := 1024
abbrev invalidOpenDescription : Nat := 0xFFFF
abbrev invalidResource : Nat := 0xFFFF

/-! ### Tables -/

inductive DescriptionKind where
  | terminal | vfs | pipeRead | pipeWrite | udpSocket | tcpSocket | directoryWatch
  deriving DecidableEq, Repr

inductive IoStatus where
  | complete | eof | blocked
  deriving DecidableEq, Repr

/-- The result of a read or a write; `bytes` are those a read put into the caller's buffer. -/
structure IoResult where
  status : IoStatus
  count : Nat := 0
  wakeups : Nat := 0
  bytes : Bytes := []
  deriving DecidableEq, Repr

inductive LockResult where
  | acquired | blocked
  deriving DecidableEq, Repr

structure ExternalResource where
  index : Nat
  generation : Nat
  deriving DecidableEq, Repr

structure Descriptor where
  used : Bool := false
  openIndex : Nat := invalidOpenDescription
  closeOnExec : Bool := false
  deriving DecidableEq, Repr

structure Namespace where
  used : Bool := false
  ownerHandle : Nat := 0
  descriptors : Nat → Descriptor := fun _ => {}

structure OpenDescription where
  used : Bool := false
  generation : Nat := 0
  kind : DescriptionKind := .terminal
  references : Nat := 0
  readable : Bool := false
  writable : Bool := false
  append : Bool := false
  resourceIndex : Nat := invalidResource
  resourceGeneration : Nat := 0
  vfsOwner : Nat := 0
  vfsHandle : Nat := 0
  advisoryLock : AdvisoryLock := .none
  byteRangeLocks : List ByteRangeLock := []
  watchNode : Nat := RuntimeVfs.invalidNode
  watchGeneration : Nat := 0
  watchCursor : Nat := 0
  deriving DecidableEq, Repr

structure Pipe where
  used : Bool := false
  generation : Nat := 0
  bytes : Nat → UInt8 := fun _ => 0
  readCursor : Nat := 0
  writeCursor : Nat := 0
  count : Nat := 0
  readers : Nat := 0
  writers : Nat := 0

structure System where
  namespaces : Nat → Namespace := fun _ => {}
  openDescriptions : Nat → OpenDescription := fun _ => {}
  pipes : Nat → Pipe := fun _ => {}
  terminalBackend : Option Tty := none
  -- Whether the network stack closes a resource; its answer may depend on the calls before.
  externalClose : Option (Nat → Nat → Nat → Bool) := none
  externalCalls : Nat := 0

/-- The three subsystems a descriptor call works on. -/
structure Kernel where
  system : System := {}
  vfs : Vfs := Vfs.initialized
  processes : Table

abbrev KernelCall := Call Error Kernel

def nextGeneration (current : Nat) : Nat := nextNonzero 16 current

def makeOpenId (index generation : Nat) : Nat := generation * 2 ^ 16 + (index + 1)

def fileLockWaitKey (node generation : Nat) : Nat := generation * 2 ^ 32 + node

def pipeWaitKey (index generation : Nat) : Nat := generation * 2 ^ 32 + (index + 1)

def processSlot (handle : Nat) : Except Error Nat :=
  if handle % 2 ^ 32 ≥ maximumProcesses then .error .invalidHandle else .ok (handle % 2 ^ 32)

/-! ### Descriptions and pipes as values -/

/-- Hold one reference more. -/
def OpenDescription.retain (description : OpenDescription) : OpenDescription :=
  { description with references := description.references + 1 }

/-- Hold one reference less. -/
def OpenDescription.release (description : OpenDescription) : OpenDescription :=
  { description with references := description.references - 1 }

def OpenDescription.socket (description : OpenDescription) : Bool :=
  description.kind == .udpSocket || description.kind == .tcpSocket

/-- The description holds a handle of the filesystem. -/
def OpenDescription.holdsHandle (description : OpenDescription) : Bool :=
  description.kind == .vfs || description.kind == .terminal && description.vfsHandle != 0

/-- What a new description is made of. -/
structure NewDescription where
  kind : DescriptionKind
  readable : Bool
  writable : Bool
  append : Bool := false
  resourceIndex : Nat := invalidResource
  resourceGeneration : Nat := 0
  vfsOwner : Nat := 0
  vfsHandle : Nat := 0
  watchNode : Nat := RuntimeVfs.invalidNode
  watchGeneration : Nat := 0
  watchCursor : Nat := 0

def NewDescription.description (new : NewDescription) (generation : Nat) : OpenDescription :=
  { used := true
    generation := generation
    kind := new.kind
    references := 1
    readable := new.readable
    writable := new.writable
    append := new.append
    resourceIndex := new.resourceIndex
    resourceGeneration := new.resourceGeneration
    vfsOwner := new.vfsOwner
    vfsHandle := new.vfsHandle
    watchNode := new.watchNode
    watchGeneration := new.watchGeneration
    watchCursor := new.watchCursor }

/-- The buffered bytes of a pipe, oldest first. -/
def Pipe.contents (pipe : Pipe) : Bytes :=
  RingBuffer.contents pipeCapacity pipe.bytes pipe.readCursor pipe.count

def Pipe.read (pipe : Pipe) (length : Nat) : Bytes × Pipe :=
  let count := min length pipe.count
  (RingBuffer.copyOut pipeCapacity pipe.bytes pipe.readCursor count,
    { pipe with
      readCursor := (pipe.readCursor + count) % pipeCapacity
      count := pipe.count - count })

def Pipe.write (pipe : Pipe) (bytes : Bytes) : Nat × Pipe :=
  let count := min bytes.length (pipeCapacity - pipe.count)
  (count,
    { pipe with
      bytes := RingBuffer.copyIn pipeCapacity pipe.bytes pipe.writeCursor (bytes.take count)
      writeCursor := (pipe.writeCursor + count) % pipeCapacity
      count := pipe.count + count })

/-- A pipe without ends is free, and its slot keeps its generation. -/
def Pipe.releaseIfUnused (pipe : Pipe) : Pipe :=
  if pipe.readers ≠ 0 ∨ pipe.writers ≠ 0 then pipe else { generation := pipe.generation }

namespace System

def modifyNamespace (system : System) (slot : Nat) (step : Namespace → Namespace) : System :=
  { system with namespaces := update system.namespaces slot (step (system.namespaces slot)) }

def setDescriptor (system : System) (slot fd : Nat) (descriptor : Descriptor) : System :=
  system.modifyNamespace slot fun entry =>
    { entry with descriptors := update entry.descriptors fd descriptor }

def modifyDescription (system : System) (index : Nat) (step : OpenDescription → OpenDescription) :
    System :=
  { system with
    openDescriptions := update system.openDescriptions index
      (step (system.openDescriptions index)) }

def modifyPipe (system : System) (index : Nat) (step : Pipe → Pipe) : System :=
  { system with pipes := update system.pipes index (step (system.pipes index)) }

def initializeDescription (system : System) (index : Nat) (new : NewDescription) : System :=
  system.modifyDescription index fun old => new.description (nextGeneration old.generation)

def clearDescription (system : System) (index : Nat) : System :=
  system.modifyDescription index fun old => { generation := old.generation }

/-- Install a new description under a descriptor. -/
def installDescription (system : System) (slot fd index : Nat) (new : NewDescription)
    (closeOnExec : Bool) : System :=
  (system.initializeDescription index new).setDescriptor slot fd
    { used := true, openIndex := index, closeOnExec }

/-! ### Lookups -/

def descriptorCount (system : System) (slot : Nat) : Nat :=
  countIndex maximumDescriptorsPerProcess fun fd => ((system.namespaces slot).descriptors fd).used

/-- Some descriptor of the namespace names the description. -/
def names (system : System) (slot index : Nat) : Bool :=
  (firstIndex maximumDescriptorsPerProcess fun fd =>
    ((system.namespaces slot).descriptors fd).used &&
      ((system.namespaces slot).descriptors fd).openIndex == index).isSome

/-- The number of different socket descriptions a namespace names. -/
def socketDescriptionCount (system : System) (slot : Nat) : Nat :=
  countIndex maximumOpenDescriptions fun index =>
    system.names slot index && (system.openDescriptions index).used &&
      (system.openDescriptions index).socket

def resolveNamespace (system : System) (handle : Nat) : Except Error Nat :=
  match processSlot handle with
  | .error failure => .error failure
  | .ok slot =>
    if (system.namespaces slot).used = false ∨ (system.namespaces slot).ownerHandle ≠ handle then
      .error .namespaceMissing
    else .ok slot

def resolveDescriptor (system : System) (slot fd : Nat) : Except Error Nat :=
  let descriptor := (system.namespaces slot).descriptors fd
  let description := system.openDescriptions descriptor.openIndex
  if fd ≥ maximumDescriptorsPerProcess then .error .badDescriptor
  else if descriptor.used = false ∨ descriptor.openIndex ≥ maximumOpenDescriptions then
    .error .badDescriptor
  else if description.used = false ∨ description.references = 0 then .error .badDescriptor
  else .ok descriptor.openIndex

def resolvePipe (system : System) (description : OpenDescription) : Except Error Nat :=
  let pipe := system.pipes description.resourceIndex
  if description.resourceIndex ≥ maximumPipes then .error .corruptState
  else if pipe.used = false ∨ pipe.generation ≠ description.resourceGeneration then
    .error .corruptState
  else .ok description.resourceIndex

def requireDescriptorCapacity (system : System) (slot : Nat) (process : Process)
    (additional : Nat) : Except Error Unit :=
  if system.descriptorCount slot + additional > process.limits.maximumDescriptors then
    .error .descriptorLimit
  else .ok ()

def findFreeDescriptors (system : System) (slot count : Nat) : Except Error (List Nat) :=
  match firstIndices maximumDescriptorsPerProcess count fun fd =>
      !((system.namespaces slot).descriptors fd).used with
  | some found => .ok found
  | none => .error .descriptorLimit

def findFreeOpenDescriptions (system : System) (count : Nat) : Except Error (List Nat) :=
  match firstIndices maximumOpenDescriptions count fun index =>
      !(system.openDescriptions index).used with
  | some found => .ok found
  | none => .error .openDescriptionLimit

def findFreePipe (system : System) : Except Error Nat :=
  match firstIndex maximumPipes fun index => !(system.pipes index).used with
  | some index => .ok index
  | none => .error .pipeLimit

/-! ### Lock conflicts -/

/-- A description other than the requester's that is open on the file and holds locks of some
sort excludes the request. Looking up another holder may fail, and then the request fails too. -/
def conflictsAmong (system : System) (vfs : Vfs) (owner node generation : Nat)
    (holds excludes : OpenDescription → Bool) : List Nat → Except Error Bool
  | [] => .ok false
  | index :: rest =>
    let other := system.openDescriptions index
    if index = owner ∨ other.used = false ∨ other.kind ≠ .vfs ∨ holds other = false then
      system.conflictsAmong vfs owner node generation holds excludes rest
    else match vfs.openInfo other.vfsOwner other.vfsHandle with
      | .error failure => .error failure
      | .ok info =>
        if (info.node = node ∧ info.nodeGeneration = generation) ∧ excludes other = true then
          .ok true
        else system.conflictsAmong vfs owner node generation holds excludes rest

def advisoryLockConflicts (system : System) (vfs : Vfs) (owner node generation : Nat)
    (requested : AdvisoryLock) : Except Error Bool :=
  system.conflictsAmong vfs owner node generation (fun other => other.advisoryLock != .none)
    (fun other => requested == .exclusive || other.advisoryLock == .exclusive)
    (List.range maximumOpenDescriptions)

/-- One of the locks excludes a request for a range. -/
def rangeExcluded (locks : List ByteRangeLock) (start stop : Nat) (requested : AdvisoryLock) :
    Bool :=
  locks.any fun lock => rangesOverlap start stop lock.start lock.stop &&
    (requested == .exclusive || lock.kind == .exclusive)

def byteRangeLockConflicts (system : System) (vfs : Vfs) (owner node generation start stop : Nat)
    (requested : AdvisoryLock) : Except Error Bool :=
  system.conflictsAmong vfs owner node generation (fun other => other.byteRangeLocks != [])
    (fun other => rangeExcluded other.byteRangeLocks start stop requested)
    (List.range maximumOpenDescriptions)

end System

namespace Kernel

/-! ### Working on one subsystem -/

def inVfs {Value : Type} (call : VfsCall Value) : KernelCall Value :=
  call.within Kernel.vfs fun vfs kernel => { kernel with vfs }

def inProcesses {Value : Type} (call : TableCall Value) : KernelCall Value :=
  call.within Kernel.processes fun processes kernel => { kernel with processes }

def changeSystem (step : System → System) : KernelCall Unit :=
  Call.change fun kernel => { kernel with system := step kernel.system }

/-- Wake everyone who sleeps on a reason and target, and count them. -/
def wakeAll (reason : WaitReason) (target : Nat) : KernelCall Nat where
  run kernel :=
    let (count, processes) := kernel.processes.wakeMatching reason target true
    (.ok count, { kernel with processes })

/-- The process and the namespace a call is made for. -/
def caller (handle : Nat) : KernelCall (Process × Nat) := do
  let kernel ← Call.state
  let process ← Call.lift (kernel.processes.get handle)
  let slot ← Call.lift (kernel.system.resolveNamespace handle)
  return (process, slot)

/-- Store the counts of a namespace in its process, within the limits of the process. -/
def syncDescriptorCount (handle : Nat) : KernelCall Unit := do
  let kernel ← Call.state
  let slot ← Call.lift (kernel.system.resolveNamespace handle)
  let process ← Call.lift (kernel.processes.get handle)
  inProcesses (Table.setResourceUsage handle process.memoryPages
    (kernel.system.descriptorCount slot) (kernel.system.socketDescriptionCount slot))

/-! ### Closing -/

/-- Give the last reference's resource back: a handle of the filesystem or a socket. -/
def closeResource (description : OpenDescription) : KernelCall Unit := do
  if description.holdsHandle then
    inVfs (Vfs.close description.vfsOwner description.vfsHandle)
  else if description.socket then do
    let kernel ← Call.state
    match kernel.system.externalClose with
    | none => Call.fail .invalidOperation
    | some closeFn => do
      changeSystem fun system => { system with externalCalls := system.externalCalls + 1 }
      failWhen (closeFn kernel.system.externalCalls description.resourceIndex
        description.resourceGeneration = false) .corruptState
  else return ()

/-- Take an end away from a pipe and wake those who sleep at the other end. -/
def closePipeEnd (description : OpenDescription) : KernelCall Unit := do
  let kernel ← Call.state
  match description.kind with
  | .pipeRead => do
    let index ← Call.lift (kernel.system.resolvePipe description)
    failWhen ((kernel.system.pipes index).readers = 0) .corruptState
    let _ ← wakeAll .pipeWrite (pipeWaitKey index (kernel.system.pipes index).generation)
    changeSystem fun system => system.modifyPipe index fun pipe =>
      Pipe.releaseIfUnused { pipe with readers := pipe.readers - 1 }
  | .pipeWrite => do
    let index ← Call.lift (kernel.system.resolvePipe description)
    failWhen ((kernel.system.pipes index).writers = 0) .corruptState
    let _ ← wakeAll .pipeRead (pipeWaitKey index (kernel.system.pipes index).generation)
    changeSystem fun system => system.modifyPipe index fun pipe =>
      Pipe.releaseIfUnused { pipe with writers := pipe.writers - 1 }
  | _ => return ()

/-- The wait target of those who wait for the locks that the last reference takes along. -/
def advisoryWaitKey (vfs : Vfs) (description : OpenDescription) : Except Error (Option Nat) :=
  if description.references = 1 ∧ description.kind = .vfs ∧
      (description.advisoryLock ≠ .none ∨ description.byteRangeLocks ≠ []) then
    match vfs.openInfo description.vfsOwner description.vfsHandle with
    | .ok info => .ok (some (fileLockWaitKey info.node info.nodeGeneration))
    | .error failure => .error failure
  else .ok none

/-- What happens after the last reference is gone. -/
def retireDescription (index : Nat) (description : OpenDescription) (waitKey : Option Nat) :
    KernelCall Unit := do
  closePipeEnd description
  changeSystem fun system => system.clearDescription index
  match waitKey with
  | some key => do
    let _ ← wakeAll .fileLock key
    return ()
  | none => return ()

def closeDescriptorAt (slot fd : Nat) : KernelCall Unit := do
  let kernel ← Call.state
  let descriptor := (kernel.system.namespaces slot).descriptors fd
  failWhen (descriptor.used = false ∨ descriptor.openIndex ≥ maximumOpenDescriptions)
    .badDescriptor
  let index := descriptor.openIndex
  let description := kernel.system.openDescriptions index
  failWhen (description.used = false ∨ description.references = 0) .corruptState
  let waitKey ← Call.lift (advisoryWaitKey kernel.vfs description)
  if description.references = 1 then do
    closeResource description
    changeSystem fun system =>
      (system.setDescriptor slot fd {}).modifyDescription index OpenDescription.release
    retireDescription index description waitKey
  else
    changeSystem fun system =>
      (system.setDescriptor slot fd {}).modifyDescription index OpenDescription.release

/-- Close the descriptors of a namespace that pass the test, in order, and count them. -/
def closeEach (slot : Nat) (test : Descriptor → Bool) : List Nat → KernelCall Nat
  | [] => Call.ok 0
  | fd :: rest => do
    let kernel ← Call.state
    let descriptor := (kernel.system.namespaces slot).descriptors fd
    if descriptor.used && test descriptor then do
      closeDescriptorAt slot fd
      let closed ← closeEach slot test rest
      return closed + 1
    else closeEach slot test rest

/-! ### Processes and their namespaces -/

/-- Whether each of the three standard streams can be read and written. -/
def standardStreams : List (Bool × Bool) := [(true, false), (false, true), (false, true)]

/-- Install terminals under the given descriptors. -/
def installStreams (slot : Nat) : List ((Nat × Nat) × Bool × Bool) → System → System
  | [], system => system
  | ((fd, index), readable, writable) :: rest, system =>
    installStreams slot rest
      (system.installDescription slot fd index { kind := .terminal, readable, writable } false)

def bindProcess (handle : Nat) (installStandardStreams : Bool) : KernelCall Unit := do
  let kernel ← Call.state
  let process ← Call.lift (kernel.processes.get handle)
  let slot ← Call.lift (processSlot handle)
  failWhen (kernel.system.namespaces slot).used .namespaceExists
  let required := if installStandardStreams then 3 else 0
  failWhen (required > process.limits.maximumDescriptors) .descriptorLimit
  let openSlots ← Call.lift
    (if installStandardStreams then kernel.system.findFreeOpenDescriptions 3 else .ok [])
  inProcesses (Table.setResourceUsage handle process.memoryPages required process.socketCount)
  changeSystem fun system =>
    installStreams slot (((List.range 3).zip openSlots).zip standardStreams)
      (system.modifyNamespace slot fun _ => { used := true, ownerHandle := handle })

/-- Why a descriptor cannot be inherited. -/
def inheritFailure (system : System) (slot fd : Nat) : Option Error :=
  let descriptor := (system.namespaces slot).descriptors fd
  let description := system.openDescriptions descriptor.openIndex
  if descriptor.used = false then none
  else if descriptor.openIndex ≥ maximumOpenDescriptions ∨ description.used = false then
    some .corruptState
  else if description.references = 0xFFFF then some .referenceOverflow
  else none

def requireInheritable (system : System) (slot : Nat) : Except Error Unit :=
  match (List.range maximumDescriptorsPerProcess).findSome? (inheritFailure system slot) with
  | some failure => .error failure
  | none => .ok ()

/-- Count a reference for the descriptor of a namespace, if there is one. -/
def retainDescriptor (slot : Nat) (system : System) (fd : Nat) : System :=
  let descriptor := (system.namespaces slot).descriptors fd
  if descriptor.used then system.modifyDescription descriptor.openIndex OpenDescription.retain
  else system

def cloneProcess (sourceHandle targetHandle : Nat) : KernelCall Nat := do
  let kernel ← Call.state
  let _ ← Call.lift (kernel.processes.get sourceHandle)
  let target ← Call.lift (kernel.processes.get targetHandle)
  let sourceSlot ← Call.lift (kernel.system.resolveNamespace sourceHandle)
  let targetSlot ← Call.lift (processSlot targetHandle)
  failWhen (kernel.system.namespaces targetSlot).used .namespaceExists
  let count := kernel.system.descriptorCount sourceSlot
  let socketCount := kernel.system.socketDescriptionCount sourceSlot
  failWhen (count > target.limits.maximumDescriptors) .descriptorLimit
  failWhen (socketCount > target.limits.maximumSockets) .quotaExceeded
  Call.lift (requireInheritable kernel.system sourceSlot)
  inProcesses (Table.setResourceUsage targetHandle target.memoryPages count socketCount)
  changeSystem fun system =>
    (List.range maximumDescriptorsPerProcess).foldl (retainDescriptor targetSlot)
      (system.modifyNamespace targetSlot fun _ =>
        { used := true
          ownerHandle := targetHandle
          descriptors := (system.namespaces sourceSlot).descriptors })
  return count

def releaseProcess (handle : Nat) : KernelCall Nat := do
  let (_, slot) ← caller handle
  let closed ← closeEach slot (fun _ => true) (List.range maximumDescriptorsPerProcess)
  changeSystem fun system => system.modifyNamespace slot fun _ => {}
  let kernel ← Call.state
  let process ← Call.lift (kernel.processes.get handle)
  inProcesses (Table.setResourceUsage handle process.memoryPages 0 process.socketCount)
  return closed

/-- Empty the namespaces among the given slots whose owner no longer exists. -/
def sweepEach : List Nat → KernelCall Nat
  | [] => Call.ok 0
  | slot :: rest => do
    let kernel ← Call.state
    let entry := kernel.system.namespaces slot
    if entry.used = false ∨ (kernel.processes.get entry.ownerHandle).isOk then sweepEach rest
    else do
      let _ ← closeEach slot (fun _ => true) (List.range maximumDescriptorsPerProcess)
      changeSystem fun system => system.modifyNamespace slot fun _ => {}
      let swept ← sweepEach rest
      return swept + 1

def sweepStaleNamespaces : KernelCall Nat := sweepEach (List.range maximumProcesses)

/-! ### New descriptors -/

/-- Undo an installation whose quota could not be stored. -/
def rollback (slot fd index : Nat) (failure : Error) : KernelCall Unit := do
  changeSystem fun system => (system.setDescriptor slot fd {}).clearDescription index
  Call.fail failure

/-- Install a description and store the new counts, or undo the installation; the handle a
description holds is closed then, as far as that is possible. -/
def installOrUndo (handle slot fd index : Nat) (new : NewDescription) (closeOnExec : Bool) :
    KernelCall Unit := do
  changeSystem fun system => system.installDescription slot fd index new closeOnExec
  let synced ← Call.attempt (syncDescriptorCount handle)
  match synced with
  | .ok _ => return ()
  | .error failure => do
    if new.vfsHandle ≠ 0 then do
      let _ ← Call.attempt (inVfs (Vfs.close new.vfsOwner new.vfsHandle))
      rollback slot fd index failure
    else rollback slot fd index failure

/-- A free descriptor and a free description, if the process may have one more. -/
def findFreeSlots (slot : Nat) (process : Process) : KernelCall (Nat × Nat) := do
  let kernel ← Call.state
  Call.lift (kernel.system.requireDescriptorCapacity slot process 1)
  let fds ← Call.lift (kernel.system.findFreeDescriptors slot 1)
  let opens ← Call.lift (kernel.system.findFreeOpenDescriptions 1)
  return (fds.headD 0, opens.headD 0)

def openFileAt (handle directory : Nat) (path : Bytes) (flags : OpenFlags) (mode : BitVec 16)
    (tick : Nat) : KernelCall Nat := do
  let (process, slot) ← caller handle
  let (fd, index) ← findFreeSlots slot process
  let kernel ← Call.state
  let owner := makeOpenId index
    (nextGeneration (kernel.system.openDescriptions index).generation)
  failWhen (flags.create ∧ validStoredMode mode = false) .invalidPath
  let vfsHandle ← inVfs (Vfs.openOwned owner directory path flags
    (applyCreationUmask mode (BitVec.ofNat 16 process.umask)) ⟨process.uid, process.gid⟩ tick)
  let kernel ← Call.state
  let stream ← Call.lift (kernel.vfs.pseudoStreamOpen owner vfsHandle)
  let kind : DescriptionKind := if stream = some .console then .terminal else .vfs
  if kind = .terminal ∧ kernel.system.terminalBackend.isNone then do
    inVfs (Vfs.close owner vfsHandle)
    Call.fail .invalidOperation
  else do
    installOrUndo handle slot fd index
      { kind
        readable := flags.read
        writable := flags.write
        append := flags.append
        vfsOwner := owner
        vfsHandle } false
    return fd

def openFile (handle : Nat) (path : Bytes) (flags : OpenFlags) (mode : BitVec 16) (tick : Nat) :
    KernelCall Nat := do
  let kernel ← Call.state
  let process ← Call.lift (kernel.processes.get handle)
  openFileAt handle process.cwdNode path flags mode tick

def createDirectoryWatch (handle directoryFd : Nat) : KernelCall Nat := do
  let (process, slot) ← caller handle
  let kernel ← Call.state
  let sourceIndex ← Call.lift (kernel.system.resolveDescriptor slot directoryFd)
  let source := kernel.system.openDescriptions sourceIndex
  failWhen (source.kind ≠ .vfs) .notDirectory
  let info ← Call.lift (kernel.vfs.openInfo source.vfsOwner source.vfsHandle)
  let nodeStat ← Call.lift (kernel.vfs.statNode info.node)
  failWhen (nodeStat.kind ≠ .directory ∨ nodeStat.generation ≠ info.nodeGeneration)
    .notDirectory
  let (fd, index) ← findFreeSlots slot process
  let cursor ← Call.lift (kernel.vfs.directoryEventCursor info.node info.nodeGeneration)
  installOrUndo handle slot fd index
    { kind := .directoryWatch
      readable := true
      writable := false
      watchNode := info.node
      watchGeneration := info.nodeGeneration
      watchCursor := cursor } false
  return fd

def createExternalDescriptor (handle : Nat) (kind : DescriptionKind) (resource : ExternalResource)
    (readable writable closeOnExec : Bool) : KernelCall Nat := do
  failWhen ((kind ≠ .udpSocket ∧ kind ≠ .tcpSocket) ∨ resource.index = invalidResource ∨
    resource.generation = 0) .invalidOperation
  let (process, slot) ← caller handle
  let kernel ← Call.state
  Call.lift (kernel.system.requireDescriptorCapacity slot process 1)
  failWhen (kernel.system.socketDescriptionCount slot ≥ process.limits.maximumSockets)
    .quotaExceeded
  let (fd, index) ← findFreeSlots slot process
  installOrUndo handle slot fd index
    { kind
      readable
      writable
      resourceIndex := resource.index
      resourceGeneration := resource.generation } closeOnExec
  return fd

/-- A pipe with its two ends under two descriptors. -/
def installPipe (system : System) (slot readFd writeFd readIndex writeIndex pipe : Nat) : System :=
  let generation := nextGeneration (system.pipes pipe).generation
  let created := system.modifyPipe pipe fun _ =>
    { used := true, generation, readers := 1, writers := 1 }
  (created.installDescription slot readFd readIndex
    { kind := .pipeRead
      readable := true
      writable := false
      resourceIndex := pipe
      resourceGeneration := generation } false).installDescription slot writeFd writeIndex
    { kind := .pipeWrite
      readable := false
      writable := true
      resourceIndex := pipe
      resourceGeneration := generation } false

def createPipe (handle : Nat) : KernelCall (Nat × Nat) := do
  let (process, slot) ← caller handle
  let kernel ← Call.state
  Call.lift (kernel.system.requireDescriptorCapacity slot process 2)
  let fds ← Call.lift (kernel.system.findFreeDescriptors slot 2)
  let opens ← Call.lift (kernel.system.findFreeOpenDescriptions 2)
  let pipe ← Call.lift kernel.system.findFreePipe
  let readFd := fds.headD 0
  let writeFd := fds.getLastD 0
  changeSystem fun system =>
    installPipe system slot readFd writeFd (opens.headD 0) (opens.getLastD 0) pipe
  syncDescriptorCount handle
  return (readFd, writeFd)

/-! ### Duplication -/

/-- Let one more descriptor name a description. -/
def shareDescription (slot fd index : Nat) (system : System) : System :=
  (system.modifyDescription index OpenDescription.retain).setDescriptor slot fd
    { used := true, openIndex := index }

def duplicate (handle sourceFd : Nat) : KernelCall Nat := do
  let (process, slot) ← caller handle
  let kernel ← Call.state
  Call.lift (kernel.system.requireDescriptorCapacity slot process 1)
  let source ← Call.lift (kernel.system.resolveDescriptor slot sourceFd)
  failWhen ((kernel.system.openDescriptions source).references = 0xFFFF) .referenceOverflow
  let fds ← Call.lift (kernel.system.findFreeDescriptors slot 1)
  let target := fds.headD 0
  changeSystem (shareDescription slot target source)
  syncDescriptorCount handle
  return target

def duplicateTo (handle sourceFd targetFd : Nat) : KernelCall Nat := do
  failWhen (targetFd ≥ maximumDescriptorsPerProcess) .badDescriptor
  let (process, slot) ← caller handle
  let kernel ← Call.state
  let source ← Call.lift (kernel.system.resolveDescriptor slot sourceFd)
  if sourceFd = targetFd then return targetFd
  else do
    let targetUsed := ((kernel.system.namespaces slot).descriptors targetFd).used
    Call.lift (if targetUsed then .ok () else kernel.system.requireDescriptorCapacity slot process 1)
    failWhen ((kernel.system.openDescriptions source).references = 0xFFFF) .referenceOverflow
    if targetUsed then closeDescriptorAt slot targetFd else pure ()
    changeSystem (shareDescription slot targetFd source)
    syncDescriptorCount handle
    return targetFd

/-- The end of a pipe that a pipeline child takes as a standard stream. -/
def requirePipeEnd (system : System) (slot : Nat) (kind : DescriptionKind) (failure : Error) :
    Option Nat → Except Error Unit
  | none => .ok ()
  | some fd =>
    if fd < 3 then .error .invalidOperation
    else match system.resolveDescriptor slot fd with
      | .error failure => .error failure
      | .ok index =>
        let description := system.openDescriptions index
        let allowed := if kind = .pipeRead then description.readable else description.writable
        if description.kind ≠ kind ∨ allowed = false then .error failure
        else if description.references = 0xFFFF then .error .referenceOverflow
        else .ok ()

/-- Duplicate a descriptor onto a standard stream, if one is given. -/
def duplicateStream (handle : Nat) (source : Option Nat) (targetFd : Nat) : KernelCall Unit := do
  match source with
  | some fd => do
    let _ ← duplicateTo handle fd targetFd
    return ()
  | none => return ()

def configurePipelineChild (handle : Nat) (stdinSource stdoutSource : Option Nat) :
    KernelCall Nat := do
  let (_, slot) ← caller handle
  failWhen (stdinSource = none ∧ stdoutSource = none) .invalidOperation
  let kernel ← Call.state
  Call.lift (requirePipeEnd kernel.system slot .pipeRead .notReadable stdinSource)
  Call.lift (requirePipeEnd kernel.system slot .pipeWrite .notWritable stdoutSource)
  duplicateStream handle stdinSource 0
  duplicateStream handle stdoutSource 1
  let closed ← closeEach slot (fun _ => true)
    (List.range' 3 (maximumDescriptorsPerProcess - 3))
  syncDescriptorCount handle
  return closed

/-! ### Closing by descriptor -/

def setCloseOnExec (handle fd : Nat) (enabled : Bool) : KernelCall Unit := do
  let (_, slot) ← caller handle
  let kernel ← Call.state
  let _ ← Call.lift (kernel.system.resolveDescriptor slot fd)
  changeSystem fun system => system.setDescriptor slot fd
    { (system.namespaces slot).descriptors fd with closeOnExec := enabled }

def closeOnExec (handle : Nat) : KernelCall Nat := do
  let (_, slot) ← caller handle
  let closed ← closeEach slot Descriptor.closeOnExec (List.range maximumDescriptorsPerProcess)
  syncDescriptorCount handle
  return closed

def close (handle fd : Nat) : KernelCall Unit := do
  let (_, slot) ← caller handle
  let kernel ← Call.state
  let _ ← Call.lift (kernel.system.resolveDescriptor slot fd)
  closeDescriptorAt slot fd
  syncDescriptorCount handle

def closeAll (handle : Nat) : KernelCall Nat := do
  let (_, slot) ← caller handle
  let closed ← closeEach slot (fun _ => true) (List.range maximumDescriptorsPerProcess)
  syncDescriptorCount handle
  return closed

/-! ### Reading and writing -/

/-- The little-endian bytes of a number. -/
def littleEndian (width value : Nat) : Bytes :=
  (List.range width).map fun index => UInt8.ofNat (value / 256 ^ index)

def kindCode : RuntimeVfs.Kind → Nat
  | .file => 0
  | .directory => 1
  | .pseudo => 2
  | .symlink => 3

def eventCode : Option DirectoryEvent → Nat
  | none => 0
  | some .created => 1
  | some .removed => 2
  | some .renameFrom => 4
  | some .renameTo => 8
  | some .overflow => 16

/-- The record of a directory event that a watcher reads. -/
def encodeEvent (change : DirectoryChange) : Bytes :=
  littleEndian 8 change.sequence ++ littleEndian 4 change.node ++
    littleEndian 2 change.generation ++ littleEndian 1 (kindCode change.kind) ++
    littleEndian 1 (eventCode change.flags) ++ littleEndian 2 change.name.length ++
    List.replicate 6 0 ++ (change.name ++ List.replicate (32 - change.name.length) 0) ++
    List.replicate 8 0

def readTerminal (handle length : Nat) : KernelCall IoResult := do
  let kernel ← Call.state
  match kernel.system.terminalBackend with
  | none => return { status := .eof }
  | some terminal => do
    let (status, bytes, after) ← inProcesses (terminal.read handle length)
    changeSystem fun system => { system with terminalBackend := some after }
    match status with
    | .complete => return { status := .complete, count := bytes.length, bytes }
    | .eof => return { status := .eof }
    | .blocked => return { status := .blocked }

def readVfs (description : OpenDescription) (length : Nat) (tick : Option Nat) :
    KernelCall IoResult := do
  let bytes ← inVfs
    (Vfs.readOpenInternal description.vfsOwner description.vfsHandle length tick)
  if bytes = [] then return { status := .eof }
  else return { status := .complete, count := bytes.length, bytes }

def readWatch (index length : Nat) : KernelCall IoResult := do
  failWhen (length < directoryEventSize ∨ length % directoryEventSize ≠ 0) .invalidOperation
  let kernel ← Call.state
  let watch := kernel.system.openDescriptions index
  let capacity := min (length / directoryEventSize) maximumDirectoryEventBatch
  let (changes, cursor) := kernel.vfs.readDirectoryEvents watch.watchNode watch.watchGeneration
    watch.watchCursor capacity
  changeSystem fun system => system.modifyDescription index fun description =>
    { description with watchCursor := cursor }
  let changes ← Call.lift changes
  failWhen (changes = []) .wouldBlock
  let bytes := changes.flatMap encodeEvent
  return { status := .complete, count := bytes.length, bytes }

def readPipe (handle length : Nat) (description : OpenDescription) : KernelCall IoResult := do
  let kernel ← Call.state
  let index ← Call.lift (kernel.system.resolvePipe description)
  let pipe := kernel.system.pipes index
  if pipe.count ≠ 0 then do
    changeSystem fun system => system.modifyPipe index fun pipe => (pipe.read length).2
    let wakeups ← wakeAll .pipeWrite (pipeWaitKey index pipe.generation)
    let bytes := (pipe.read length).1
    return { status := .complete, count := bytes.length, wakeups, bytes }
  else if pipe.writers = 0 then return { status := .eof }
  else do
    inProcesses (Table.block handle .pipeRead (pipeWaitKey index pipe.generation))
    return { status := .blocked }

def readInternal (handle fd length : Nat) (tick : Option Nat) : KernelCall IoResult := do
  let (_, slot) ← caller handle
  let kernel ← Call.state
  let index ← Call.lift (kernel.system.resolveDescriptor slot fd)
  let description := kernel.system.openDescriptions index
  failWhen (description.readable = false) .notReadable
  if length = 0 then return { status := .complete }
  else match description.kind with
    | .terminal => readTerminal handle length
    | .udpSocket => Call.fail .invalidOperation
    | .tcpSocket => Call.fail .invalidOperation
    | .vfs => readVfs description length tick
    | .directoryWatch => readWatch index length
    | .pipeRead => readPipe handle length description
    | .pipeWrite => Call.fail .notReadable

def read (handle fd length : Nat) : KernelCall IoResult := readInternal handle fd length none

def readAtTick (handle fd length tick : Nat) : KernelCall IoResult :=
  readInternal handle fd length (some tick)

def writePipe (handle : Nat) (bytes : Bytes) (description : OpenDescription) :
    KernelCall IoResult := do
  let kernel ← Call.state
  let index ← Call.lift (kernel.system.resolvePipe description)
  let pipe := kernel.system.pipes index
  failWhen (pipe.readers = 0) .brokenPipe
  if pipe.count = pipeCapacity then do
    inProcesses (Table.block handle .pipeWrite (pipeWaitKey index pipe.generation))
    return { status := .blocked }
  else do
    changeSystem fun system => system.modifyPipe index fun pipe => (pipe.write bytes).2
    let wakeups ← wakeAll .pipeRead (pipeWaitKey index pipe.generation)
    return { status := .complete, count := (pipe.write bytes).1, wakeups }

def write (handle fd : Nat) (bytes : Bytes) (tick : Nat) : KernelCall IoResult := do
  let (_, slot) ← caller handle
  let kernel ← Call.state
  let index ← Call.lift (kernel.system.resolveDescriptor slot fd)
  let description := kernel.system.openDescriptions index
  failWhen (description.writable = false) .notWritable
  if bytes = [] then return { status := .complete }
  else match description.kind with
    | .terminal => return { status := .complete, count := bytes.length }
    | .udpSocket => Call.fail .invalidOperation
    | .tcpSocket => Call.fail .invalidOperation
    | .directoryWatch => Call.fail .invalidOperation
    | .vfs => do
      let count ← inVfs (Vfs.writeOpen description.vfsOwner description.vfsHandle bytes tick)
      return { status := .complete, count }
    | .pipeWrite => writePipe handle bytes description
    | .pipeRead => Call.fail .notWritable

/-! ### Advisory locks -/

def setAdvisoryLock (index : Nat) (lock : AdvisoryLock) : KernelCall Unit :=
  changeSystem fun system => system.modifyDescription index fun description =>
    { description with advisoryLock := lock }

def setByteRangeLocks (index : Nat) (locks : List ByteRangeLock) : KernelCall Unit :=
  changeSystem fun system => system.modifyDescription index fun description =>
    { description with byteRangeLocks := locks }

/-- The description a lock is asked for and the file it is open on. -/
def lockTarget (slot fd : Nat) : KernelCall (Nat × Vfs.OpenInfo) := do
  let kernel ← Call.state
  let index ← Call.lift (kernel.system.resolveDescriptor slot fd)
  let description := kernel.system.openDescriptions index
  failWhen (description.kind ≠ .vfs) .invalidOperation
  let info ← Call.lift (kernel.vfs.openInfo description.vfsOwner description.vfsHandle)
  let nodeStat ← Call.lift (kernel.vfs.statNode info.node)
  failWhen (nodeStat.kind ≠ .file ∨ nodeStat.generation ≠ info.nodeGeneration)
    .invalidOperation
  return (index, info)

/-- Put the caller to sleep on a file's locks, or restore what was given up for that. -/
def blockOnLock (handle key : Nat) (restore : KernelCall Unit) : KernelCall LockResult := do
  let slept ← Call.attempt (inProcesses (Table.block handle .fileLock key))
  match slept with
  | .ok _ => return .blocked
  | .error failure => do
    restore
    Call.fail failure

/-- Ask for a whole-file lock that the description does not hold yet. A shared holder gives up
its own lock before it asks for an exclusive one. -/
def acquireAdvisory (handle index : Nat) (info : Vfs.OpenInfo) (requested : AdvisoryLock)
    (nonblocking : Bool) : KernelCall LockResult := do
  let kernel ← Call.state
  let previous := (kernel.system.openDescriptions index).advisoryLock
  let key := fileLockWaitKey info.node info.nodeGeneration
  if previous = .shared ∧ requested = .exclusive then setAdvisoryLock index .none else pure ()
  let kernel ← Call.state
  let conflicts ← Call.lift (kernel.system.advisoryLockConflicts kernel.vfs index info.node
    info.nodeGeneration requested)
  if conflicts = false then do
    setAdvisoryLock index requested
    return .acquired
  else if nonblocking then do
    setAdvisoryLock index previous
    return .blocked
  else do
    if previous = .shared then do
      let _ ← wakeAll .fileLock key
      blockOnLock handle key (setAdvisoryLock index previous)
    else blockOnLock handle key (setAdvisoryLock index previous)

def flock (handle fd : Nat) (requested : AdvisoryLock) (nonblocking : Bool) :
    KernelCall LockResult := do
  let (_, slot) ← caller handle
  let (index, info) ← lockTarget slot fd
  let kernel ← Call.state
  let held := (kernel.system.openDescriptions index).advisoryLock
  let key := fileLockWaitKey info.node info.nodeGeneration
  if requested = .none then do
    if held = .none then return .acquired
    else do
      setAdvisoryLock index .none
      let _ ← wakeAll .fileLock key
      return .acquired
  else if held = requested then return .acquired
  else if held = .exclusive ∧ requested = .shared then do
    setAdvisoryLock index .shared
    let _ ← wakeAll .fileLock key
    return .acquired
  else acquireAdvisory handle index info requested nonblocking

def lockRange (handle fd startValue lengthValue : Nat) (requested : AdvisoryLock)
    (nonblocking : Bool) : KernelCall LockResult := do
  let kernel ← Call.state
  let _ ← Call.lift (kernel.processes.get handle)
  failWhen (lengthValue = 0 ∨ startValue ≥ maximumFileSize ∨
    lengthValue > maximumFileSize - startValue) .invalidOperation
  let slot ← Call.lift (kernel.system.resolveNamespace handle)
  let (index, info) ← lockTarget slot fd
  let stop := startValue + lengthValue
  let previous := (kernel.system.openDescriptions index).byteRangeLocks
  let key := fileLockWaitKey info.node info.nodeGeneration
  if requested = .none then do
    let locks ← Call.lift (replaceByteRangeLocks previous startValue stop .none)
    setByteRangeLocks index locks
    let _ ← wakeAll .fileLock key
    return .acquired
  else do
    let conflicts ← Call.lift (kernel.system.byteRangeLockConflicts kernel.vfs index info.node
      info.nodeGeneration startValue stop requested)
    if conflicts = false then do
      let locks ← Call.lift (replaceByteRangeLocks previous startValue stop requested)
      -- A range that turns from exclusive to shared wakes nobody.
      setByteRangeLocks index locks
      return .acquired
    else if nonblocking then return .blocked
    else do
      let locks ← Call.lift (replaceByteRangeLocks previous startValue stop .none)
      setByteRangeLocks index locks
      if byteRangeLocksOverlap previous startValue stop then do
        let _ ← wakeAll .fileLock key
        blockOnLock handle key (setByteRangeLocks index previous)
      else blockOnLock handle key (setByteRangeLocks index previous)

end Kernel

end ZigOs.RuntimeFd
