/-
This file models the process table: 64 slots of processes with their parent
links, scheduling states and wait targets, and the calls that spawn, schedule,
block, signal, terminate and reap them. A handle packs the generation of a slot
above its index, so that a handle of a reaped process stops resolving when the
slot is used again.
-/

import ZigOs.Error

namespace ZigOs.RuntimeProcess

open Scan Call

abbrev maximumProcesses : Nat := 64
abbrev maximumNameLength : Nat := 31
abbrev maximumArguments : Nat := 8
abbrev maximumArgumentLength : Nat := 31
abbrev invalidSlot : Nat := 0xFFFF

/-! ### Entries -/

inductive State where
  | free | new | runnable | running | sleeping | blocked | stopped | zombie | faulted
  deriving DecidableEq, Repr

inductive WaitReason where
  | none | sleep | child | terminalRead | pipeRead | pipeWrite | fileLock | socketRead
  | socketWrite | deviceIo
  deriving DecidableEq, Repr

inductive Kind where
  | kernel | userspace
  deriving DecidableEq, Repr

inductive SpawnGroup where
  | inherit
  | newPipeline
  | joinPipeline (group : Nat)
  deriving DecidableEq, Repr

structure Limits where
  maximumPages : Nat := 256
  maximumDescriptors : Nat := 32
  maximumSockets : Nat := 16
  maximumChildren : Nat := 16
  maximumCpuTicks : Nat := 2 ^ 64 - 1
  deriving DecidableEq, Repr

/-- One slot of the table. The name and the arguments are the slices of their fixed arrays. -/
structure Process where
  used : Bool := false
  generation : Nat := 0
  handle : Nat := 0
  pid : Nat := 0
  ppid : Nat := 0
  parentSlot : Nat := invalidSlot
  processGroup : Nat := 0
  session : Nat := 0
  uid : Nat := 0
  gid : Nat := 0
  umask : Nat := 0
  kind : Kind := .userspace
  state : State := .free
  waitReason : WaitReason := .none
  name : Bytes := []
  arguments : List Bytes := []
  cwdNode : Nat := 0
  exitStatus : Nat := 0
  terminalSequence : Nat := 0
  faultVector : Nat := 0
  faultAddress : Nat := 0
  pendingSignals : Nat := 0
  signalMask : Nat := 0
  priority : Nat := 16
  timeSlice : Nat := 4
  remainingSlice : Nat := 4
  startTick : Nat := 0
  wakeTick : Nat := 0
  cpuTicks : Nat := 0
  contextSwitches : Nat := 0
  syscallCount : Nat := 0
  memoryPages : Nat := 0
  descriptorCount : Nat := 0
  socketCount : Nat := 0
  childCount : Nat := 0
  waitTarget : Nat := 0
  waitGroup : Bool := false
  limits : Limits := {}
  deriving DecidableEq, Repr

/-- A process that has exited or faulted and waits to be reaped. -/
def Process.terminal (process : Process) : Bool :=
  process.state == .zombie || process.state == .faulted

structure Status where
  handle : Nat
  pid : Nat
  ppid : Nat
  state : State
  exitStatus : Nat
  faultVector : Nat
  faultAddress : Nat
  cpuTicks : Nat
  syscallCount : Nat
  deriving DecidableEq, Repr

structure Table where
  processes : Nat → Process := fun _ => {}
  nextPid : Nat := 1
  nextTerminalSequence : Nat := 1
  schedulerCursor : Nat := 0
  initHandle : Nat := 0
  totalCreated : Nat := 0
  totalReaped : Nat := 0
  totalContextSwitches : Nat := 0
  totalSignals : Nat := 0
  totalFaults : Nat := 0
  slotReuses : Nat := 0

/-- A call on the table. -/
abbrev TableCall := Call Error Table

def nextGeneration (current : Nat) : Nat := nextNonzero 32 current

def makeHandle (slot generation : Nat) : Nat := generation * 2 ^ 32 + slot

/-- The child count of a parent whose children left; it stops at zero. -/
def Process.loseChildren (count : Nat) (process : Process) : Process :=
  { process with childCount := process.childCount - count }

/-- The child count of a parent that adopted children; it stops at the largest 16-bit number. -/
def Process.gainChildren (count : Nat) (process : Process) : Process :=
  { process with childCount := min (process.childCount + count) 0xFFFF }

/-- Set the bit of a pending signal. -/
def Process.addPending (signal : Nat) (process : Process) : Process :=
  { process with pendingSignals := process.pendingSignals ||| 2 ^ signal }

namespace Table

/-- Replace one slot. -/
def modify (table : Table) (slot : Nat) (step : Process → Process) : Table :=
  { table with processes := Function.update table.processes slot (step (table.processes slot)) }

/-- Replace every used slot that passes the test, as the source's loops over the array do. -/
def modifyWhere (table : Table) (test : Process → Bool) (step : Process → Process) : Table :=
  { table with
    processes := fun slot =>
      if slot < maximumProcesses ∧ (table.processes slot).used ∧ test (table.processes slot)
      then step (table.processes slot) else table.processes slot }

/-- The number of used slots that pass the test. -/
def countWhere (table : Table) (test : Process → Bool) : Nat :=
  countIndex maximumProcesses fun slot =>
    (table.processes slot).used && test (table.processes slot)

/-! ### Lookups -/

def resolve (table : Table) (handle : Nat) : Except Error Nat :=
  let slot := handle % 2 ^ 32
  let generation := handle / 2 ^ 32
  if slot ≥ maximumProcesses then .error .invalidHandle
  else if (table.processes slot).used = false ∨ (table.processes slot).generation ≠ generation ∨
      (table.processes slot).handle ≠ handle then .error .invalidHandle
  else .ok slot

def get (table : Table) (handle : Nat) : Except Error Process :=
  match table.resolve handle with
  | .ok slot => .ok (table.processes slot)
  | .error failure => .error failure

def findPid (table : Table) (pid : Nat) : Option Nat :=
  firstIndex maximumProcesses fun slot =>
    (table.processes slot).used && (table.processes slot).pid == pid

def handleForPid (table : Table) (pid : Nat) : Except Error Nat :=
  match table.findPid pid with
  | some slot => .ok (table.processes slot).handle
  | none => .error .noProcess

/-! ### Creation -/

/-- The process group of a new process. Joining a pipeline needs a leader that is a child of
the same parent, in the same session, and leads the requested group. -/
def spawnProcessGroup (table : Table) (parentSlot pid : Nat) : SpawnGroup → Except Error Nat
  | .inherit =>
    .ok (if parentSlot = invalidSlot then pid else (table.processes parentSlot).processGroup)
  | .newPipeline => if parentSlot = invalidSlot then .error .invalidState else .ok pid
  | .joinPipeline group =>
    if parentSlot = invalidSlot ∨ group = 0 then .error .invalidState
    else match table.findPid group with
      | none => .error .noProcess
      | some leaderSlot =>
        let leader := table.processes leaderSlot
        if leader.parentSlot ≠ parentSlot ∨ leader.session ≠ (table.processes parentSlot).session ∨
            leader.processGroup ≠ group ∨ leader.pid ≠ group
        then .error .permissionDenied else .ok group

def resolveParent (table : Table) : Option Nat → Except Error Nat
  | none => .ok invalidSlot
  | some handle => table.resolve handle

/-- What a spawn is asked for. -/
structure SpawnRequest where
  kind : Kind := .userspace
  name : Bytes
  arguments : List Bytes := []
  cwdNode : Nat := 0
  uid : Nat := 0
  gid : Nat := 0
  tick : Nat := 0
  limits : Limits := {}

/-- The entry of a new process. -/
def newProcess (table : Table) (request : SpawnRequest) (slot parentSlot pid group : Nat) :
    Process :=
  let generation := nextGeneration (table.processes slot).generation
  { used := true
    generation := generation
    handle := makeHandle slot generation
    pid := pid
    ppid := if parentSlot = invalidSlot then 0 else (table.processes parentSlot).pid
    parentSlot := parentSlot
    processGroup := group
    session := if parentSlot = invalidSlot then pid else (table.processes parentSlot).session
    uid := request.uid
    gid := request.gid
    umask := if parentSlot = invalidSlot then 0 else (table.processes parentSlot).umask
    kind := request.kind
    state := .runnable
    name := request.name
    arguments := request.arguments
    cwdNode := request.cwdNode
    startTick := request.tick
    limits := request.limits }

/-- Install a new process and count it as a child of its parent. -/
def install (table : Table) (slot parentSlot : Nat) (process : Process) : Table :=
  let placed := table.modify slot fun _ => process
  let counted := if parentSlot = invalidSlot then placed
    else placed.modify parentSlot fun parent => { parent with childCount := parent.childCount + 1 }
  { counted with totalCreated := wrapIncrement 64 table.totalCreated }

def spawnInternal (parentHandle : Option Nat) (request : SpawnRequest) (group : SpawnGroup) :
    TableCall Nat := do
  failWhen (request.name.length = 0 ∨ request.name.length > maximumNameLength) .nameTooLong
  failWhen (request.arguments.length > maximumArguments) .tooManyArguments
  let table ← Call.state
  let parentSlot ← lift (table.resolveParent parentHandle)
  failWhen (parentSlot ≠ invalidSlot ∧ (table.processes parentSlot).childCount ≥
    (table.processes parentSlot).limits.maximumChildren) .quotaExceeded
  let slot ← lift (match firstIndex maximumProcesses fun slot => !(table.processes slot).used with
      | some slot => .ok slot
      | none => .error .noSlots)
  -- The slot reuse and the pid are consumed before the group and argument checks.
  change fun table =>
    { table with
      slotReuses := if (table.processes slot).generation ≠ 0
        then wrapIncrement 64 table.slotReuses else table.slotReuses
      nextPid := nextNonzero 32 table.nextPid }
  let pid := table.nextPid
  let processGroup ← lift (table.spawnProcessGroup parentSlot pid group)
  failWhen (∃ argument ∈ request.arguments, argument.length > maximumArgumentLength)
    .argumentTooLong
  let process := table.newProcess request slot parentSlot pid processGroup
  change fun table => table.install slot parentSlot process
  return process.handle

def spawn (parentHandle : Option Nat) (request : SpawnRequest) : TableCall Nat :=
  spawnInternal parentHandle request .inherit

def spawnPipeline (parentHandle : Nat) (request : SpawnRequest) (group : SpawnGroup) :
    TableCall Nat := do
  failWhen (group = .inherit) .invalidState
  spawnInternal (some parentHandle) request group

/-- The name and only argument of the first process, `init`. -/
def initName : Bytes := [105, 110, 105, 116]

def initialized (tick : Nat) : Table :=
  match (spawnInternal none { kind := .kernel, name := initName, arguments := [initName], tick }
      .inherit) {} with
  | (.ok handle, table) =>
    { (table.modify 0 fun process => { process with state := .running, contextSwitches := 1 }) with
      initHandle := handle
      totalContextSwitches := 1 }
  | (.error _, table) => table

/-- Turn `init` into the first user process, as long as it has neither children nor pages. -/
def configureInitUserspace (name : Bytes) (arguments : List Bytes) (cwdNode : Nat) :
    TableCall Unit := do
  failWhen (name.length = 0 ∨ name.length > maximumNameLength) .nameTooLong
  failWhen (arguments.length = 0 ∨ arguments.length > maximumArguments) .tooManyArguments
  let table ← Call.state
  let slot ← lift (table.resolve table.initHandle)
  let process := table.processes slot
  failWhen (process.pid ≠ 1 ∨ process.parentSlot ≠ invalidSlot ∨ process.childCount ≠ 0 ∨
    process.memoryPages ≠ 0 ∨ process.descriptorCount > process.limits.maximumDescriptors)
    .invalidState
  failWhen (∃ argument ∈ arguments,
    argument.length = 0 ∨ argument.length > maximumArgumentLength) .argumentTooLong
  change fun table => table.modify slot fun process =>
    { process with
      kind := .userspace
      state := .runnable
      waitReason := .none
      name
      arguments
      cwdNode
      remainingSlice := process.timeSlice
      contextSwitches := 0 }

/-! ### Scheduling -/

def setRunning (handle : Nat) : TableCall Unit := do
  let table ← Call.state
  let target ← lift (table.resolve handle)
  failWhen (table.processes target).terminal .alreadyTerminal
  change fun table =>
    -- The target may be among the demoted: its own state is overwritten just after.
    { ((table.modifyWhere (fun process => process.state == .running)
          fun process => { process with state := .runnable }).modify target fun process =>
        { process with
          state := .running
          waitReason := .none
          wakeTick := 0
          waitTarget := 0
          waitGroup := false
          contextSwitches := wrapIncrement 64 process.contextSwitches }) with
      totalContextSwitches := wrapIncrement 64 table.totalContextSwitches }

def setRunnable (handle : Nat) : TableCall Unit := do
  let table ← Call.state
  let slot ← lift (table.resolve handle)
  failWhen (table.processes slot).terminal .alreadyTerminal
  change fun table => table.modify slot fun process =>
    { process with
      state := .runnable
      waitReason := .none
      wakeTick := 0
      waitTarget := 0
      waitGroup := false }

/-- The caller that gives up the processor can run again. -/
def demote (table : Table) : Option Nat → Table
  | none => table
  | some handle =>
    match table.resolve handle with
    | .error _ => table
    | .ok slot =>
      if (table.processes slot).state = .running then
        table.modify slot fun process => { process with state := .runnable }
      else table

/-- The scheduler may pick this process. -/
def eligible (required : Option Kind) (process : Process) : Bool :=
  process.used && process.state == .runnable && (required == none || required == some process.kind)

/-- Look at so many slots after the cursor and run the first process that may be picked. -/
def scheduleScan (required : Option Kind) : Nat → Table → Option Nat × Table
  | 0, table => (none, table)
  | scans + 1, table =>
    let cursor := (table.schedulerCursor + 1) % maximumProcesses
    let moved := { table with schedulerCursor := cursor }
    if eligible required (table.processes cursor) then
      (some (table.processes cursor).handle, { (moved.modify cursor fun process =>
            { process with
              state := .running
              remainingSlice := max 1 process.timeSlice
              contextSwitches := wrapIncrement 64 process.contextSwitches }) with
          totalContextSwitches := wrapIncrement 64 table.totalContextSwitches })
    else scheduleScan required scans moved

def scheduleNextEligible (table : Table) (current : Option Nat) (required : Option Kind) :
    Option Nat × Table :=
  match scheduleScan required maximumProcesses (table.demote current) with
  | (some handle, scheduled) => (some handle, scheduled)
  | (none, scanned) =>
    match current with
    | none => (none, scanned)
    | some handle =>
      match scanned.resolve handle with
      | .error _ => (none, scanned)
      | .ok slot =>
        if eligible required (scanned.processes slot) then
          (some handle, scanned.modify slot fun process => { process with state := .running })
        else (none, scanned)

def scheduleNext (table : Table) (current : Option Nat) : Option Nat × Table :=
  table.scheduleNextEligible current none

def scheduleNextKind (table : Table) (kind : Kind) (current : Option Nat) : Option Nat × Table :=
  table.scheduleNextEligible current (some kind)

def accountSyscall (handle : Nat) : TableCall Unit := do
  let table ← Call.state
  let slot ← lift (table.resolve handle)
  change fun table => table.modify slot fun process =>
    { process with syscallCount := wrapIncrement 64 process.syscallCount }

def sleep (handle wakeTick : Nat) : TableCall Unit := do
  let table ← Call.state
  let slot ← lift (table.resolve handle)
  failWhen (table.processes slot).terminal .alreadyTerminal
  change fun table => table.modify slot fun process =>
    { process with state := .sleeping, waitReason := .sleep, wakeTick }

def block (handle : Nat) (reason : WaitReason) (target : Nat) : TableCall Unit := do
  failWhen (reason = .none ∨ reason = .sleep) .invalidState
  let table ← Call.state
  let slot ← lift (table.resolve handle)
  failWhen (table.processes slot).terminal .alreadyTerminal
  change fun table => table.modify slot fun process =>
    { process with
      state := .blocked
      waitReason := reason
      waitTarget := target
      waitGroup := false }

def wakeExpired (table : Table) (tick : Nat) : Table :=
  table.modifyWhere (fun process => process.state == .sleeping ∧ process.wakeTick ≤ tick)
    fun process => { process with state := .runnable, waitReason := .none, wakeTick := 0 }

/-- The process sleeps on this reason and target. -/
def sleepsOn (reason : WaitReason) (target : Nat) (process : Process) : Bool :=
  process.state == .blocked && process.waitReason == reason && process.waitTarget == target

def wake (process : Process) : Process :=
  { process with state := .runnable, waitReason := .none, waitTarget := 0 }

/-- Wake every process that sleeps on the target, or only the first one. -/
def wakeMatching (table : Table) (reason : WaitReason) (target : Nat) (all : Bool) : Nat × Table :=
  if all then
    (table.countWhere (sleepsOn reason target), table.modifyWhere (sleepsOn reason target) wake)
  else match firstIndex maximumProcesses fun slot =>
      (table.processes slot).used && sleepsOn reason target (table.processes slot) with
    | some slot => (1, table.modify slot wake)
    | none => (0, table)

def stop (handle : Nat) : TableCall Unit := do
  let table ← Call.state
  let slot ← lift (table.resolve handle)
  failWhen (table.processes slot).terminal .alreadyTerminal
  change fun table => table.modify slot fun process =>
    { process with state := .stopped, waitReason := .none }

def continueProcess (handle : Nat) : TableCall Unit := do
  let table ← Call.state
  let slot ← lift (table.resolve handle)
  failWhen ((table.processes slot).state ≠ .stopped) .invalidState
  change fun table => table.modify slot fun process => { process with state := .runnable }

/-! ### Termination -/

def recordTerminalSequence (table : Table) (slot : Nat) : Table :=
  { (table.modify slot fun process =>
      { process with terminalSequence := table.nextTerminalSequence }) with
    nextTerminalSequence := nextNonzero 64 table.nextTerminalSequence }

/-- Hand the children of a dead process to `init`, whatever their state. -/
def reparentChildren (table : Table) (deadSlot : Nat) : Table :=
  match table.resolve table.initHandle with
  | .error _ => table
  | .ok initSlot =>
    let adopted := table.countWhere fun process => process.parentSlot == deadSlot
    let moved := table.modifyWhere (fun process => process.parentSlot == deadSlot) fun process =>
        { process with parentSlot := initSlot, ppid := (table.processes initSlot).pid }
    (moved.modify deadSlot (Process.loseChildren adopted)).modify initSlot
      (Process.gainChildren adopted)

/-- The wait a blocked parent is in accepts this child. -/
def acceptsChild (parent child : Process) : Bool :=
  parent.waitTarget == 0 || (if parent.waitGroup then parent.waitTarget == child.processGroup
      else parent.waitTarget == child.handle)

/-- Wake the parent of a terminated process when its wait accepts that process. Only the
process that terminated is considered, not the children it left to `init`. -/
def wakeParent (table : Table) (childSlot : Nat) : Table :=
  let child := table.processes childSlot
  let parent := table.processes child.parentSlot
  if child.parentSlot ≥ maximumProcesses ∨ parent.used = false then table
  else if parent.state ≠ .blocked ∨ parent.waitReason ≠ .child then table
  else if acceptsChild parent child = false then table
  else table.modify child.parentSlot fun process =>
    { process with state := .runnable, waitReason := .none, waitTarget := 0, waitGroup := false }

def exit (handle status : Nat) : TableCall Unit := do
  let table ← Call.state
  let slot ← lift (table.resolve handle)
  failWhen (table.processes slot).terminal .alreadyTerminal
  change fun table =>
    let dead := (table.modify slot fun process =>
      { process with state := .zombie, exitStatus := status }).recordTerminalSequence slot
    let cleared := dead.modify slot fun process =>
      { process with waitReason := .none, wakeTick := 0, waitTarget := 0 }
    (cleared.reparentChildren slot).wakeParent slot

def fault (handle vector address : Nat) : TableCall Unit := do
  let table ← Call.state
  let slot ← lift (table.resolve handle)
  failWhen (table.processes slot).terminal .alreadyTerminal
  change fun table =>
    let dead := (table.modify slot fun process =>
      { process with state := .faulted }).recordTerminalSequence slot
    let cleared := dead.modify slot fun process =>
      { process with
        faultVector := vector
        faultAddress := address
        exitStatus := 0x80000000 ||| vector
        waitReason := .none }
    let counted := { cleared with totalFaults := wrapIncrement 64 cleared.totalFaults }
    (counted.reparentChildren slot).wakeParent slot

def accountTick (handle : Nat) : TableCall Bool := do
  let table ← Call.state
  let slot ← lift (table.resolve handle)
  failWhen ((table.processes slot).state ≠ .running) .invalidState
  change fun table => table.modify slot fun process =>
    { process with cpuTicks := wrapIncrement 64 process.cpuTicks }
  let table ← Call.state
  if (table.processes slot).cpuTicks ≥ (table.processes slot).limits.maximumCpuTicks then do
    exit handle 0x7F000001
    return true
  else do
    change fun table => table.modify slot fun process =>
      { process with remainingSlice := process.remainingSlice - 1 }
    return (table.processes slot).remainingSlice - 1 == 0

/-! ### Signals -/

/-- A signal other than kill, stop and continue takes a process out of any wait. -/
def interrupt (process : Process) : Process :=
  if process.state = .blocked ∨ process.state = .sleeping then
    { process with
      state := .runnable
      waitReason := .none
      wakeTick := 0
      waitTarget := 0
      waitGroup := false }
  else process

def sendSignal (senderHandle targetHandle signal : Nat) : TableCall Unit := do
  failWhen (signal = 0 ∨ signal ≥ 64) .invalidSignal
  let table ← Call.state
  let senderSlot ← lift (table.resolve senderHandle)
  let targetSlot ← lift (table.resolve targetHandle)
  failWhen (table.processes targetSlot).terminal .noProcess
  failWhen ((table.processes senderSlot).uid ≠ 0 ∧
    (table.processes senderSlot).uid ≠ (table.processes targetSlot).uid) .permissionDenied
  change fun table =>
    { table.modify targetSlot (Process.addPending signal) with
      totalSignals := wrapIncrement 64 table.totalSignals }
  if signal = 9 then exit targetHandle (128 + signal)
  else if signal = 19 then stop targetHandle
  else if signal = 18 ∧ (table.processes targetSlot).state = .stopped then
    continueProcess targetHandle
  else change fun table => table.modify targetSlot interrupt

/-- The live members of a process group, in slot order. -/
def groupTargets (table : Table) (group : Nat) : List Nat :=
  ((List.range maximumProcesses).filter fun slot =>
    (table.processes slot).used && (table.processes slot).processGroup == group &&
      !(table.processes slot).terminal).map fun slot => (table.processes slot).handle

/-- Signal each target in turn, stopping at the first failure. -/
def signalEach (senderHandle signal : Nat) : List Nat → TableCall Unit
  | [] => Call.ok ()
  | handle :: rest => do
    sendSignal senderHandle handle signal
    signalEach senderHandle signal rest

def sendGroupSignal (senderHandle group signal : Nat) : TableCall Nat := do
  let table ← Call.state
  signalEach senderHandle signal (table.groupTargets group)
  return (table.groupTargets group).length

/-- All bits of a word but one. -/
def withoutBit (bit : Nat) : Nat := (2 ^ 64 - 1) ^^^ 2 ^ bit

/-- Take the lowest pending signal that is not masked. -/
def takeSignal (handle : Nat) : TableCall (Option Nat) := do
  let table ← Call.state
  let slot ← lift (table.resolve handle)
  let process := table.processes slot
  let available := process.pendingSignals &&& ((2 ^ 64 - 1) ^^^ process.signalMask)
  match firstIndex 64 fun bit => available.testBit bit with
  | none => return none
  | some signal => do
    change fun table => table.modify slot fun process =>
      { process with pendingSignals := process.pendingSignals &&& withoutBit signal }
    return some signal

/-- The kill signal cannot be masked. -/
def setSignalMask (handle mask : Nat) : TableCall Unit := do
  let table ← Call.state
  let slot ← lift (table.resolve handle)
  change fun table => table.modify slot fun process =>
    { process with signalMask := mask &&& withoutBit 9 }

def setUmask (handle mask : Nat) : TableCall Nat := do
  let table ← Call.state
  let slot ← lift (table.resolve handle)
  change fun table => table.modify slot fun process => { process with umask := mask &&& 0o777 }
  return (table.processes slot).umask

/-! ### Waiting -/

/-- Free the slot of a terminated child and keep its generation. -/
def reapSlot (parentSlot childSlot : Nat) : TableCall Status := do
  let table ← Call.state
  let child := table.processes childSlot
  failWhen (child.used = false ∨ child.parentSlot ≠ parentSlot) .notChild
  failWhen (child.terminal = false) .stillRunning
  change fun table =>
    let freed := table.modify childSlot fun process => { generation := process.generation }
    { freed.modify parentSlot (Process.loseChildren 1) with
      totalReaped := wrapIncrement 64 table.totalReaped }
  return {
    handle := child.handle
    pid := child.pid
    ppid := child.ppid
    state := child.state
    exitStatus := child.exitStatus
    faultVector := child.faultVector
    faultAddress := child.faultAddress
    cpuTicks := child.cpuTicks
    syscallCount := child.syscallCount }

/-- The slot holds a child of the parent that the wait's own filter admits. -/
def isChild (table : Table) (parentSlot : Nat) (filter : Process → Bool) (slot : Nat) : Bool :=
  (table.processes slot).used && (table.processes slot).parentSlot == parentSlot &&
    filter (table.processes slot)

/-- The terminated child with the least sequence number below the largest one. -/
def earliestTerminal (table : Table) (parentSlot : Nat) (filter : Process → Bool) : Option Nat :=
  leastIndex maximumProcesses
    (fun slot => table.isChild parentSlot filter slot && (table.processes slot).terminal)
    (fun slot => (table.processes slot).terminalSequence) (2 ^ 64 - 1)

/-- The child a wait reaps: the named one, or the earliest terminated one. -/
def waitCandidate (table : Table) (parentSlot : Nat) : Option Nat → Option Nat
  | some target =>
    firstIndex maximumProcesses fun slot =>
      table.isChild parentSlot (fun process => process.handle == target) slot &&
        (table.processes slot).terminal
  | none => table.earliestTerminal parentSlot fun _ => true

def targetFilter : Option Nat → Process → Bool
  | some target => fun process => process.handle == target
  | none => fun _ => true

def groupFilter (group : Nat) (process : Process) : Bool := process.processGroup == group

def hasChild (table : Table) (parentSlot : Nat) (filter : Process → Bool) : Bool :=
  (firstIndex maximumProcesses (table.isChild parentSlot filter)).isSome

/-- The child among those that the filter admits that a wait would reap, or the first one. -/
def preferredChild (table : Table) (parentSlot : Nat) (filter : Process → Bool) :
    Except Error (Option Nat) :=
  match firstIndex maximumProcesses (table.isChild parentSlot filter) with
  | none => .error .notChild
  | some first =>
    match table.earliestTerminal parentSlot filter with
    | some slot => .ok (some (table.processes slot).handle)
    | none => .ok (some (table.processes first).handle)

/-- The child with this pid, or the one a wait for any child concerns. -/
def childForWait (table : Table) (parentHandle targetPid : Nat) : Except Error (Option Nat) :=
  match table.resolve parentHandle with
  | .error failure => .error failure
  | .ok parentSlot =>
    if targetPid = 0 then table.preferredChild parentSlot fun _ => true
    else match firstIndex maximumProcesses
        (table.isChild parentSlot fun process => process.pid == targetPid) with
      | none => .error .notChild
      | some slot => .ok (some (table.processes slot).handle)

def childForWaitGroup (table : Table) (parentHandle group : Nat) : Except Error (Option Nat) :=
  if group = 0 then .error .invalidState
  else match table.resolve parentHandle with
    | .error failure => .error failure
    | .ok parentSlot => table.preferredChild parentSlot (groupFilter group)

/-- Put the waiting parent to sleep. -/
def blockOnChild (target : Nat) (group : Bool) (process : Process) : Process :=
  { process with state := .blocked, waitReason := .child, waitTarget := target, waitGroup := group }

def wait (parentHandle : Nat) (targetHandle : Option Nat) (nonblocking : Bool) :
    TableCall (Option Status) := do
  let table ← Call.state
  let parentSlot ← lift (table.resolve parentHandle)
  match table.waitCandidate parentSlot targetHandle with
  | some slot => do
    let status ← reapSlot parentSlot slot
    return some status
  | none => do
    failWhen (table.hasChild parentSlot (targetFilter targetHandle) = false) .notChild
    change fun table =>
      if nonblocking then table
      else table.modify parentSlot (blockOnChild (targetHandle.getD 0) false)
    return none

def waitGroup (parentHandle group : Nat) (nonblocking : Bool) : TableCall (Option Status) := do
  failWhen (group = 0) .invalidState
  let table ← Call.state
  let parentSlot ← lift (table.resolve parentHandle)
  match table.earliestTerminal parentSlot (groupFilter group) with
  | some slot => do
    let status ← reapSlot parentSlot slot
    return some status
  | none => do
    failWhen (table.hasChild parentSlot (groupFilter group) = false) .notChild
    change fun table =>
      if nonblocking then table else table.modify parentSlot (blockOnChild group true)
    return none

/-- Reap the terminated children found at the given slots, in order. -/
def reapEach (parentSlot : Nat) : List Nat → TableCall Nat
  | [] => Call.ok 0
  | slot :: rest => do
    let table ← Call.state
    if (table.processes slot).used = false ∨ (table.processes slot).parentSlot ≠ parentSlot ∨
        (table.processes slot).terminal = false
    then reapEach parentSlot rest
    else do
      let _ ← reapSlot parentSlot slot
      let reaped ← reapEach parentSlot rest
      return reaped + 1

def reapTerminalChildren (parentHandle : Nat) : TableCall Nat := do
  let table ← Call.state
  let parentSlot ← lift (table.resolve parentHandle)
  reapEach parentSlot (List.range maximumProcesses)

/-- Reap what `init` adopted; a failure counts as nothing reaped. -/
def reapOrphans (table : Table) : Nat × Table :=
  match reapTerminalChildren table.initHandle table with
  | (.ok count, after) => (count, after)
  | (.error _, after) => (0, after)

/-! ### Quotas -/

def setResourceUsage (handle pages descriptors sockets : Nat) : TableCall Unit := do
  let table ← Call.state
  let slot ← lift (table.resolve handle)
  let limits := (table.processes slot).limits
  failWhen (pages > limits.maximumPages ∨ descriptors > limits.maximumDescriptors ∨
    sockets > limits.maximumSockets) .quotaExceeded
  change fun table => table.modify slot fun process =>
    { process with memoryPages := pages, descriptorCount := descriptors, socketCount := sockets }

def setWorkingDirectory (handle cwdNode : Nat) : TableCall Unit := do
  let table ← Call.state
  let slot ← lift (table.resolve handle)
  change fun table => table.modify slot fun process => { process with cwdNode }

def setProcessGroup (callerHandle targetHandle group : Nat) : TableCall Unit := do
  let table ← Call.state
  let callerSlot ← lift (table.resolve callerHandle)
  let targetSlot ← lift (table.resolve targetHandle)
  failWhen (callerSlot ≠ targetSlot ∧ (table.processes targetSlot).parentSlot ≠ callerSlot ∧
    (table.processes callerSlot).uid ≠ 0) .permissionDenied
  change fun table => table.modify targetSlot fun process =>
    { process with processGroup := if group = 0 then process.pid else group }

end Table

end ZigOs.RuntimeProcess
