/-
This file models the block commands of the NVMe driver together with the device
on the other side. The driver fills one page, writes a command into the
submission ring, rings the doorbell and waits for the next slot of the
completion ring to change its phase, at most until a deadline. The device
executes what was submitted in any order, each command when it likes, and answers
each once. It moves data between the medium and the page at the moment it
executes, whoever has written to the page in the meantime.
-/

import ZigOs.Error
import ZigOs.Lib.Runs

namespace ZigOs.Nvme

open Function

/-! ### Commands -/

abbrev nvmFlush : Nat := 0
abbrev nvmWrite : Nat := 1
abbrev nvmRead : Nat := 2
abbrev nvmForceUnitAccess : Nat := 2 ^ 30
abbrev pageSize : Nat := 4096

structure Submission where
  opcode : Nat := 0
  commandId : Nat := 0
  namespaceId : Nat := 0
  prp1 : Nat := 0
  commandDword10 : Nat := 0
  commandDword11 : Nat := 0
  commandDword12 : Nat := 0
  deriving DecidableEq, Repr

/-- The lowest bit of the status is the phase. -/
structure Completion where
  submissionQueueId : Nat := 0
  commandId : Nat := 0
  status : Nat := 0
  deriving DecidableEq, Repr

def Completion.phase (completion : Completion) : Bool := completion.status % 2 == 1

inductive CompletionDisposition where
  | success | commandMismatch | statusError
  deriving DecidableEq, Repr

/-! ### The driver -/

structure Queue where
  depth : Nat
  queueId : Nat
  submissionTail : Nat := 0
  completionHead : Nat := 0
  completionPhase : Bool := true
  deriving DecidableEq, Repr

/-- What the device told about itself and where its page lies. -/
structure Geometry where
  depth : Nat
  namespaceId : Nat
  namespaceSizeLbas : Nat
  logicalBlockSize : Nat
  ioBufferAddress : Nat
  deep : 2 ≤ depth
  fits : namespaceSizeLbas < 2 ^ 64

structure Controller where
  ioQueue : Queue
  nextCommandId : Nat
  readFaultLba : Nat := 2 ^ 64 - 1
  readFaultArmed : Bool := false
  writeFaultLba : Nat := 2 ^ 64 - 1
  writeFaultArmed : Bool := false
  ioInterruptsEnabled : Bool

def emptySubmission (opcode namespaceId : Nat) : Submission := { opcode, namespaceId }

def nvmTransferCommand (geometry : Geometry) (opcode lba : Nat) (forceUnitAccess : Bool) :
    Submission :=
  { emptySubmission opcode geometry.namespaceId with
    prp1 := geometry.ioBufferAddress
    commandDword10 := lba % 2 ^ 32
    commandDword11 := lba / 2 ^ 32 % 2 ^ 32
    commandDword12 := if forceUnitAccess then nvmForceUnitAccess else 0 }

def Geometry.validTransfer (geometry : Geometry) (lba : Nat) : Bool :=
  512 ≤ geometry.logicalBlockSize && geometry.logicalBlockSize ≤ pageSize &&
    lba < geometry.namespaceSizeLbas && geometry.ioBufferAddress != 0

def Queue.advanceSubmission (queue : Queue) : Queue :=
  { queue with submissionTail :=
      if queue.submissionTail + 1 = queue.depth then 0 else queue.submissionTail + 1 }

def Queue.advanceCompletion (queue : Queue) : Queue :=
  if queue.completionHead + 1 = queue.depth then
    { queue with completionHead := 0, completionPhase := !queue.completionPhase }
  else { queue with completionHead := queue.completionHead + 1 }

/-- What a completion says about the command it was awaited for. -/
def classifyCompletion (queue : Queue) (record : Completion) (commandId : Nat) :
    CompletionDisposition :=
  if record.commandId ≠ commandId ∨ record.submissionQueueId ≠ queue.queueId then .commandMismatch
  else if record.status / 2 ≠ 0 then .statusError
  else .success

/-! ### The device -/

/-- A command the device has taken in. The ticket counts the commands from the first one on; the
device does not see it. -/
structure Order where
  ticket : Nat
  submission : Submission
  deriving DecidableEq, Repr

/-- The logical block a command is about. -/
def Submission.lba (submission : Submission) : Nat :=
  submission.commandDword11 * 2 ^ 32 + submission.commandDword10

structure Device where
  -- The last tail the driver rang.
  doorbell : Nat := 0
  pending : List Order := []
  executed : List (Order × Nat) := []
  -- The next slot of the completion ring and the phase it is going to get.
  postSlot : Nat := 0
  postPhase : Bool := true
  -- The tickets answered so far, with the status of each.
  posted : List (Nat × Nat) := []
  medium : Nat → Nat → UInt8

/-! ### The calls -/

inductive Call where
  | readBlock (lba outputLength : Nat)
  | writeBlock (lba : Nat) (input : Bytes) (forceUnitAccess : Bool)
  | flush
  deriving DecidableEq, Repr

/-- The command of a call. A failure that was armed for its block is injected by asking for the
block behind the last one. -/
def Geometry.command (geometry : Geometry) (call : Call) (injectFailure : Bool) : Submission :=
  let place (lba : Nat) := if injectFailure then geometry.namespaceSizeLbas else lba
  match call with
  | .readBlock lba _ => nvmTransferCommand geometry nvmRead (place lba) false
  | .writeBlock lba _ forceUnitAccess =>
    nvmTransferCommand geometry nvmWrite (place lba) forceUnitAccess
  | .flush => emptySubmission nvmFlush geometry.namespaceId

/-- A call that waits for its command. -/
structure Job where
  call : Call
  ticket : Nat
  commandId : Nat
  injectFailure : Bool
  deriving DecidableEq, Repr

inductive Stage where
  | idle
  | awaitingInterrupt (job : Job) (baseline : Nat)
  | polling (job : Job)
  deriving DecidableEq, Repr

structure System where
  geometry : Geometry
  controller : Controller
  device : Device
  stage : Stage := .idle
  interruptCount : Nat := 0
  -- Memory that both sides see: pages by address, and the two rings.
  pages : Nat → Nat → UInt8
  submissions : Nat → Submission := fun _ => {}
  completions : Nat → Completion := fun _ => {}
  -- The calls that submitted a command, by ticket.
  calls : List Call := []

inductive Action where
  | call (call : Call)
  | armOneShotReadError (lba : Nat)
  | armOneShotWriteError (lba : Nat)
  -- One round of the loop the driver waits in.
  | look
  | expire
  | interrupt
  | execute (index code : Nat)
  | post (index : Nat)

inductive Event where
  | returned (call : Call) (ticket : Option Nat) (result : Bool) (data : Bytes)
  | executed (ticket code : Nat)
  deriving DecidableEq, Repr

namespace System

variable (system : System)

/-- The contents of a block. -/
def block (lba : Nat) : Bytes :=
  (List.range system.geometry.logicalBlockSize).map (system.device.medium lba)

def fillPage (address : Nat) (contents : Nat → UInt8) : System :=
  { system with pages := update system.pages address contents }

/-- Write the command into the ring and ring the doorbell. The driver rings after every command,
so the device takes in the one at the tail it knew before. -/
def submit (call : Call) (injectFailure : Bool) : System :=
  let queue := system.controller.ioQueue
  let commandId := system.controller.nextCommandId
  let submissions := update system.submissions queue.submissionTail
    { system.geometry.command call injectFailure with commandId := commandId }
  let job : Job := { call, ticket := system.calls.length, commandId, injectFailure }
  { system with
    controller := { system.controller with
      nextCommandId := nextNonzero 16 commandId
      ioQueue := queue.advanceSubmission }
    device := { system.device with
      doorbell := queue.advanceSubmission.submissionTail
      pending := system.device.pending ++
        [{ ticket := job.ticket, submission := submissions system.device.doorbell }] }
    stage := if queue.queueId ≠ 0 ∧ system.controller.ioInterruptsEnabled
      then .awaitingInterrupt job system.interruptCount else .polling job
    submissions
    calls := system.calls ++ [call] }

/-- The first half of a call, up to the doorbell. -/
def begin (call : Call) : System × List Event :=
  let refused := (system, [Event.returned call none false []])
  match call with
  | .readBlock lba outputLength =>
    if system.geometry.validTransfer lba = false ∨
        outputLength ≠ system.geometry.logicalBlockSize then refused
    else
      let inject := system.controller.readFaultArmed && lba == system.controller.readFaultLba
      let cleared := system.fillPage system.geometry.ioBufferAddress fun offset =>
        if offset < pageSize then 0 else system.pages system.geometry.ioBufferAddress offset
      let armed := { cleared with controller := { system.controller with
        readFaultArmed := system.controller.readFaultArmed && !inject } }
      (armed.submit call inject, [])
  | .writeBlock lba input _ =>
    if system.geometry.validTransfer lba = false ∨
        input.length ≠ system.geometry.logicalBlockSize then refused
    else
      let inject := system.controller.writeFaultArmed && lba == system.controller.writeFaultLba
      let filled := system.fillPage system.geometry.ioBufferAddress fun offset =>
        input.getD offset (system.pages system.geometry.ioBufferAddress offset)
      let armed := { filled with controller := { system.controller with
        writeFaultArmed := system.controller.writeFaultArmed && !inject } }
      (armed.submit call inject, [])
  | .flush => (system.submit call false, [])

/-- The second half: the call returns. -/
def finish (job : Job) (success : Bool) : System × List Event :=
  let result := success && !job.injectFailure
  let data := match job.call with
    | .readBlock _ outputLength => if result then
        (List.range outputLength).map (system.pages system.geometry.ioBufferAddress) else []
    | _ => []
  ({ system with stage := .idle }, [.returned job.call (some job.ticket) result data])

/-- The slot the driver looks at. -/
def headCompletion : Completion := system.completions system.controller.ioQueue.completionHead

/-- The slot at the head carries the phase that is expected next. -/
def Arrived : Prop := system.headCompletion.phase = system.controller.ioQueue.completionPhase

instance : Decidable system.Arrived := inferInstanceAs (Decidable (_ = _))

def look : Option (System × List Event) :=
  match system.stage with
  | .idle => none
  | .awaitingInterrupt job baseline =>
    if system.interruptCount = baseline then some (system, [])
    else some ({ system with stage := .polling job }, [])
  | .polling job =>
    if system.Arrived then
      let queue := system.controller.ioQueue
      let consumed := { system with
        controller := { system.controller with ioQueue := queue.advanceCompletion } }
      some (consumed.finish job
        (classifyCompletion queue system.headCompletion job.commandId == .success))
    else some (system, [])

/-- The deadline passes. The wait for an interrupt looks at the counter once more. -/
def expire : Option (System × List Event) :=
  match system.stage with
  | .idle => none
  | .awaitingInterrupt job baseline =>
    if system.interruptCount = baseline then some (system.finish job false)
    else some ({ system with stage := .polling job }, [])
  | .polling job => some (system.finish job false)

/-- Move the data of a command that succeeds. -/
def transfer (submission : Submission) : System :=
  let blockSize := system.geometry.logicalBlockSize
  if submission.opcode = nvmRead then
    system.fillPage submission.prp1 fun offset =>
      if offset < blockSize then system.device.medium submission.lba offset
      else system.pages submission.prp1 offset
  else if submission.opcode = nvmWrite then
    { system with device := { system.device with
      medium := update system.device.medium submission.lba fun offset =>
        if offset < blockSize then system.pages submission.prp1 offset
        else system.device.medium submission.lba offset } }
  else system

/-- A command about a block that does not exist. -/
def OutOfRange (submission : Submission) : Prop :=
  submission.opcode ≠ nvmFlush ∧ system.geometry.namespaceSizeLbas ≤ submission.lba

instance (submission : Submission) : Decidable (system.OutOfRange submission) :=
  inferInstanceAs (Decidable (_ ∧ _))

/-- The device executes a command with any status, but never succeeds outside the medium. -/
def execute (index code : Nat) : Option (System × List Event) :=
  match system.device.pending[index]? with
  | none => none
  | some order =>
    if code ≥ 2 ^ 15 ∨ code = 0 ∧ system.OutOfRange order.submission then none
    else
      let moved := if code = 0 then system.transfer order.submission else system
      some ({ moved with device := { moved.device with
        pending := system.device.pending.eraseIdx index
        executed := system.device.executed ++ [(order, code)] } }, [.executed order.ticket code])

/-- The device answers a command it has executed, in the next slot. -/
def post (index : Nat) : Option (System × List Event) :=
  match system.device.executed[index]? with
  | none => none
  | some (order, code) =>
    let device := system.device
    let wraps : Bool := device.postSlot + 1 = system.geometry.depth
    some ({ system with
      completions := update system.completions device.postSlot
        { submissionQueueId := system.controller.ioQueue.queueId
          commandId := order.submission.commandId
          status := 2 * code + device.postPhase.toNat }
      device := { device with
        executed := device.executed.eraseIdx index
        postSlot := if wraps then 0 else device.postSlot + 1
        postPhase := device.postPhase != wraps
        posted := device.posted ++ [(order.ticket, code)] } }, [])

def armOneShotReadError (lba : Nat) : System :=
  if system.geometry.validTransfer lba = false ∨ system.controller.readFaultArmed then system
  else { system with controller := { system.controller with
    readFaultLba := lba, readFaultArmed := true } }

def armOneShotWriteError (lba : Nat) : System :=
  if system.geometry.validTransfer lba = false ∨ system.controller.writeFaultArmed then system
  else { system with controller := { system.controller with
    writeFaultLba := lba, writeFaultArmed := true } }

end System

/-- Calls are made one after the other; the device and the interrupt handler act at any time. -/
def machine : Runs.Machine System Action Event := fun action system =>
  match action with
  | .call call => if system.stage = .idle then some (system.begin call) else none
  | .armOneShotReadError lba =>
    if system.stage = .idle then some (system.armOneShotReadError lba, []) else none
  | .armOneShotWriteError lba =>
    if system.stage = .idle then some (system.armOneShotWriteError lba, []) else none
  | .look => system.look
  | .expire => system.expire
  | .interrupt =>
    some ({ system with interruptCount := wrapIncrement 64 system.interruptCount }, [])
  | .execute index code => system.execute index code
  | .post index => system.post index

/-- The driver after its setup: both rings are clear and nothing was submitted yet. -/
def fresh (geometry : Geometry) (nextCommandId : Nat) (ioInterruptsEnabled : Bool)
    (pages medium : Nat → Nat → UInt8) : System :=
  { geometry
    controller := {
      ioQueue := { depth := geometry.depth, queueId := 1 }
      nextCommandId
      ioInterruptsEnabled }
    device := { medium }
    pages }

end ZigOs.Nvme
