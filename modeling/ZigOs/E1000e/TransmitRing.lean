/-
This file models the transmit side of the network driver together with the
network card. There is one buffer for frames and a ring of descriptors. A sender
fills the buffer and the descriptor at its cursor, marks the descriptor as
pending and tells the card the next cursor. The card takes the descriptors in
order up to the cursor it was told, and marks each as done when it has read the
frame. A sender either leaves it to a later call to notice that, or waits for it.
-/

import ZigOs.Error
import ZigOs.Lib.Runs

namespace ZigOs.E1000e

open Function

abbrev ringDescriptorCount : Nat := 8
abbrev completionQueueCapacity : Nat := 32
abbrev pageSize : Nat := 4096
abbrev interruptTxq0 : BitVec 32 := 0x00400000

structure TxDescriptor where
  bufferAddress : Nat := 0
  length : Nat := 0
  command : Nat := 0
  status : Nat := 0
  deriving DecidableEq, Repr

def makeTxDescriptor (bufferAddress length : Nat) : TxDescriptor :=
  { bufferAddress, length, command := 0x0B }

/-- The card has set the lowest status bit. -/
def TxDescriptor.done (descriptor : TxDescriptor) : Bool := descriptor.status % 2 == 1

structure TxCompletion where
  descriptorIndex : Nat
  nextCursor : Nat
  frameLength : Nat
  interruptCount : Nat
  interruptCause : BitVec 32
  deriving DecidableEq, Repr

/-! ### Masks and completions -/

def descriptorBit (index : Nat) : BitVec 32 := 1#32 <<< index

structure CompletionQueue where
  entries : List Nat := []
  overflow : Nat := 0
  deriving DecidableEq, Repr

/-- One slot of the queue always stays empty. -/
def enqueueCompletion (queue : CompletionQueue) (index : Nat) : CompletionQueue :=
  if index ≥ ringDescriptorCount ∨ queue.entries.length + 1 = completionQueueCapacity then
    { queue with overflow := queue.overflow + 1 }
  else { queue with entries := queue.entries ++ [index] }

/-- Pop completions up to that of the descriptor; the others are set aside in the mask. -/
def popUntil (bit : BitVec 32) : List Nat → BitVec 32 → List Nat × BitVec 32 × Bool
  | [], readyMask => ([], readyMask, false)
  | index :: rest, readyMask =>
    if descriptorBit index = bit then (rest, readyMask, true)
    else popUntil bit rest (readyMask ||| descriptorBit index)

/-! ### The state -/

structure Config where
  bar0 : Nat
  txRingAddress : Nat
  txBufferAddress : Nat
  runtimeCompletionPollingEnabled : Bool
  interruptsEnabled : Bool
  mmioMapped : Bool

/-- The card: the descriptor it comes to next, the last cursor it was told, and what it sent. -/
structure Nic where
  head : Nat
  tail : Nat
  sent : List Bytes := []

inductive Stage where
  | idle
  | awaitingCapacity (frame : Bytes)
  | awaitingTx (index baseline length : Nat)
  deriving DecidableEq, Repr

structure TransmitRing where
  config : Config
  txProducer : Nat
  txPendingMask : BitVec 32 := 0
  txReadyMask : BitVec 32 := 0
  txCompletionQueue : CompletionQueue := {}
  txInterruptCount : Nat := 0
  lastTxInterruptCount : Nat := 0
  lastTxCause : BitVec 32 := 0
  descriptors : Nat → TxDescriptor
  buffer : Nat → UInt8
  nic : Nic
  stage : Stage := .idle
  -- The frames handed to the card, the last one at each descriptor, and those retired.
  frames : List Bytes := []
  owner : Nat → Nat := fun _ => 0
  retired : List Nat := []

inductive Action where
  | submitRuntimeFrame (frame : Bytes)
  | submitFrame (frame : Bytes)
  | serviceRuntimeTransmitCompletions
  -- One round of the loop that submitFrame waits in, and the end of its rounds.
  | look
  | expire
  | interrupt (cause : BitVec 32)
  | transmit

inductive Event where
  | submitted (completion : TxCompletion)
  | completed (completion : TxCompletion)
  | refused
  | serviced (count : Nat)
  deriving DecidableEq, Repr

namespace TransmitRing

variable (ring : TransmitRing)

def runtimePollingMode : Bool :=
  ring.config.runtimeCompletionPollingEnabled && !ring.config.interruptsEnabled

def runtimeMmioAccessible : Bool := ring.config.bar0 != 0 && ring.config.mmioMapped

def runtimeTransmitWritable : Bool :=
  ring.config.txRingAddress != 0 && ring.config.txBufferAddress != 0 &&
    ring.txProducer < ringDescriptorCount && ring.runtimePollingMode && ring.runtimeMmioAccessible &&
    ring.txPendingMask == 0

/-- Clear the pending bit, and queue the completion if it was set. -/
def completePendingDescriptor (index : Nat) : TransmitRing :=
  let cleared := { ring with txPendingMask := ring.txPendingMask &&& ~~~descriptorBit index }
  if ring.txPendingMask &&& descriptorBit index ≠ 0 then
    { cleared with
      txCompletionQueue := enqueueCompletion ring.txCompletionQueue index
      retired := ring.retired ++ [ring.owner index] }
  else cleared

def consumeCompletion (index : Nat) : Bool × TransmitRing :=
  let bit := descriptorBit index
  if index ≥ ringDescriptorCount then (false, ring)
  else if ring.txReadyMask &&& bit ≠ 0 then
    (true, { ring with txReadyMask := ring.txReadyMask &&& ~~~bit })
  else
    let (entries, readyMask, seen) := popUntil bit ring.txCompletionQueue.entries ring.txReadyMask
    (seen, { ring with
      txReadyMask := readyMask
      txCompletionQueue := { ring.txCompletionQueue with entries } })

def serviceDescriptor (pendingBefore : BitVec 32) (ring : TransmitRing) (index : Nat) : TransmitRing :=
  if pendingBefore &&& descriptorBit index = 0 ∨ (ring.descriptors index).done = false then ring
  else ring.completePendingDescriptor index

def collectDescriptor (completedMask : BitVec 32) (progress : Nat × TransmitRing) (index : Nat) :
    Nat × TransmitRing :=
  if completedMask &&& descriptorBit index = 0 then progress
  else (progress.1 + 1, (progress.2.consumeCompletion index).2)

def serviceRuntimeTransmitCompletions : Nat × TransmitRing :=
  if ring.config.txRingAddress = 0 ∨ ring.txPendingMask = 0 then (0, ring)
  else
    let serviced := (List.range ringDescriptorCount).foldl (serviceDescriptor ring.txPendingMask) ring
    (List.range ringDescriptorCount).foldl
      (collectDescriptor (ring.txPendingMask &&& ~~~serviced.txPendingMask)) (0, serviced)

/-- Clear the buffer and copy the frame into it, and write the descriptor at the cursor. -/
def fill (frame : Bytes) : TransmitRing :=
  { ring with
    buffer := fun offset =>
      if offset < pageSize then frame.getD offset 0 else ring.buffer offset
    descriptors := update ring.descriptors ring.txProducer
      (makeTxDescriptor ring.config.txBufferAddress frame.length) }

/-- The bit of the descriptor at the cursor was clear, and it is set now. -/
def armTxDescriptor : Bool × TransmitRing :=
  if ring.txProducer ≥ ringDescriptorCount then (false, ring)
  else (ring.txPendingMask &&& descriptorBit ring.txProducer == 0,
    { ring with txPendingMask := ring.txPendingMask ||| descriptorBit ring.txProducer })

def nextCursor : Nat := (ring.txProducer + 1) % ringDescriptorCount

/-- Tell the card the next cursor: the frame is handed over. -/
def writeTail (frame : Bytes) : TransmitRing :=
  { ring with
    nic := { ring.nic with tail := ring.nextCursor }
    owner := update ring.owner ring.txProducer ring.frames.length
    frames := ring.frames ++ [frame] }

def submitRuntimeFrame (frame : Bytes) : TransmitRing × List Event :=
  if ring.runtimeTransmitWritable = false ∨ frame = [] ∨ frame.length > pageSize then
    (ring, [.refused])
  else
    let (fresh, armed) := (ring.fill frame).armTxDescriptor
    if fresh = false then (armed, [.refused])
    else
      ({ armed.writeTail frame with txProducer := ring.nextCursor },
        [.submitted {
          descriptorIndex := ring.txProducer
          nextCursor := ring.nextCursor
          frameLength := frame.length
          interruptCount := 0
          interruptCause := 0 }])

/-- The second half of submitFrame, once there is room. -/
def sendFrame (frame : Bytes) : TransmitRing × List Event :=
  if ring.config.bar0 = 0 ∨ frame = [] ∨ frame.length > pageSize ∨
      ring.txProducer ≥ ringDescriptorCount then
    ({ ring with stage := .idle }, [.refused])
  else
    let (fresh, armed) := (ring.fill frame).armTxDescriptor
    if fresh = false then ({ armed with stage := .idle }, [.refused])
    else
      ({ armed.writeTail frame with
        stage := .awaitingTx ring.txProducer ring.lastTxInterruptCount frame.length }, [])

def submitFrame (frame : Bytes) : TransmitRing × List Event :=
  if ring.txPendingMask = 0 then ring.sendFrame frame
  else ({ ring with stage := .awaitingCapacity frame }, [])

/-- The completion of a descriptor that is done, also when no interrupt told of it. -/
def noticeTx (index : Nat) : Bool × TransmitRing :=
  let (seen, consumed) := ring.consumeCompletion index
  if seen = false ∧ ring.config.runtimeCompletionPollingEnabled then
    (consumed.completePendingDescriptor index).consumeCompletion index
  else (seen, consumed)

def look : Option (TransmitRing × List Event) :=
  match ring.stage with
  | .idle => none
  | .awaitingCapacity frame =>
    let serviced := ring.serviceRuntimeTransmitCompletions.2
    if serviced.txPendingMask = 0 then some (serviced.sendFrame frame) else some (serviced, [])
  | .awaitingTx index baseline length =>
    if (ring.descriptors index).done = false then some (ring, [])
    else
      let (seen, noticed) := ring.noticeTx index
      if seen = false then some (noticed, [])
      else
        let next := (index + 1) % ringDescriptorCount
        some ({ noticed with
          stage := .idle
          txProducer := next
          lastTxInterruptCount := noticed.txInterruptCount },
          [.completed {
            descriptorIndex := index
            nextCursor := next
            frameLength := length
            interruptCount := noticed.txInterruptCount - baseline
            interruptCause := noticed.lastTxCause }])

def expire : Option (TransmitRing × List Event) :=
  if ring.stage = .idle then none else some ({ ring with stage := .idle }, [.refused])

def scanDescriptor (ring : TransmitRing) (index : Nat) : TransmitRing :=
  if (ring.descriptors index).done = false then ring else ring.completePendingDescriptor index

def scanTxCompletions : TransmitRing := (List.range ringDescriptorCount).foldl scanDescriptor ring

def interrupt (cause : BitVec 32) : TransmitRing :=
  if ring.config.interruptsEnabled = false ∨ ring.config.bar0 = 0 ∨ cause &&& interruptTxq0 = 0 then ring
  else
    { ring with lastTxCause := cause, txInterruptCount := wrapIncrement 64 ring.txInterruptCount }
      |>.scanTxCompletions

/-- The card reads the frame of the next descriptor and marks it as done. -/
def transmit : Option (TransmitRing × List Event) :=
  if ring.nic.head = ring.nic.tail then none
  else
    let descriptor := ring.descriptors ring.nic.head
    some ({ ring with
      descriptors := update ring.descriptors ring.nic.head
        { descriptor with status := descriptor.status ||| 1 }
      nic := { ring.nic with
        head := (ring.nic.head + 1) % ringDescriptorCount
        sent := ring.nic.sent ++ [(List.range descriptor.length).map ring.buffer] } }, [])

end TransmitRing

/-- Calls are made one after the other; the card and the interrupt handler act at any time. -/
def machine : Runs.Machine TransmitRing Action Event := fun action ring =>
  match action with
  | .submitRuntimeFrame frame =>
    if ring.stage = .idle then some (ring.submitRuntimeFrame frame) else none
  | .submitFrame frame => if ring.stage = .idle then some (ring.submitFrame frame) else none
  | .serviceRuntimeTransmitCompletions =>
    if ring.stage = .idle then
      some (ring.serviceRuntimeTransmitCompletions.2,
        [.serviced ring.serviceRuntimeTransmitCompletions.1])
    else none
  | .look => ring.look
  | .expire => ring.expire
  | .interrupt cause => some (ring.interrupt cause, [])
  | .transmit => ring.transmit

/-- A ring with nothing underway, at any cursor. -/
def idleRing (config : Config) (cursor : Nat) (descriptors : Nat → TxDescriptor)
    (buffer : Nat → UInt8) : TransmitRing :=
  { config, txProducer := cursor, descriptors, buffer, nic := { head := cursor, tail := cursor } }

end ZigOs.E1000e
