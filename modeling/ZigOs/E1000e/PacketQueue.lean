/-
This file is about the queues that packets wait in: a ring of entries with the
head where the next packet goes in and the tail where the next one comes out.
Equal cursors mean an empty ring, so one entry always stays free. To its users a
queue is the list of the packets in it, and three counters beside.
-/

import ZigOs.Error
import ZigOs.Lib.RingBuffer

namespace ZigOs.E1000e

open RingBuffer

abbrev softwarePacketQueueCapacity : Nat := 8
abbrev maximumSoftwarePacketBytes : Nat := 2048

/-- A 64-bit counter that stops at its largest value. -/
def countUp (counter : Nat) : Nat := min (counter + 1) (2 ^ 64 - 1)

theorem countUp_min (total : Nat) : countUp (min total (2 ^ 64 - 1)) = min (total + 1) (2 ^ 64 - 1) := by
  unfold countUp
  omega

structure Packet where
  bytes : Bytes := []
  sourceDescriptor : Nat := 0
  interruptCount : Nat := 0
  interruptCause : BitVec 32 := 0
  deriving DecidableEq, Repr

structure SoftwarePacketQueue where
  entries : Nat → Packet := fun _ => {}
  head : Nat := 0
  tail : Nat := 0
  enqueued : Nat := 0
  dequeued : Nat := 0
  dropped : Nat := 0
  highWater : Nat := 0

namespace SoftwarePacketQueue

variable (queue : SoftwarePacketQueue)

def queueDepth : Nat :=
  (queue.head + softwarePacketQueueCapacity - queue.tail) % softwarePacketQueueCapacity

def countDropped : SoftwarePacketQueue := { queue with dropped := countUp queue.dropped }

def enqueueQueuedPacket (packet : Packet) : Bool × SoftwarePacketQueue :=
  let next := (queue.head + 1) % softwarePacketQueueCapacity
  if next = queue.tail then (false, queue.countDropped)
  else
    let filled := { queue with
      entries := Function.update queue.entries queue.head packet
      head := next
      enqueued := countUp queue.enqueued }
    (true, { filled with highWater := max queue.highWater filled.queueDepth })

/-- Frames that are empty or too long are dropped as well. -/
def enqueueSoftwarePacket (frame : Packet) : Bool × SoftwarePacketQueue :=
  if frame.bytes.length = 0 ∨ frame.bytes.length > maximumSoftwarePacketBytes then
    (false, queue.countDropped)
  else queue.enqueueQueuedPacket frame

/-- The queue without the packet at its tail. -/
def advance : SoftwarePacketQueue :=
  { queue with
    tail := (queue.tail + 1) % softwarePacketQueueCapacity
    dequeued := countUp queue.dequeued }

def dequeueQueuedPacket : Option (Packet × SoftwarePacketQueue) :=
  if queue.tail = queue.head then none else some (queue.entries queue.tail, queue.advance)

/-- The packets in the queue, the next one first. -/
def packets : List Packet :=
  contents softwarePacketQueueCapacity queue.entries queue.tail queue.queueDepth

/-- Both cursors are inside the ring. -/
structure InRange (queue : SoftwarePacketQueue) : Prop where
  head : queue.head < softwarePacketQueueCapacity
  tail : queue.tail < softwarePacketQueueCapacity

variable {queue}

theorem packets_length (queue : SoftwarePacketQueue) : queue.packets.length = queue.queueDepth :=
  contents_length ..

theorem head_eq (range : queue.InRange) :
    queue.head = (queue.tail + queue.queueDepth) % softwarePacketQueueCapacity := by
  obtain ⟨head, tail⟩ := range
  unfold queueDepth
  unfold softwarePacketQueueCapacity at *
  omega

/-- One entry stays free. -/
theorem full_iff (range : queue.InRange) :
    (queue.head + 1) % softwarePacketQueueCapacity = queue.tail ↔
      queue.packets.length + 1 = softwarePacketQueueCapacity := by
  obtain ⟨head, tail⟩ := range
  rw [packets_length]
  unfold queueDepth
  unfold softwarePacketQueueCapacity at *
  omega

theorem depth_lt (queue : SoftwarePacketQueue) : queue.queueDepth < softwarePacketQueueCapacity :=
  Nat.mod_lt _ (by decide)

theorem empty_iff (range : queue.InRange) : queue.tail = queue.head ↔ queue.packets = [] := by
  obtain ⟨head, tail⟩ := range
  rw [← List.length_eq_zero_iff, packets_length]
  unfold queueDepth
  unfold softwarePacketQueueCapacity at *
  omega

/-- A full queue counts the packet and keeps what it holds. -/
theorem enqueueQueuedPacket_full (range : queue.InRange)
    (full : queue.packets.length + 1 = softwarePacketQueueCapacity) (packet : Packet) :
    queue.enqueueQueuedPacket packet = (false, queue.countDropped) := by
  unfold enqueueQueuedPacket
  rw [if_pos ((full_iff range).mpr full)]

/-- What a queue with room is after a packet went in. -/
structure Accepts (before : SoftwarePacketQueue) (packet : Packet) (after : SoftwarePacketQueue) :
    Prop where
  range : after.InRange
  packets : after.packets = before.packets ++ [packet]
  dropped : after.dropped = before.dropped

theorem enqueueQueuedPacket_room (range : queue.InRange)
    (room : queue.packets.length + 1 ≠ softwarePacketQueueCapacity) (packet : Packet) :
    ∃ after, queue.enqueueQueuedPacket packet = (true, after) ∧ queue.Accepts packet after := by
  unfold enqueueQueuedPacket
  rw [if_neg fun full => room ((full_iff range).mp full)]
  refine ⟨_, rfl, ⟨Nat.mod_lt _ (by decide), range.tail⟩, ?_, rfl⟩
  have below : queue.queueDepth + 1 < softwarePacketQueueCapacity := by
    have depth := depth_lt queue
    rw [packets_length] at room
    omega
  have deeper : ((queue.head + 1) % softwarePacketQueueCapacity + softwarePacketQueueCapacity -
      queue.tail) % softwarePacketQueueCapacity = queue.queueDepth + 1 := by
    obtain ⟨head, tail⟩ := range
    unfold queueDepth at below ⊢
    unfold softwarePacketQueueCapacity at *
    omega
  have appended := contents_copyIn queue.entries [packet] range.tail (Nat.le_of_lt below)
  rw [← head_eq range, copyIn_singleton _ _ range.head] at appended
  show contents _ _ _ _ = _
  unfold queueDepth at deeper
  unfold queueDepth
  dsimp only
  rwa [deeper]

theorem dequeueQueuedPacket_empty (range : queue.InRange) (empty : queue.packets = []) :
    queue.dequeueQueuedPacket = none := by
  unfold dequeueQueuedPacket
  rw [if_pos ((empty_iff range).mpr empty)]

theorem advance_range (range : queue.InRange) : queue.advance.InRange :=
  ⟨range.head, Nat.mod_lt _ (by decide)⟩

/-- The packet at the tail is the first one, and the others stay. -/
theorem packets_advance (range : queue.InRange) (occupied : queue.packets ≠ []) :
    queue.packets = queue.entries queue.tail :: queue.advance.packets := by
  have positive : 0 < queue.queueDepth := by
    rw [← packets_length]
    exact List.length_pos_iff.mpr occupied
  have shallower : queue.advance.queueDepth = queue.queueDepth - 1 := by
    obtain ⟨head, tail⟩ := range
    unfold queueDepth advance at *
    unfold softwarePacketQueueCapacity at *
    dsimp only
    omega
  have dropped := contents_drop softwarePacketQueueCapacity queue.entries queue.tail
    queue.queueDepth 1
  have rest : queue.advance.packets = queue.packets.drop 1 := by
    unfold packets
    rwa [shallower]
  have first : queue.packets[0]? = some (queue.entries queue.tail) := by
    unfold packets
    rw [contents_getElem? _ _ positive, Nat.add_zero, Nat.mod_eq_of_lt range.tail]
  rw [rest]
  cases packets : queue.packets with
  | nil => exact absurd packets occupied
  | cons head others =>
    rw [packets] at first
    obtain rfl : head = queue.entries queue.tail := Option.some.inj first
    rfl

theorem dequeueQueuedPacket_occupied (range : queue.InRange) (occupied : queue.packets ≠ []) :
    queue.dequeueQueuedPacket = some (queue.entries queue.tail, queue.advance) := by
  unfold dequeueQueuedPacket
  rw [if_neg fun empty => occupied ((empty_iff range).mp empty)]

theorem fresh_range : InRange {} := ⟨by decide, by decide⟩

theorem fresh_packets : packets {} = [] := rfl

end SoftwarePacketQueue

end ZigOs.E1000e
