/-
This file shows when the driver and the network card stay in step. The cursor
that a waiting sender told the card becomes the cursor of the driver only when
the wait succeeds. So as long as no sender gives up on a frame it has handed
over, there is at most one frame underway: the card still has to read it, or has
read it, or an interrupt has already retired it. All other frames were sent in
order, and each was retired once.
-/

import ZigOs.E1000e.TransmitRing

namespace ZigOs.E1000e

open Function List

/-! ### Bits of a mask -/

variable {index : Nat}

theorem descriptorBit_ne_zero (below : index < ringDescriptorCount) : descriptorBit index ≠ 0 := by
  have each : ∀ index < ringDescriptorCount, descriptorBit index ≠ 0 := by decide
  exact each index below

theorem descriptorBit_and_of_ne {first second : Nat} (belowFirst : first < ringDescriptorCount)
    (belowSecond : second < ringDescriptorCount) (apart : first ≠ second) :
    descriptorBit first &&& descriptorBit second = 0 ∧
      descriptorBit first &&& ~~~descriptorBit second = descriptorBit first := by
  have each : ∀ first < ringDescriptorCount, ∀ second < ringDescriptorCount, first ≠ second →
      descriptorBit first &&& descriptorBit second = 0 ∧
        descriptorBit first &&& ~~~descriptorBit second = descriptorBit first := by decide
  exact each first belowFirst second belowSecond apart

theorem descriptorBit_clear (index : Nat) : descriptorBit index &&& ~~~descriptorBit index = 0 :=
  BitVec.and_not_self _

theorem next_ne (below : index < ringDescriptorCount) :
    index ≠ (index + 1) % ringDescriptorCount := by
  have each : ∀ index < ringDescriptorCount, index ≠ (index + 1) % ringDescriptorCount := by decide
  exact each index below

variable {State : Type} {indices : List Nat}

/-- A pass over the ring that does nothing. -/
theorem foldl_still {step : State → Nat → State} {state : State}
    (still : ∀ index ∈ indices, step state index = state) : indices.foldl step state = state := by
  induction indices with
  | nil => rfl
  | cons index rest hypothesis =>
    rw [foldl_cons, still index mem_cons_self]
    exact hypothesis fun other member => still other (mem_cons_of_mem _ member)

/-- A pass over the ring that only does something at one descriptor. -/
theorem foldl_at {step : State → Nat → State} {before after : State}
    (here : step before index = after) (once : indices.Nodup)
    (early : ∀ other ∈ indices, other ≠ index → step before other = before)
    (late : ∀ other ∈ indices, other ≠ index → step after other = after)
    (member : index ∈ indices) : indices.foldl step before = after := by
  induction indices with
  | nil => cases member
  | cons first others hypothesis =>
    obtain ⟨alone, onceLater⟩ := nodup_cons.mp once
    rw [foldl_cons]
    by_cases same : first = index
    · rw [same, here]
      refine foldl_still fun other later => late other (mem_cons_of_mem _ later) ?_
      rintro rfl
      exact alone (same ▸ later)
    · rw [early first mem_cons_self same]
      refine hypothesis onceLater
        (fun other later => early other (mem_cons_of_mem _ later))
        (fun other later => late other (mem_cons_of_mem _ later)) ?_
      exact (mem_cons.mp member).resolve_left (Ne.symm same)

namespace TransmitRing

variable {ring : TransmitRing}

/-! ### The frame underway -/

/-- No sender waits for a frame it has handed over. -/
def Untied (ring : TransmitRing) : Prop :=
  ring.stage = .idle ∨ ∃ frame, ring.stage = .awaitingCapacity frame

/-- A sender waits for the frame it handed over at the descriptor. -/
def Tied (ring : TransmitRing) (index : Nat) : Prop :=
  ring.txProducer = index ∧ ∃ baseline length, ring.stage = .awaitingTx index baseline length

/-- The card has read everything it was told of. -/
structure CaughtUp (ring : TransmitRing) : Prop where
  head : ring.nic.head = ring.nic.tail
  sent : ring.nic.sent = ring.frames

/-- The card has yet to read the last frame, which is all in the buffer. -/
structure Unread (ring : TransmitRing) (index : Nat) (earlier : List Bytes) (frame : Bytes) : Prop where
  head : ring.nic.head = index
  open' : (ring.descriptors index).done = false
  length : (ring.descriptors index).length = frame.length
  buffer : (List.range frame.length).map ring.buffer = frame
  sent : ring.nic.sent = earlier

/-- Nothing is set aside, no completion was lost, and the card was told a cursor of the ring. -/
structure Calm (ring : TransmitRing) : Prop where
  ready : ring.txReadyMask = 0
  overflow : ring.txCompletionQueue.overflow = 0
  cursor : ring.nic.tail < ringDescriptorCount

/-- What retiring a frame leaves alone. -/
structure Kept (before after : TransmitRing) : Prop where
  nic : after.nic = before.nic
  buffer : after.buffer = before.buffer
  descriptors : after.descriptors = before.descriptors
  frames : after.frames = before.frames

/-- No frame is underway. -/
structure Rest (ring : TransmitRing) : Prop where
  pending : ring.txPendingMask = 0
  queue : ring.txCompletionQueue.entries = []
  caughtUp : ring.CaughtUp
  producer : ring.txProducer = ring.nic.tail
  retired : ring.retired = List.range ring.frames.length

/-- Where the last frame is. -/
inductive Load (ring : TransmitRing) : Prop where
  | free (rest : ring.Rest) (untied : ring.Untied)
  | underway (index : Nat) (earlier : List Bytes) (frame : Bytes) (below : index < ringDescriptorCount)
    (pending : ring.txPendingMask = descriptorBit index)
    (queue : ring.txCompletionQueue.entries = [])
    (tail : ring.nic.tail = (index + 1) % ringDescriptorCount)
    (frames : ring.frames = earlier ++ [frame]) (owner : ring.owner index = earlier.length)
    (retired : ring.retired = List.range earlier.length)
    (progress : ring.Unread index earlier frame ∨
      ring.CaughtUp ∧ (ring.descriptors index).done = true)
    (waits : (ring.txProducer = ring.nic.tail ∧ ring.Untied ∧ ring.config.interruptsEnabled = false) ∨
      ring.Tied index)
  | noticed (index : Nat) (below : index < ringDescriptorCount) (pending : ring.txPendingMask = 0)
    (queue : ring.txCompletionQueue.entries = [index])
    (tail : ring.nic.tail = (index + 1) % ringDescriptorCount) (caughtUp : ring.CaughtUp)
    (done : (ring.descriptors index).done = true) (tied : ring.Tied index)
    (owner : ring.owner index + 1 = ring.frames.length)
    (retired : ring.retired = List.range ring.frames.length)

structure Sound (ring : TransmitRing) : Prop where
  calm : ring.Calm
  load : ring.Load

variable {index : Nat}

theorem Untied.not_tied (untied : ring.Untied) : ¬ ring.Tied index := by
  rintro ⟨-, baseline, length, waits⟩
  rcases untied with idle | ⟨frame, capacity⟩
  · rw [idle] at waits
    cases waits
  · rw [capacity] at waits
    cases waits

/-! ### Retiring a frame -/

theorem completePendingDescriptor_of_clear (clear : ring.txPendingMask &&& descriptorBit index = 0)
    (same : ring.txPendingMask &&& ~~~descriptorBit index = ring.txPendingMask) :
    ring.completePendingDescriptor index = ring := by
  unfold completePendingDescriptor
  dsimp only
  rw [if_neg (not_not_intro clear), same]

/-- Other descriptors than the pending one are left alone. -/
theorem completePendingDescriptor_of_ne {other : Nat} (below : index < ringDescriptorCount)
    (belowOther : other < ringDescriptorCount) (pending : ring.txPendingMask = descriptorBit index)
    (apart : other ≠ index) : ring.completePendingDescriptor other = ring := by
  obtain ⟨disjoint, kept⟩ := descriptorBit_and_of_ne below belowOther (Ne.symm apart)
  refine completePendingDescriptor_of_clear ?_ ?_
  · rwa [pending]
  · rwa [pending]

theorem completePendingDescriptor_of_none (pending : ring.txPendingMask = 0) (index : Nat) :
    ring.completePendingDescriptor index = ring :=
  completePendingDescriptor_of_clear (by rw [pending]; exact BitVec.zero_and)
    (by rw [pending]; exact BitVec.zero_and)

/-- The ring with the frame at a descriptor retired. -/
def retire (ring : TransmitRing) (index : Nat) (entries : List Nat) : TransmitRing :=
  { ring with
    txPendingMask := 0
    txCompletionQueue := { ring.txCompletionQueue with entries }
    retired := ring.retired ++ [ring.owner index] }

theorem completePendingDescriptor_of_pending (below : index < ringDescriptorCount)
    (pending : ring.txPendingMask = descriptorBit index)
    (queue : ring.txCompletionQueue.entries = []) :
    ring.completePendingDescriptor index = ring.retire index [index] := by
  have set : ring.txPendingMask &&& descriptorBit index ≠ 0 := by
    rw [pending, BitVec.and_self]
    exact descriptorBit_ne_zero below
  have room : ¬ (index ≥ ringDescriptorCount ∨
      ring.txCompletionQueue.entries.length + 1 = completionQueueCapacity) := by
    rw [queue]
    simp [below]
  unfold completePendingDescriptor enqueueCompletion
  dsimp only
  rw [if_pos set, if_neg room, pending, descriptorBit_clear, queue]
  rfl

theorem consumeCompletion_of_head (below : index < ringDescriptorCount)
    (ready : ring.txReadyMask = 0) (queue : ring.txCompletionQueue.entries = [index]) :
    ring.consumeCompletion index = (true, { ring with
      txCompletionQueue := { ring.txCompletionQueue with entries := [] } }) := by
  unfold consumeCompletion
  dsimp only
  rw [if_neg (Nat.not_le.mpr below), if_neg (by rw [ready]; simp), queue]
  simp [popUntil]

theorem consumeCompletion_of_empty (ready : ring.txReadyMask = 0)
    (queue : ring.txCompletionQueue.entries = []) :
    ring.consumeCompletion index = (false, ring) := by
  unfold consumeCompletion
  dsimp only
  split
  · rfl
  · rw [if_neg (by rw [ready]; simp), queue]
    simp only [popUntil]
    rw [← queue]

/-! ### Passes over the ring -/

/-- A pass finds the frame underway done and retires it, or finds nothing to do. -/
theorem service_underway (below : index < ringDescriptorCount)
    (pending : ring.txPendingMask = descriptorBit index)
    (queue : ring.txCompletionQueue.entries = []) (ready : ring.txReadyMask = 0) :
    ring.serviceRuntimeTransmitCompletions.2 =
      if ring.config.txRingAddress = 0 ∨ (ring.descriptors index).done = false then ring
      else ring.retire index [] := by
  have set : ring.txPendingMask ≠ 0 := by
    rw [pending]
    exact descriptorBit_ne_zero below
  unfold serviceRuntimeTransmitCompletions
  by_cases absent : ring.config.txRingAddress = 0
  · rw [if_pos (.inl absent), if_pos (.inl absent)]
  rw [if_neg (not_or.mpr ⟨absent, set⟩)]
  -- Only the pending descriptor is looked at.
  have passes (state : TransmitRing) {other : Nat} (member : other ∈ List.range ringDescriptorCount)
      (apart : other ≠ index) : serviceDescriptor ring.txPendingMask state other = state := by
    unfold serviceDescriptor
    rw [pending, if_pos (.inl (descriptorBit_and_of_ne below (mem_range.mp member)
      (Ne.symm apart)).1)]
  have inside : index ∈ List.range ringDescriptorCount := mem_range.mpr below
  by_cases done : (ring.descriptors index).done = false
  · have still : (List.range ringDescriptorCount).foldl (serviceDescriptor ring.txPendingMask) ring =
        ring := by
      refine foldl_still fun other member => ?_
      by_cases here : other = index
      · unfold serviceDescriptor
        rw [here, if_pos (.inr done)]
      · exact passes ring member here
    rw [if_pos (.inr done)]
    dsimp only
    rw [still, BitVec.and_not_self, foldl_still]
    intro other _
    exact if_pos BitVec.zero_and
  · have retires : serviceDescriptor ring.txPendingMask ring index = ring.retire index [index] := by
      unfold serviceDescriptor
      rw [if_neg (not_or.mpr ⟨by rw [pending, BitVec.and_self]; exact descriptorBit_ne_zero below, done⟩)]
      exact completePendingDescriptor_of_pending below pending queue
    have serviced : (List.range ringDescriptorCount).foldl (serviceDescriptor ring.txPendingMask) ring =
        ring.retire index [index] :=
      foldl_at retires nodup_range (fun _ member apart => passes ring member apart)
        (fun _ member apart => passes _ member apart) inside
    have completed : ring.txPendingMask &&& ~~~(ring.retire index [index]).txPendingMask =
        descriptorBit index := by
      rw [pending]
      show descriptorBit index &&& ~~~0#32 = descriptorBit index
      rw [BitVec.not_zero, BitVec.and_allOnes]
    have consumed : (ring.retire index [index]).consumeCompletion index =
        (true, ring.retire index []) := consumeCompletion_of_head below ready rfl
    have collects : collectDescriptor (descriptorBit index) (0, ring.retire index [index]) index =
        (1, ring.retire index []) := by
      unfold collectDescriptor
      rw [if_neg (by rw [BitVec.and_self]; exact descriptorBit_ne_zero below), consumed]
    have skips (progress : Nat × TransmitRing) {other : Nat}
        (member : other ∈ List.range ringDescriptorCount) (apart : other ≠ index) :
        collectDescriptor (descriptorBit index) progress other = progress :=
      if_pos (descriptorBit_and_of_ne below (mem_range.mp member) (Ne.symm apart)).1
    have gathered : (List.range ringDescriptorCount).foldl (collectDescriptor (descriptorBit index))
        (0, ring.retire index [index]) = (1, ring.retire index []) :=
      foldl_at collects nodup_range (fun _ member apart => skips _ member apart)
        (fun _ member apart => skips _ member apart) inside
    rw [if_neg (not_or.mpr ⟨absent, done⟩)]
    dsimp only
    rw [serviced, completed, gathered]

theorem service_free (pending : ring.txPendingMask = 0) :
    ring.serviceRuntimeTransmitCompletions.2 = ring := by
  unfold serviceRuntimeTransmitCompletions
  rw [if_pos (.inr pending)]

/-- An interrupt retires the frame underway when the card has read it. -/
theorem scan_underway {index : Nat} (below : index < ringDescriptorCount)
    (pending : ring.txPendingMask = descriptorBit index)
    (queue : ring.txCompletionQueue.entries = []) :
    ring.scanTxCompletions =
      if (ring.descriptors index).done = false then ring else ring.retire index [index] := by
  have passes (state : TransmitRing) {other : Nat}
      (idle : state.completePendingDescriptor other = state) : scanDescriptor state other = state := by
    unfold scanDescriptor
    rw [idle, ite_self]
  have skips {other : Nat} (member : other ∈ List.range ringDescriptorCount) (apart : other ≠ index) :
      scanDescriptor ring other = ring :=
    passes ring (completePendingDescriptor_of_ne below (mem_range.mp member) pending apart)
  by_cases done : (ring.descriptors index).done = false
  · rw [if_pos done]
    refine foldl_still fun other member => ?_
    by_cases here : other = index
    · unfold scanDescriptor
      rw [here, if_pos done]
    · exact skips member here
  · have retires : scanDescriptor ring index = ring.retire index [index] := by
      unfold scanDescriptor
      rw [if_neg done, completePendingDescriptor_of_pending below pending queue]
    rw [if_neg done]
    exact foldl_at retires nodup_range (fun _ member apart => skips member apart)
      (fun other _ _ => passes _ (completePendingDescriptor_of_none rfl other))
      (mem_range.mpr below)

theorem scan_none (pending : ring.txPendingMask = 0) : ring.scanTxCompletions = ring := by
  refine foldl_still fun other _ => ?_
  unfold scanDescriptor
  rw [completePendingDescriptor_of_none pending, ite_self]

/-! ### Handing over a frame -/

/-- The ring right after the card was told of the frame. -/
def handed (ring : TransmitRing) (frame : Bytes) : TransmitRing :=
  (ring.fill frame).armTxDescriptor.2.writeTail frame

theorem armTxDescriptor_of_rest (rest : ring.Rest) (below : ring.txProducer < ringDescriptorCount)
    (frame : Bytes) : (ring.fill frame).armTxDescriptor =
      (true, { ring.fill frame with txPendingMask := descriptorBit ring.txProducer }) := by
  have pending : (ring.fill frame).txPendingMask = 0#32 := rest.pending
  have inside : ¬ (ring.fill frame).txProducer ≥ ringDescriptorCount := Nat.not_le.mpr below
  unfold armTxDescriptor
  rw [if_neg inside, pending, BitVec.zero_and, BitVec.zero_or]
  rfl

theorem handed_of_rest (rest : ring.Rest) (below : ring.txProducer < ringDescriptorCount)
    (frame : Bytes) : ring.handed frame = { ring.fill frame with
        txPendingMask := descriptorBit ring.txProducer
        nic := { ring.nic with tail := ring.nextCursor }
        owner := update ring.owner ring.txProducer ring.frames.length
        frames := ring.frames ++ [frame] } := by
  unfold handed
  rw [armTxDescriptor_of_rest rest below frame]
  rfl

variable {frame : Bytes}

/-- The buffer and the descriptor are as the card needs them. -/
theorem unread_handed (rest : ring.Rest) (below : ring.txProducer < ringDescriptorCount)
    (fits : frame.length ≤ pageSize) :
    (ring.handed frame).Unread ring.txProducer ring.frames frame := by
  rw [handed_of_rest rest below frame]
  refine ⟨rest.caughtUp.head.trans rest.producer.symm, ?_, ?_, ?_, rest.caughtUp.sent⟩
  · show (update ring.descriptors ring.txProducer _ ring.txProducer).done = false
    rw [update_self]
    rfl
  · show (update ring.descriptors ring.txProducer _ ring.txProducer).length = frame.length
    rw [update_self]
    rfl
  · refine ext_getElem (by simp) fun index _ inside => ?_
    have within : index < pageSize := Nat.lt_of_lt_of_le inside fits
    simp [fill, within, inside]

variable {after : TransmitRing}

/-- The frame is underway; what remains to be seen is who waits for it. -/
theorem sound_handed (calm : ring.Calm) (rest : ring.Rest)
    (below : ring.txProducer < ringDescriptorCount) (fits : frame.length ≤ pageSize)
    (producer : Nat) (stage : Stage)
    (same : after = { ring.handed frame with txProducer := producer, stage := stage })
    (waits : (producer = ring.nextCursor ∧ after.Untied ∧ ring.config.interruptsEnabled = false) ∨
      after.Tied ring.txProducer) : after.Sound := by
  have unread := unread_handed rest below fits
  have handed := handed_of_rest rest below frame
  rw [handed] at same unread
  have config : after.config = ring.config := by rw [same]; rfl
  have tail : after.nic.tail = ring.nextCursor := by rw [same]
  have producerIs : after.txProducer = producer := by rw [same]
  refine ⟨⟨?_, ?_, ?_⟩, .underway ring.txProducer ring.frames frame below ?_ ?_ tail ?_ ?_ ?_ (.inl ?_)
    ?_⟩
  · rw [same]
    exact calm.ready
  · rw [same]
    exact calm.overflow
  · rw [tail]
    exact Nat.mod_lt _ (by decide)
  · rw [same]
  · rw [same]
    exact rest.queue
  · rw [same]
  · rw [same]
    exact update_self ..
  · rw [same]
    exact rest.retired
  · rw [same]
    exact ⟨unread.head, unread.open', unread.length, unread.buffer, unread.sent⟩
  · rwa [tail, config, producerIs]

/-- A sound ring with nothing pending is at rest, unless an interrupt was faster than the sender. -/
theorem Sound.rest (sound : ring.Sound) (untied : ring.Untied) (none : ring.txPendingMask = 0) :
    ring.Rest := by
  cases sound.load with
  | free rest => exact rest
  | underway index _ _ below pending =>
    rw [none] at pending
    exact absurd pending.symm (descriptorBit_ne_zero below)
  | noticed index _ _ _ _ _ _ tied => exact absurd tied untied.not_tied

/-- With nothing underway a frame that fits is handed over, and its sender waits. -/
theorem sendFrame_of_rest (rest : ring.Rest) (below : ring.txProducer < ringDescriptorCount)
    (mapped : ring.config.bar0 ≠ 0) (filled : frame ≠ [])
    (fits : frame.length ≤ pageSize) : ring.sendFrame frame = ({ ring.handed frame with
      stage := .awaitingTx ring.txProducer ring.lastTxInterruptCount frame.length }, []) := by
  unfold sendFrame handed
  rw [if_neg (by simp [mapped, filled, fits, below]), armTxDescriptor_of_rest rest below frame]
  rfl

/-- With nothing underway a frame that fits is handed over, and nobody waits. -/
theorem submitRuntimeFrame_of_rest (rest : ring.Rest)
    (below : ring.txProducer < ringDescriptorCount) (writable : ring.runtimeTransmitWritable = true)
    (filled : frame ≠ []) (fits : frame.length ≤ pageSize) :
    (ring.submitRuntimeFrame frame).1 = { ring.handed frame with txProducer := ring.nextCursor } := by
  unfold submitRuntimeFrame handed
  rw [if_neg (by simp [writable, filled, fits]), armTxDescriptor_of_rest rest below frame]
  rfl

theorem sendFrame_keeps (calm : ring.Calm) (rest : ring.Rest) (frame : Bytes) :
    (ring.sendFrame frame).1.Sound := by
  by_cases refused : ring.config.bar0 = 0 ∨ frame = [] ∨ frame.length > pageSize ∨
      ring.txProducer ≥ ringDescriptorCount
  · unfold sendFrame
    rw [if_pos refused]
    exact ⟨⟨calm.ready, calm.overflow, calm.cursor⟩, .free ⟨rest.pending, rest.queue,
      ⟨rest.caughtUp.head, rest.caughtUp.sent⟩, rest.producer, rest.retired⟩ (.inl rfl)⟩
  · simp only [not_or, Nat.not_lt, Nat.not_le] at refused
    obtain ⟨mapped, filled, fits, below⟩ := refused
    rw [sendFrame_of_rest rest below mapped filled fits]
    refine sound_handed calm rest below fits ring.txProducer
      (.awaitingTx ring.txProducer ring.lastTxInterruptCount frame.length) ?_ (.inr ⟨?_, _, _, rfl⟩)
    · rw [handed_of_rest rest below frame]
      rfl
    · rw [handed_of_rest rest below frame]
      rfl

theorem runtimeTransmitWritable_iff : ring.runtimeTransmitWritable = true ↔
    (ring.config.txRingAddress ≠ 0 ∧ ring.config.txBufferAddress ≠ 0 ∧ ring.runtimePollingMode = true ∧
      ring.runtimeMmioAccessible = true) ∧
    ring.txProducer < ringDescriptorCount ∧ ring.txPendingMask = 0 := by
  unfold runtimeTransmitWritable
  simp only [Bool.and_eq_true, bne_iff_ne, decide_eq_true_eq, beq_iff_eq]
  tauto

theorem submitRuntimeFrame_keeps (sound : ring.Sound) (idle : ring.stage = .idle) (frame : Bytes) :
    (ring.submitRuntimeFrame frame).1.Sound := by
  by_cases refused : ring.runtimeTransmitWritable = false ∨ frame = [] ∨ frame.length > pageSize
  · unfold submitRuntimeFrame
    rwa [if_pos refused]
  · simp only [not_or, Nat.not_lt, Bool.not_eq_false] at refused
    obtain ⟨writable, filled, fits⟩ := refused
    obtain ⟨⟨-, -, polling, -⟩, below, none⟩ := runtimeTransmitWritable_iff.mp writable
    have quiet : ring.config.interruptsEnabled = false := by
      simpa using (Bool.and_eq_true_iff.mp polling).2
    have rest : ring.Rest := sound.rest (.inl idle) none
    rw [submitRuntimeFrame_of_rest rest below writable filled fits]
    refine sound_handed sound.calm rest below fits ring.nextCursor .idle ?_ (.inl ⟨rfl, ?_, quiet⟩)
    · rw [handed_of_rest rest below frame, ← idle]
      rfl
    · rw [handed_of_rest rest below frame]
      exact .inl idle

/-! ### Every step -/

variable {earlier : List Bytes}

/-- What was read by the card and is retired now was the last frame. -/
theorem retired_all (frames : ring.frames = earlier ++ [frame])
    (owner : ring.owner index = earlier.length)
    (retired : ring.retired = List.range earlier.length) :
    ring.retired ++ [ring.owner index] = List.range ring.frames.length := by
  rw [frames, owner, retired, length_append, length_singleton, range_succ]

theorem owner_last (frames : ring.frames = earlier ++ [frame])
    (owner : ring.owner index = earlier.length) : ring.owner index + 1 = ring.frames.length := by
  rw [frames, owner, length_append, length_singleton]

theorem caughtUp_of_done
    (progress : ring.Unread index earlier frame ∨ ring.CaughtUp ∧ (ring.descriptors index).done = true)
    (done : ¬ (ring.descriptors index).done = false) : ring.CaughtUp := by
  rcases progress with unread | ⟨caughtUp, -⟩
  · exact absurd unread.open' done
  · exact caughtUp

theorem service_keeps (sound : ring.Sound) (untied : ring.Untied) :
    ring.serviceRuntimeTransmitCompletions.2.Sound ∧
      ring.serviceRuntimeTransmitCompletions.2.stage = ring.stage ∧
      Kept ring ring.serviceRuntimeTransmitCompletions.2 := by
  cases sound.load with
  | free rest =>
    rw [service_free rest.pending]
    exact ⟨sound, rfl, ⟨rfl, rfl, rfl, rfl⟩⟩
  | underway index earlier frame below pending queue tail frames owner retired progress waits =>
    rw [service_underway below pending queue sound.calm.ready]
    split
    · exact ⟨sound, rfl, ⟨rfl, rfl, rfl, rfl⟩⟩
    · rename_i done
      have caughtUp := caughtUp_of_done progress (not_or.mp done).2
      have producer : ring.txProducer = ring.nic.tail :=
        (waits.resolve_right untied.not_tied).1
      have calm : (ring.retire index []).Calm :=
        ⟨sound.calm.ready, sound.calm.overflow, sound.calm.cursor⟩
      exact ⟨⟨calm, .free ⟨rfl, rfl, ⟨caughtUp.head, caughtUp.sent⟩, producer,
        retired_all frames owner retired⟩ untied⟩, rfl, ⟨rfl, rfl, rfl, rfl⟩⟩
  | noticed index _ pending =>
    rw [service_free pending]
    exact ⟨sound, rfl, ⟨rfl, rfl, rfl, rfl⟩⟩

/-- A sender that has handed nothing over may start or stop waiting. -/
theorem Sound.restage (sound : ring.Sound) (untied : ring.Untied) (stage : Stage)
    (next : Untied { ring with stage := stage }) : Sound { ring with stage := stage } := by
  refine ⟨⟨sound.calm.ready, sound.calm.overflow, sound.calm.cursor⟩, ?_⟩
  cases sound.load with
  | free rest =>
    exact .free ⟨rest.pending, rest.queue, ⟨rest.caughtUp.head, rest.caughtUp.sent⟩, rest.producer,
      rest.retired⟩ next
  | underway index earlier frame below pending queue tail frames owner retired progress waits =>
    refine .underway index earlier frame below pending queue tail frames owner retired ?_ (.inl ?_)
    · rcases progress with unread | ⟨caughtUp, done⟩
      · exact .inl ⟨unread.head, unread.open', unread.length, unread.buffer, unread.sent⟩
      · exact .inr ⟨⟨caughtUp.head, caughtUp.sent⟩, done⟩
    · obtain ⟨producer, -, interrupts⟩ := waits.resolve_right untied.not_tied
      exact ⟨producer, next, interrupts⟩
  | noticed index _ _ _ _ _ _ tied => exact absurd tied untied.not_tied

theorem submitFrame_keeps (sound : ring.Sound) (idle : ring.stage = .idle) (frame : Bytes) :
    (ring.submitFrame frame).1.Sound := by
  unfold submitFrame
  split
  · rename_i none
    exact sendFrame_keeps sound.calm (sound.rest (.inl idle) none) frame
  · exact sound.restage (.inl idle) _ (.inr ⟨frame, rfl⟩)

/-- A sender that waits for its frame gets the completion of that frame. -/
theorem noticeTx_tied (sound : ring.Sound) (tied : ring.Tied index)
    (done : ¬ (ring.descriptors index).done = false) : ring.noticeTx index = (false, ring) ∨
      ∃ noticed, ring.noticeTx index = (true, noticed) ∧ noticed.Calm ∧
        noticed.txPendingMask = 0 ∧ noticed.txCompletionQueue.entries = [] ∧ noticed.CaughtUp ∧
        noticed.nic.tail = (index + 1) % ringDescriptorCount ∧
        noticed.retired = List.range noticed.frames.length ∧ Kept ring noticed ∧
        ring.owner index + 1 = ring.frames.length := by
  have same {other : Nat} (also : ring.Tied other) : other = index := also.1.symm.trans tied.1
  cases sound.load with
  | free _ untied => exact absurd tied untied.not_tied
  | underway other earlier frame below pending queue tail frames owner retired progress waits =>
    obtain rfl : other = index := same (waits.resolve_left fun free => free.2.1.not_tied tied)
    have caughtUp := caughtUp_of_done progress done
    have empty : ring.consumeCompletion other = (false, ring) :=
      consumeCompletion_of_empty sound.calm.ready queue
    unfold noticeTx
    rw [empty]
    dsimp only
    by_cases polling : ring.config.runtimeCompletionPollingEnabled = true
    · have consumed : (ring.retire other [other]).consumeCompletion other =
          (true, ring.retire other []) := consumeCompletion_of_head below sound.calm.ready rfl
      rw [if_pos ⟨rfl, polling⟩, completePendingDescriptor_of_pending below pending queue, consumed]
      exact .inr ⟨_, rfl, ⟨sound.calm.ready, sound.calm.overflow, sound.calm.cursor⟩, rfl, rfl,
        ⟨caughtUp.head, caughtUp.sent⟩, tail, retired_all frames owner retired,
        ⟨rfl, rfl, rfl, rfl⟩, owner_last frames owner⟩
    · rw [if_neg fun both => polling both.2]
      exact .inl rfl
  | noticed other below pending queue tail caughtUp _ also owner retired =>
    obtain rfl : other = index := same also
    have consumed := consumeCompletion_of_head below sound.calm.ready queue
    unfold noticeTx
    rw [consumed]
    dsimp only
    rw [if_neg fun both => by cases both.1]
    exact .inr ⟨_, rfl, ⟨sound.calm.ready, sound.calm.overflow, sound.calm.cursor⟩, pending, rfl,
      ⟨caughtUp.head, caughtUp.sent⟩, tail, retired, ⟨rfl, rfl, rfl, rfl⟩, owner⟩

theorem Sound.tied (sound : ring.Sound) {baseline length : Nat}
    (stage : ring.stage = .awaitingTx index baseline length) : ring.Tied index := by
  have from' {other : Nat} (tied : ring.Tied other) : ring.Tied index := by
    obtain ⟨producer, _, _, waits⟩ := tied
    obtain ⟨rfl, -, -⟩ := Stage.awaitingTx.inj (stage.symm.trans waits)
    exact ⟨producer, _, _, waits⟩
  have loose : ¬ ring.Untied := by
    rintro (idle | ⟨frame, capacity⟩)
    · rw [idle] at stage
      cases stage
    · rw [capacity] at stage
      cases stage
  cases sound.load with
  | free _ untied => exact absurd untied loose
  | underway _ _ _ _ _ _ _ _ _ _ _ waits => exact from' (waits.resolve_left fun free => loose free.2.1)
  | noticed _ _ _ _ _ _ _ tied => exact from' tied

variable {events : List Event}

theorem look_keeps (sound : ring.Sound)
    (looks : ring.look = some (after, events)) : after.Sound := by
  unfold look at looks
  split at looks
  · cases looks
  · rename_i frame capacity
    obtain ⟨serviced, stage, -⟩ := service_keeps sound (.inr ⟨frame, capacity⟩)
    dsimp only at looks
    split at looks
    · rename_i none
      have rest := serviced.rest (.inr ⟨frame, stage.trans capacity⟩) none
      obtain rfl : (ring.serviceRuntimeTransmitCompletions.2.sendFrame frame).1 = after :=
        congrArg Prod.fst (Option.some.inj looks)
      exact sendFrame_keeps serviced.calm rest frame
    · cases looks
      exact serviced
  · rename_i index baseline length waits
    split at looks
    · cases looks
      exact sound
    · rename_i done
      rcases noticeTx_tied sound (sound.tied waits) done with
        missed | ⟨noticed, found, calm, pending, queue, caughtUp, tail, retired, -, -⟩
      · rw [missed] at looks
        cases looks
        exact sound
      · rw [found] at looks
        cases looks
        exact ⟨⟨calm.ready, calm.overflow, calm.cursor⟩, .free ⟨pending, queue, ⟨caughtUp.head, caughtUp.sent⟩,
          tail.symm, retired⟩ (.inl rfl)⟩

theorem expire_keeps (sound : ring.Sound)
    (inTime : ∀ index baseline length, ring.stage ≠ .awaitingTx index baseline length)
    (expires : ring.expire = some (after, events)) : after.Sound := by
  unfold expire at expires
  split at expires
  · cases expires
  · rename_i busy
    cases expires
    refine sound.restage ?_ .idle (.inl rfl)
    cases stage : ring.stage with
    | idle => exact absurd stage busy
    | awaitingCapacity frame => exact .inr ⟨frame, stage⟩
    | awaitingTx index baseline length => exact absurd stage (inTime index baseline length)

theorem interrupt_keeps (sound : ring.Sound) (cause : BitVec 32) : (ring.interrupt cause).Sound := by
  unfold interrupt
  split
  · exact sound
  rename_i enabled
  have enabled : ring.config.interruptsEnabled = true := by
    simpa using (not_or.mp enabled).1
  let told : TransmitRing :=
    { ring with lastTxCause := cause, txInterruptCount := wrapIncrement 64 ring.txInterruptCount }
  show told.scanTxCompletions.Sound
  have calm : told.Calm := ⟨sound.calm.ready, sound.calm.overflow, sound.calm.cursor⟩
  cases sound.load with
  | free rest untied =>
    rw [@scan_none told rest.pending]
    exact ⟨calm, .free ⟨rest.pending, rest.queue, ⟨rest.caughtUp.head, rest.caughtUp.sent⟩,
      rest.producer, rest.retired⟩ untied⟩
  | underway index earlier frame below pending queue tail frames owner retired progress waits =>
    have tied := waits.resolve_left fun free => by
      rw [free.2.2] at enabled
      cases enabled
    rw [@scan_underway told index below pending queue]
    by_cases done : (told.descriptors index).done = false
    · rw [if_pos done]
      refine ⟨calm, .underway index earlier frame below pending queue tail frames owner retired
        (.inl ?_) (.inr tied)⟩
      have unread := progress.resolve_right fun both => by
        rw [both.2] at done
        cases done
      exact ⟨unread.head, unread.open', unread.length, unread.buffer, unread.sent⟩
    · rw [if_neg done]
      have caughtUp := caughtUp_of_done progress done
      exact ⟨⟨calm.ready, calm.overflow, calm.cursor⟩, .noticed index below rfl rfl tail
        ⟨caughtUp.head, caughtUp.sent⟩ (Bool.eq_true_of_not_eq_false done) tied
        (owner_last frames owner) (retired_all frames owner retired)⟩
  | noticed index below pending queue tail caughtUp done tied owner retired =>
    rw [@scan_none told pending]
    exact ⟨calm, .noticed index below pending queue tail ⟨caughtUp.head, caughtUp.sent⟩ done tied owner
      retired⟩

/-- The card reads the frame that the sender put into the buffer. -/
theorem transmit_keeps (sound : ring.Sound)
    (transmits : ring.transmit = some (after, events)) : after.Sound := by
  unfold transmit at transmits
  split at transmits
  · cases transmits
  rename_i behind
  cases sound.load with
  | free rest => exact absurd rest.caughtUp.head behind
  | underway index earlier frame below pending queue tail frames owner retired progress waits =>
    have unread := progress.resolve_right fun both => absurd both.1.head behind
    obtain ⟨head, -, length, buffer, sent⟩ := unread
    dsimp only at transmits
    cases transmits
    refine ⟨⟨sound.calm.ready, sound.calm.overflow, sound.calm.cursor⟩, .underway index earlier frame below pending queue
      tail frames owner retired (.inr ⟨⟨?_, ?_⟩, ?_⟩) waits⟩
    · show (ring.nic.head + 1) % ringDescriptorCount = ring.nic.tail
      rw [head, tail]
    · show ring.nic.sent ++ [(List.range (ring.descriptors ring.nic.head).length).map ring.buffer] =
        ring.frames
      rw [head, length, buffer, sent, frames]
    · show (update ring.descriptors ring.nic.head _ index).done = true
      rw [head, update_self]
      exact beq_iff_eq.mpr (Nat.or_mod_two_eq_one.mpr (.inr rfl))
  | noticed index _ _ _ _ caughtUp => exact absurd caughtUp.head behind

/-! ### In step with the card -/

/-- The frame went to the card, which reads it next. -/
structure Hands (before after : TransmitRing) (frame : Bytes) : Prop where
  frames : after.frames = before.frames ++ [frame]
  tail : after.nic.tail = before.nextCursor
  reads : after.transmit.map (fun outcome => outcome.1.nic.sent) = some (before.nic.sent ++ [frame])

/-- Outside a wait the cursors agree, each frame is retired once and in order, and when the card
is done the next frame can be handed over. -/
structure InStep (ring : TransmitRing) : Prop where
  cursor : ring.Untied → ring.txProducer = ring.nic.tail
  retired : ring.retired = List.range ring.retired.length
  owed : ring.frames.length = ring.retired.length + if ring.txPendingMask = 0 then 0 else 1
  sent : ring.nic.sent = ring.frames.take ring.nic.sent.length
  order : ring.retired.length ≤ ring.nic.sent.length
  overflow : ring.txCompletionQueue.overflow = 0
  drained : ring.Untied → ring.txCompletionQueue.entries = [] ∧ ring.txReadyMask = 0
  recovers : ring.Untied → ring.config.txRingAddress ≠ 0 → ring.nic.head = ring.nic.tail →
    ring.serviceRuntimeTransmitCompletions.2.txPendingMask = 0
  submits : ring.stage = .idle → ring.txPendingMask = 0 → ring.config.bar0 ≠ 0 →
    ∀ frame, frame ≠ [] → frame.length ≤ pageSize → Hands ring (ring.submitFrame frame).1 frame
  submitsRuntime : ring.stage = .idle → ring.txPendingMask = 0 →
    ring.config.txRingAddress ≠ 0 → ring.config.txBufferAddress ≠ 0 → ring.runtimePollingMode = true →
    ring.runtimeMmioAccessible = true →
    ∀ frame, frame ≠ [] → frame.length ≤ pageSize → Hands ring (ring.submitRuntimeFrame frame).1 frame

/-- The driver leaves buffer and descriptors alone while the card reads, and a sender gets the
completion of its own frame when the card has sent it. -/
structure Guarded (before : TransmitRing) (action : Action) (after : TransmitRing)
    (events : List Event) : Prop where
  unchanged : action ≠ .transmit → before.nic.head ≠ before.nic.tail →
    after.buffer = before.buffer ∧ after.descriptors = before.descriptors
  own : ∀ completion, .completed completion ∈ events →
    before.owner completion.descriptorIndex + 1 = after.frames.length ∧
      after.retired = List.range after.frames.length ∧ after.nic.sent = after.frames

theorem transmit_handed (rest : ring.Rest) (below : ring.txProducer < ringDescriptorCount)
    (fits : frame.length ≤ pageSize) (producer : Nat) (stage : Stage) :
    ({ ring.handed frame with txProducer := producer, stage := stage } : TransmitRing).transmit.map
      (fun outcome => outcome.1.nic.sent) = some (ring.nic.sent ++ [frame]) := by
  obtain ⟨head, -, length, buffer, sent⟩ := unread_handed rest below fits
  have tail : (ring.handed frame).nic.tail = ring.nextCursor := by rw [handed_of_rest rest below frame]
  have behind : ¬ (ring.handed frame).nic.head = (ring.handed frame).nic.tail := by
    rw [head, tail]
    exact next_ne below
  unfold transmit
  dsimp only
  rw [if_neg behind, Option.map_some]
  dsimp only
  rw [head, length, buffer, sent, rest.caughtUp.sent]

theorem hands_of_handed (rest : ring.Rest) (below : ring.txProducer < ringDescriptorCount)
    (fits : frame.length ≤ pageSize) (producer : Nat) (stage : Stage)
    (same : after = { ring.handed frame with txProducer := producer, stage := stage }) :
    Hands ring after frame := by
  have reads := transmit_handed rest below fits producer stage
  rw [← same] at reads
  rw [handed_of_rest rest below frame] at same
  refine ⟨?_, ?_, reads⟩
  · rw [same]
  · rw [same]

theorem Sound.producer (sound : ring.Sound) (untied : ring.Untied) : ring.txProducer = ring.nic.tail := by
  cases sound.load with
  | free rest => exact rest.producer
  | underway _ _ _ _ _ _ _ _ _ _ _ waits => exact (waits.resolve_right untied.not_tied).1
  | noticed _ _ _ _ _ _ _ tied => exact absurd tied untied.not_tied

theorem Sound.below (sound : ring.Sound) (untied : ring.Untied) : ring.txProducer < ringDescriptorCount := by
  rw [sound.producer untied]
  exact sound.calm.cursor

/-- Once the card has read everything, a pass retires what is left. -/
theorem Sound.recovers (sound : ring.Sound) (present : ring.config.txRingAddress ≠ 0)
    (level : ring.nic.head = ring.nic.tail) :
    ring.serviceRuntimeTransmitCompletions.2.txPendingMask = 0 := by
  cases sound.load with
  | free rest =>
    rw [service_free rest.pending]
    exact rest.pending
  | underway index earlier frame below pending queue tail _ _ _ progress =>
    have read := progress.resolve_left fun unread => by
      rw [unread.head, tail] at level
      exact next_ne below level
    rw [service_underway below pending queue sound.calm.ready, if_neg (by simp [present, read.2])]
    rfl
  | noticed _ _ pending =>
    rwa [service_free pending]

theorem Sound.inStep (sound : ring.Sound) : ring.InStep where
  cursor := sound.producer
  retired := by
    cases sound.load with
    | free rest => rw [rest.retired, length_range]
    | underway _ _ _ _ _ _ _ _ _ retired => rw [retired, length_range]
    | noticed _ _ _ _ _ _ _ _ _ retired => rw [retired, length_range]
  owed := by
    cases sound.load with
    | free rest => rw [if_pos rest.pending, rest.retired, length_range, Nat.add_zero]
    | underway _ _ _ below pending _ _ frames _ retired =>
      rw [if_neg (by rw [pending]; exact descriptorBit_ne_zero below), retired, length_range, frames,
        length_append, length_singleton]
    | noticed _ _ pending _ _ _ _ _ _ retired =>
      rw [if_pos pending, retired, length_range, Nat.add_zero]
  sent := by
    cases sound.load with
    | free rest => rw [rest.caughtUp.sent, take_length]
    | underway _ _ _ _ _ _ _ frames _ _ progress =>
      rcases progress with unread | ⟨caughtUp, -⟩
      · rw [unread.sent, frames, take_left]
      · rw [caughtUp.sent, take_length]
    | noticed _ _ _ _ _ caughtUp => rw [caughtUp.sent, take_length]
  order := by
    cases sound.load with
    | free rest => rw [rest.retired, length_range, rest.caughtUp.sent]
    | underway _ _ _ _ _ _ _ frames _ retired progress =>
      rw [retired, length_range]
      rcases progress with unread | ⟨caughtUp, -⟩
      · rw [unread.sent]
      · rw [caughtUp.sent, frames, length_append]
        exact Nat.le_add_right ..
    | noticed _ _ _ _ _ caughtUp _ _ _ retired => rw [retired, length_range, caughtUp.sent]
  overflow := sound.calm.overflow
  drained untied := by
    refine ⟨?_, sound.calm.ready⟩
    cases sound.load with
    | free rest => exact rest.queue
    | underway _ _ _ _ _ queue => exact queue
    | noticed _ _ _ _ _ _ _ tied => exact absurd tied untied.not_tied
  recovers _ := sound.recovers
  submits idle none mapped frame filled fits := by
    have rest := sound.rest (.inl idle) none
    have below := sound.below (.inl idle)
    unfold submitFrame
    rw [if_pos none, sendFrame_of_rest rest below mapped filled fits]
    refine hands_of_handed rest below fits ring.txProducer
      (.awaitingTx ring.txProducer ring.lastTxInterruptCount frame.length) ?_
    rw [handed_of_rest rest below frame]
    rfl
  submitsRuntime idle none address buffer polling accessible frame filled fits := by
    have rest := sound.rest (.inl idle) none
    have below := sound.below (.inl idle)
    have writable := runtimeTransmitWritable_iff.mpr ⟨⟨address, buffer, polling, accessible⟩, below, none⟩
    rw [submitRuntimeFrame_of_rest rest below writable filled fits]
    refine hands_of_handed rest below fits ring.nextCursor ring.stage ?_
    rw [handed_of_rest rest below frame]
    rfl

/-! ### Buffer, descriptors and completions -/

variable {before : TransmitRing} {action : Action}

theorem guarded_of_kept (buffer : after.buffer = before.buffer)
    (descriptors : after.descriptors = before.descriptors)
    (silent : ∀ completion, .completed completion ∉ events) : Guarded before action after events where
  unchanged _ _ := ⟨buffer, descriptors⟩
  own completion member := absurd member (silent completion)

/-- With nothing to read the card does not care. -/
theorem guarded_of_level (level : before.nic.head = before.nic.tail)
    (silent : ∀ completion, .completed completion ∉ events) :
    Guarded before action after events where
  unchanged _ behind := absurd level behind
  own completion member := absurd member (silent completion)

theorem sendFrame_silent (frame : Bytes) (completion : TxCompletion) :
    .completed completion ∉ (ring.sendFrame frame).2 := by
  unfold sendFrame
  intro member
  split at member
  · cases mem_singleton.mp member
  · dsimp only at member
    split at member
    · cases mem_singleton.mp member
    · cases member

theorem submitRuntimeFrame_guarded (sound : ring.Sound) (idle : ring.stage = .idle) (frame : Bytes) :
    Guarded ring (.submitRuntimeFrame frame) (ring.submitRuntimeFrame frame).1
      (ring.submitRuntimeFrame frame).2 := by
  unfold submitRuntimeFrame
  split
  · exact guarded_of_kept rfl rfl fun _ member => nomatch mem_singleton.mp member
  · rename_i accepted
    have writable : ring.runtimeTransmitWritable = true :=
      Bool.eq_true_of_not_eq_false fun refused => accepted (.inl refused)
    have rest := sound.rest (.inl idle) (runtimeTransmitWritable_iff.mp writable).2.2
    dsimp only
    split
    · exact guarded_of_level rest.caughtUp.head fun _ member => nomatch mem_singleton.mp member
    · exact guarded_of_level rest.caughtUp.head fun _ member => nomatch mem_singleton.mp member

theorem submitFrame_guarded (sound : ring.Sound) (idle : ring.stage = .idle) (frame : Bytes) :
    Guarded ring (.submitFrame frame) (ring.submitFrame frame).1 (ring.submitFrame frame).2 := by
  unfold submitFrame
  split
  · rename_i none
    exact guarded_of_level (sound.rest (.inl idle) none).caughtUp.head (sendFrame_silent frame)
  · exact guarded_of_kept rfl rfl fun _ member => nomatch member

theorem look_guarded (sound : ring.Sound)
    (looks : ring.look = some (after, events)) : Guarded ring .look after events := by
  unfold look at looks
  split at looks
  · cases looks
  · rename_i frame capacity
    obtain ⟨serviced, stage, kept⟩ := service_keeps sound (.inr ⟨frame, capacity⟩)
    dsimp only at looks
    split at looks
    · rename_i none
      have rest := serviced.rest (.inr ⟨frame, stage.trans capacity⟩) none
      have level : ring.nic.head = ring.nic.tail := by
        rw [← kept.nic]
        exact rest.caughtUp.head
      obtain rfl : (ring.serviceRuntimeTransmitCompletions.2.sendFrame frame).2 = events :=
        congrArg Prod.snd (Option.some.inj looks)
      exact guarded_of_level level (sendFrame_silent frame)
    · cases looks
      exact guarded_of_kept kept.buffer kept.descriptors fun _ member => nomatch member
  · rename_i index baseline length waits
    split at looks
    · cases looks
      exact guarded_of_kept rfl rfl fun _ member => nomatch member
    · rename_i done
      rcases noticeTx_tied sound (sound.tied waits) done with
        missed | ⟨noticed, found, -, -, -, caughtUp, -, retired, kept, owner⟩
      · rw [missed] at looks
        cases looks
        exact guarded_of_kept rfl rfl fun _ member => nomatch member
      · rw [found] at looks
        cases looks
        refine ⟨fun _ _ => ⟨kept.buffer, kept.descriptors⟩, fun completion member => ?_⟩
        obtain rfl := Event.completed.inj (mem_singleton.mp member)
        exact ⟨owner.trans (congrArg List.length kept.frames).symm, retired, caughtUp.sent⟩

theorem interrupt_guarded (sound : ring.Sound) (cause : BitVec 32) :
    Guarded ring (.interrupt cause) (ring.interrupt cause) [] := by
  unfold interrupt
  split
  · exact guarded_of_kept rfl rfl fun _ member => nomatch member
  let told : TransmitRing :=
    { ring with lastTxCause := cause, txInterruptCount := wrapIncrement 64 ring.txInterruptCount }
  show Guarded ring (.interrupt cause) told.scanTxCompletions []
  cases sound.load with
  | free rest => exact guarded_of_level rest.caughtUp.head fun _ member => nomatch member
  | underway index _ _ below pending queue =>
    rw [@scan_underway told index below pending queue]
    split
    · exact guarded_of_kept rfl rfl fun _ member => nomatch member
    · exact guarded_of_kept rfl rfl fun _ member => nomatch member
  | noticed _ _ _ _ _ caughtUp => exact guarded_of_level caughtUp.head fun _ member => nomatch member

end TransmitRing

open TransmitRing

/-- No sender gives up on a frame it has handed over. -/
def InTime : Action → TransmitRing → Prop
  | .expire, ring => ∀ index baseline length, ring.stage ≠ .awaitingTx index baseline length
  | _, _ => True

variable {ring after : TransmitRing} {action : Action} {events : List Event}

theorem machine_keeps (sound : ring.Sound) (inTime : InTime action ring)
    (steps : machine action ring = some (after, events)) : after.Sound := by
  unfold machine at steps
  split at steps
  · split at steps
    · rename_i frame idle
      obtain rfl : (ring.submitRuntimeFrame frame).1 = after := congrArg Prod.fst (Option.some.inj steps)
      exact submitRuntimeFrame_keeps sound idle frame
    · cases steps
  · split at steps
    · rename_i frame idle
      obtain rfl : (ring.submitFrame frame).1 = after := congrArg Prod.fst (Option.some.inj steps)
      exact submitFrame_keeps sound idle frame
    · cases steps
  · split at steps
    · rename_i idle
      cases steps
      exact (service_keeps sound (.inl idle)).1
    · cases steps
  · exact look_keeps sound steps
  · exact expire_keeps sound inTime steps
  · cases steps
    exact interrupt_keeps sound _
  · exact transmit_keeps sound steps

theorem idleRing_sound {config : Config} {cursor : Nat} {descriptors : Nat → TxDescriptor}
    {buffer : Nat → UInt8} (below : cursor < ringDescriptorCount) :
    (idleRing config cursor descriptors buffer).Sound :=
  ⟨⟨rfl, rfl, below⟩, .free ⟨rfl, rfl, ⟨rfl, rfl⟩, rfl, rfl⟩ (Or.inl rfl)⟩

theorem machine_guarded (sound : ring.Sound) (steps : machine action ring = some (after, events)) :
    Guarded ring action after events := by
  unfold machine at steps
  split at steps
  · split at steps
    · rename_i frame idle
      have outcome := Option.some.inj steps
      obtain ⟨rfl, rfl⟩ := And.intro (congrArg Prod.fst outcome) (congrArg Prod.snd outcome)
      exact submitRuntimeFrame_guarded sound idle frame
    · cases steps
  · split at steps
    · rename_i frame idle
      have outcome := Option.some.inj steps
      obtain ⟨rfl, rfl⟩ := And.intro (congrArg Prod.fst outcome) (congrArg Prod.snd outcome)
      exact submitFrame_guarded sound idle frame
    · cases steps
  · split at steps
    · rename_i idle
      cases steps
      obtain ⟨-, -, kept⟩ := service_keeps sound (.inl idle)
      exact guarded_of_kept kept.buffer kept.descriptors fun _ member => nomatch mem_singleton.mp member
    · cases steps
  · exact look_guarded sound steps
  · unfold expire at steps
    split at steps
    · cases steps
    · cases steps
      exact guarded_of_kept rfl rfl fun _ member => nomatch mem_singleton.mp member
  · cases steps
    exact interrupt_guarded sound _
  · unfold transmit at steps
    split at steps
    · cases steps
    · cases steps
      exact ⟨fun other => absurd rfl other, fun _ member => nomatch member⟩

/-- In a run in which no sender gives up on a frame it has handed over, the driver stays in step
with the card. -/
theorem transmits_in_step {config : Config} {cursor : Nat} {descriptors : Nat → TxDescriptor}
    {buffer : Nat → UInt8} (below : cursor < ringDescriptorCount) {ring : TransmitRing}
    (reached : Runs.Reached machine InTime (idleRing config cursor descriptors buffer) ring) :
    ring.InStep ∧ ∀ action after events, machine action ring = some (after, events) →
      Guarded ring action after events := by
  have sound : ring.Sound := reached.keeps (idleRing_sound below)
    fun _ _ _ _ sound inTime steps => machine_keeps sound inTime steps
  exact ⟨sound.inStep, fun _ _ _ steps => machine_guarded sound steps⟩

/-- A card that is polled. -/
def polled : Config where
  bar0 := pageSize
  txRingAddress := 2 * pageSize
  txBufferAddress := 3 * pageSize
  runtimeCompletionPollingEnabled := true
  interruptsEnabled := false
  mmioMapped := true

def quiet : TransmitRing := idleRing polled 7 (fun _ => {}) fun _ => 0

/-- A sender waits for its frame, which the card has just read. -/
def waited : TransmitRing :=
  Runs.run machine [.submitRuntimeFrame [1, 2], .transmit, .submitFrame [3], .look, .transmit] quiet

theorem waited_in_step : waited.InStep ∧ ∀ action after events,
    machine action waited = some (after, events) → Guarded waited action after events := by
  have admits : Runs.Admits machine InTime
      [.submitRuntimeFrame [1, 2], .transmit, .submitFrame [3], .look, .transmit] quiet :=
    ⟨trivial, trivial, trivial, trivial, trivial, trivial⟩
  exact transmits_in_step (by decide) (Runs.Reached.origin.run admits)

/-- A sender has given up on its frame. -/
def abandoned : TransmitRing := Runs.run machine [.submitFrame [3], .expire] quiet

/-- The card was told cursor 0 and the driver still stands at cursor 7. -/
theorem abandoned_apart : ¬ ∀ ring, Runs.Reached machine (fun _ _ => True) quiet ring →
    ring.InStep := by
  intro inStep
  have reached : Runs.Reached machine (fun _ _ => True) quiet abandoned :=
    Runs.Reached.origin.run (Runs.admits_all _ _)
  have untied : abandoned.stage = .idle := by decide +kernel
  have cursors : (abandoned.txProducer, abandoned.nic.tail) = (7, 0) := by decide +kernel
  have same := (inStep abandoned reached).cursor (.inl untied)
  have apart : abandoned.txProducer ≠ abandoned.nic.tail := by
    intro equal
    have both := Prod.mk.inj cursors
    rw [both.1, both.2] at equal
    cases equal
  exact apart same

end ZigOs.E1000e
