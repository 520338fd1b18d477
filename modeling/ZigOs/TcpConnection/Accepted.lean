/-
This file says what an accepted segment does to a control block, state by state.
A refused one does nothing; an accepted one completes the handshake, resets the
connection, or moves the stream on.
-/

import ZigOs.TcpConnection.ControlBlock

namespace ZigOs.TcpConnection

namespace ControlBlock

variable {control after : ControlBlock} {segment : SegmentView} {transition : Transition}

/-- The block after a reset. -/
def resetBlock (control : ControlBlock) : ControlBlock :=
  { control with
    state := .reset
    resets := saturatingAdd 32 control.resets 1
    retransmissionActive := false }

/-- The block when the handshake is complete. -/
def completed (control : ControlBlock) (segment : SegmentView) : ControlBlock :=
  { control.acknowledgedBy segment with state := .established, retransmissionActive := false }

/-- The block of a connection that the peer has begun. -/
def passivelyOpened (control : ControlBlock) (initialSequence : Sequence) (segment : SegmentView)
    (tick : Nat) (policy : RetransmissionPolicy) : ControlBlock :=
  { control.cleared.startTimer tick policy with
    state := .synReceived
    initialSendSequence := initialSequence
    sendUnacknowledged := initialSequence
    sendNext := initialSequence + 1
    receiveNext := segment.sequenceNumber + 1
    sendWindow := segment.windowSize }

variable {initialSequence : Sequence} {tick : Nat} {policy : RetransmissionPolicy}

/-- Only a bare first segment opens a connection, and it is answered. -/
theorem beginPassiveOpenAt_cases
    (begun : control.beginPassiveOpenAt initialSequence segment tick policy = (transition, after)) :
    transition.accepted = false ∨
      (segment.flags = flagSyn ∧ after = control.passivelyOpened initialSequence segment tick policy ∧
        transition.outbound = some after.makeSynAck) := by
  unfold beginPassiveOpenAt at begun
  split at begun
  · cases begun
    exact .inl rfl
  · split at begun
    · cases begun
      exact .inl rfl
    · split at begun
      · cases begun
        exact .inl rfl
      · rename_i bare
        cases begun
        exact .inr ⟨not_not.mp (not_or.mp bare).1, rfl, rfl⟩

/-- The block of a connection that is being made. -/
def activelyOpened (control : ControlBlock) (initialSequence : Sequence) (tick : Nat)
    (policy : RetransmissionPolicy) : ControlBlock :=
  { control.cleared.startTimer tick policy with
    state := .synSent
    initialSendSequence := initialSequence
    sendUnacknowledged := initialSequence
    sendNext := initialSequence + 1
    receiveNext := 0
    sendWindow := 0 }

theorem beginActiveOpenAt_cases
    (begun : control.beginActiveOpenAt initialSequence tick policy = (transition, after)) :
    (transition.accepted = false ∧ transition.outbound = none ∧ after = control) ∨
      (transition.outbound = some after.makeSyn ∧
        after = control.activelyOpened initialSequence tick policy) := by
  unfold beginActiveOpenAt at begun
  split at begun
  · cases begun
    exact .inl ⟨rfl, rfl, rfl⟩
  · unfold beginActiveOpen at begun
    by_cases opens : control.state ≠ .closed
    · rw [if_pos opens] at begun
      cases begun
      exact .inl ⟨rfl, rfl, rfl⟩
    · rw [if_neg opens] at begun
      cases begun
      exact .inr ⟨rfl, rfl⟩

/-- Data goes out on an established connection and acknowledges what has come in. -/
theorem beginApplicationSend_cases {length : Nat} {outbound : OutboundSegment}
    (begun : control.beginApplicationSend length = some (outbound, after)) :
    control.applicationSendReady = true ∧ control.state = .established ∧
      outbound.acknowledgementNumber = control.receiveNext ∧
        after = { control with
          sendNext := control.sendNext + BitVec.ofNat 32 length
          bytesSent := saturatingAdd 64 control.bytesSent length } := by
  unfold beginApplicationSend at begun
  split at begun
  · cases begun
  · rename_i ready
    cases (Option.some.inj begun)
    simp only [not_or, Bool.not_eq_false] at ready
    have established := ready.2.1
    simp only [applicationSendReady, Bool.and_eq_true, beq_iff_eq] at established
    exact ⟨ready.2.1, established.1.1, rfl, rfl⟩

/-- The end of the stream goes out from two states, and acknowledges what has come in. -/
theorem beginClose_cases (closed : control.beginClose = (transition, after)) :
    transition.accepted = false ∨
      ((control.state = .established ∧ after.state = .finWait1 ∨
          control.state = .closeWait ∧ after.state = .lastAck) ∧
        after.bytesReceived = control.bytesReceived ∧ after.finsReceived = control.finsReceived ∧
          after.receiveNext = control.receiveNext ∧ ∃ outbound,
            transition.outbound = some outbound ∧
              outbound.acknowledgementNumber = control.receiveNext) := by
  unfold beginClose at closed
  split at closed
  · rename_i state
    cases closed
    exact .inr ⟨.inl ⟨state, rfl⟩, rfl, rfl, rfl, _, rfl, rfl⟩
  · rename_i state
    cases closed
    exact .inr ⟨.inr ⟨state, rfl⟩, rfl, rfl, rfl, _, rfl, rfl⟩
  · cases closed
    exact .inl rfl

theorem handleSynchronizedReset_cases
    (handled : control.handleSynchronizedReset segment = (transition, after)) :
    (transition.accepted = false ∧ after = control) ∨
      (hasFlag segment.flags flagSyn = false ∧ segment.payloadLength = 0 ∧
        segment.sequenceNumber = control.receiveNext ∧ transition.state = .reset ∧
          transition.outbound = none ∧ after = control.resetBlock) := by
  unfold handleSynchronizedReset at handled
  split at handled
  · cases handled
    exact .inl ⟨rfl, rfl⟩
  · rename_i plain
    split at handled
    · cases handled
      exact .inl ⟨rfl, rfl⟩
    · rename_i inOrder
      cases handled
      simp only [not_or, Bool.not_eq_true, ne_eq, not_not] at plain inOrder
      exact .inr ⟨plain.1, plain.2, inOrder, rfl, rfl, rfl⟩

/-- An opener is reset by its peer, or completes the handshake with the segment that answers its
own. -/
theorem handleSynSent_cases (handled : control.handleSynSent segment = (transition, after)) :
    (transition.accepted = false ∧ after = control) ∨
      (transition.state = .reset ∧ transition.outbound = none ∧
        after = { control.resetBlock with sendUnacknowledged := segment.acknowledgementNumber }) ∨
      (hasFlag segment.flags flagSyn = true ∧ transition.state = .established ∧
        after = { control.completed segment with receiveNext := segment.sequenceNumber + 1 } ∧
          transition.outbound = some after.makeAck) := by
  unfold handleSynSent at handled
  dsimp only at handled
  repeat' split at handled
  all_goals
    cases handled
  any_goals exact .inl ⟨rfl, rfl⟩
  · exact .inr (.inl ⟨rfl, rfl, rfl⟩)
  · refine .inr (.inr ⟨?_, rfl, rfl, rfl⟩)
    simp_all

/-- A listener's end answers the first segment again, is reset, or completes the handshake. -/
theorem handleSynReceived_cases (handled : control.handleSynReceived segment = (transition, after)) :
    (transition.accepted = false ∧ after = control) ∨
      (transition.state = control.state ∧ transition.outbound = some control.makeSynAck ∧
        after = control) ∨
      (transition.state = .reset ∧ transition.outbound = none ∧ after = control.resetBlock) ∨
      (transition.state = .established ∧ transition.outbound = none ∧
        after = control.completed segment) := by
  unfold handleSynReceived at handled
  split at handled
  · split at handled
    · cases handled
      exact .inl ⟨rfl, rfl⟩
    · cases handled
      exact .inr (.inl ⟨rfl, rfl, rfl⟩)
  · split at handled
    · rcases handleSynchronizedReset_cases handled with refused | ⟨-, -, -, state, outbound, same⟩
      · exact .inl refused
      · exact .inr (.inr (.inl ⟨state, outbound, same⟩))
    · repeat' split at handled
      all_goals
        cases handled
      any_goals exact .inl ⟨rfl, rfl⟩
      exact .inr (.inr (.inr ⟨rfl, rfl, rfl⟩))

/-- The segment is the next one of an established stream. -/
structure Continues (control : ControlBlock) (segment : SegmentView) : Prop where
  reset : hasFlag segment.flags flagRst = false
  syn : hasFlag segment.flags flagSyn = false
  ack : hasFlag segment.flags flagAck = true
  acknowledges : segment.acknowledgementNumber = control.sendNext
  fits : segment.payloadLength ≤ control.receiveWindow
  inOrder : segment.sequenceNumber = control.receiveNext

/-- The segment resets a synchronized connection. -/
structure Resets (control : ControlBlock) (segment : SegmentView) : Prop where
  reset : hasFlag segment.flags flagRst = true
  syn : hasFlag segment.flags flagSyn = false
  empty : segment.payloadLength = 0
  inOrder : segment.sequenceNumber = control.receiveNext

/-- The block after the next segment of an established stream. -/
def advanced (control : ControlBlock) (segment : SegmentView) : ControlBlock :=
  let acknowledged := control.acknowledgedBy segment
  let received := if segment.payloadLength ≠ 0 then
    acknowledged.receivePayload segment.payloadLength else acknowledged
  if hasFlag segment.flags flagFin then received.receiveFin .closeWait else received

/-- A segment that carries nothing only acknowledges. -/
theorem advanced_bare (empty : segment.payloadLength = 0)
    (endless : hasFlag segment.flags flagFin = false) :
    control.advanced segment = control.acknowledgedBy segment := by
  unfold advanced
  dsimp only
  rw [if_neg (not_not.mpr empty), if_neg (Bool.eq_false_iff.mp endless)]

/-- An established end is reset or moves its stream on; only payload or the end of the stream is
answered. -/
theorem handleEstablished_cases
    (handled : control.handleEstablished segment = (transition, after)) :
    (transition.accepted = false ∧ after = control) ∨
      (control.Resets segment ∧ transition.state = .reset ∧ transition.outbound = none ∧
        after = control.resetBlock) ∨
      (control.Continues segment ∧ after = control.advanced segment ∧
        transition.state = after.state ∧ transition.outbound =
          if hasFlag segment.flags flagFin ∨ segment.payloadLength ≠ 0 then some after.makeAck
          else none) := by
  unfold handleEstablished at handled
  dsimp only at handled
  split at handled
  · rename_i reset
    rcases handleSynchronizedReset_cases handled with refused | ⟨syn, empty, inOrder, rest⟩
    · exact .inl refused
    · exact .inr (.inl ⟨⟨reset, syn, empty, inOrder⟩, rest⟩)
  · rename_i noReset
    split at handled
    · cases handled
      exact .inl ⟨rfl, rfl⟩
    · rename_i flags
      split at handled
      · cases handled
        exact .inl ⟨rfl, rfl⟩
      · rename_i acknowledges
        split at handled
        · cases handled
          exact .inl ⟨rfl, rfl⟩
        · rename_i fits
          split at handled
          · cases handled
            exact .inl ⟨rfl, rfl⟩
          · rename_i inOrder
            simp only [not_or, Bool.not_eq_true, Bool.not_eq_false, ne_eq, not_not, not_lt]
              at noReset flags acknowledges fits inOrder
            have continues : control.Continues segment :=
              ⟨noReset, flags.1, flags.2, acknowledges, fits, inOrder⟩
            refine .inr (.inr ⟨continues, ?_⟩)
            unfold advanced
            dsimp only
            by_cases ends : hasFlag segment.flags flagFin = true
            · rw [if_pos ends] at handled ⊢
              cases handled
              exact ⟨rfl, rfl, (if_pos (.inl ends)).symm⟩
            · rw [if_neg ends] at handled ⊢
              by_cases carries : segment.payloadLength ≠ 0
              · rw [if_pos carries] at handled
                rw [if_pos carries, if_pos (.inr carries)]
                cases handled
                exact ⟨if_pos carries, rfl, rfl⟩
              · rw [if_neg carries] at handled
                rw [if_neg carries, if_neg (not_or.mpr ⟨ends, carries⟩)]
                cases handled
                exact ⟨if_neg carries, rfl, rfl⟩

/-! ### Any segment and the timer -/

/-- A refusal leaves the block as it is. -/
def KeptWhenRefused (control : ControlBlock) (result : Transition × ControlBlock) : Prop :=
  result.1.accepted = false → result.2 = control

variable {condition : Prop} {first second : Transition × ControlBlock}

theorem keptWhenRefused_ite [Decidable condition] (holds : control.KeptWhenRefused first)
    (fails : control.KeptWhenRefused second) :
    control.KeptWhenRefused (if condition then first else second) := by
  split
  · exact holds
  · exact fails

variable (reason : RejectReason)

theorem keptWhenRefused_refuse : control.KeptWhenRefused (control.refuse reason) := fun _ => rfl

theorem keptWhenRefused_acknowledge :
    control.KeptWhenRefused (control.acknowledgeRejection reason) := fun _ => rfl

theorem keptWhenRefused_accepted (other : ControlBlock) (previous : State) (action : ActionKind)
    (outbound : Option OutboundSegment) :
    control.KeptWhenRefused (other.accepted previous action outbound) := nofun

theorem handleSegment_kept (control : ControlBlock) (segment : SegmentView) :
    control.KeptWhenRefused (control.handleSegment segment) := by
  have reset : control.KeptWhenRefused (control.handleSynchronizedReset segment) :=
    keptWhenRefused_ite (keptWhenRefused_refuse _) (keptWhenRefused_ite (keptWhenRefused_refuse _)
      (keptWhenRefused_accepted _ _ _ _))
  unfold handleSegment
  split
  all_goals
    first
      | unfold handleSynSent
      | unfold handleSynReceived
      | unfold handleEstablished
      | unfold handleFinWait1
      | unfold handleFinWait2
      | unfold handleCloseWait
      | unfold handleLastAck
      | unfold handleTimeWait
      | skip
    repeat' first
      | exact reset
      | exact keptWhenRefused_refuse _
      | exact keptWhenRefused_acknowledge _
      | exact keptWhenRefused_accepted _ _ _ _
      | apply keptWhenRefused_ite

/-- A refused segment changes nothing, in any state. -/
theorem handleSegment_refused (handled : control.handleSegment segment = (transition, after))
    (refused : transition.accepted = false) : after = control := by
  have kept := handleSegment_kept control segment
  rw [handled] at kept
  exact kept refused

/-- A step that ends the connection sends nothing. -/
def SilentAtEnd (result : Transition × ControlBlock) : Prop :=
  result.1.accepted = true →
    result.1.state = .closed ∨ result.1.state = .reset ∨ result.1.state = .timedOut →
      result.1.outbound = none

theorem silentAtEnd_ite [Decidable condition] (holds : SilentAtEnd first)
    (fails : SilentAtEnd second) : SilentAtEnd (if condition then first else second) := by
  split
  · exact holds
  · exact fails

theorem silentAtEnd_refuse : SilentAtEnd (control.refuse reason) := nofun

theorem silentAtEnd_acknowledge : SilentAtEnd (control.acknowledgeRejection reason) := nofun

theorem silentAtEnd_quiet (previous : State) (action : ActionKind) :
    SilentAtEnd (control.accepted previous action none) := fun _ _ => rfl

theorem silentAtEnd_alive {previous : State} {action : ActionKind}
    {outbound : Option OutboundSegment} (alive : control.state ≠ .closed ∧ control.state ≠ .reset ∧
      control.state ≠ .timedOut) : SilentAtEnd (control.accepted previous action outbound) := by
  rintro - (ended | ended | ended)
  · exact absurd ended alive.1
  · exact absurd ended alive.2.1
  · exact absurd ended alive.2.2

theorem handleSegment_silent (control : ControlBlock) (segment : SegmentView) :
    SilentAtEnd (control.handleSegment segment) := by
  have reset : SilentAtEnd (control.handleSynchronizedReset segment) :=
    silentAtEnd_ite (silentAtEnd_refuse _) (silentAtEnd_ite (silentAtEnd_refuse _)
      (silentAtEnd_quiet _ _))
  unfold handleSegment
  split
  all_goals
    first
      | unfold handleSynSent
      | unfold handleSynReceived
      | unfold handleEstablished
      | unfold handleFinWait1
      | unfold handleFinWait2
      | unfold handleCloseWait
      | unfold handleLastAck
      | unfold handleTimeWait
      | skip
    repeat' first
      | exact reset
      | exact silentAtEnd_refuse _
      | exact silentAtEnd_acknowledge _
      | exact silentAtEnd_quiet _ _
      | apply silentAtEnd_ite
      | apply silentAtEnd_alive
  all_goals simp [apply_ite ControlBlock.state, acknowledgedBy, receivePayload, receiveFin, *]

/-- The timer does nothing, gives up, or sends the handshake segment again. -/
theorem onTimer_cases {timer : TimerResult} (handled : control.onTimer tick = (timer, after)) :
    (timer.action = .none ∧ after = control) ∨
      (timer.action = .timedOut ∧ control.retransmissionActive = true ∧
        control.retransmissionPolicy.maximumRetries ≤ control.retransmissions ∧
          after = (control.expire tick).2) ∨
      (timer.action = (if control.state = .synSent then .retransmitSyn else .retransmitSynAck) ∧
        control.retransmissionActive = true ∧
          control.retransmissions < control.retransmissionPolicy.maximumRetries ∧
            timer.outbound = some (if control.state = .synSent then after.makeSyn
              else after.makeSynAck) ∧ after = (control.retransmit tick).2) := by
  unfold onTimer at handled
  split at handled
  · cases handled
    exact .inl ⟨rfl, rfl⟩
  · split at handled
    · cases handled
      exact .inl ⟨rfl, rfl⟩
    · rename_i active
      simp only [Bool.not_eq_false] at active
      split at handled
      · cases handled
        exact .inl ⟨rfl, rfl⟩
      · split at handled
        · cases handled
          exact .inl ⟨rfl, rfl⟩
        · split at handled
          · rename_i exhausted
            cases handled
            exact .inr (.inl ⟨rfl, active, exhausted, rfl⟩)
          · rename_i more
            cases handled
            exact .inr (.inr ⟨rfl, active, not_le.mp more, rfl, rfl⟩)

end ControlBlock

end ZigOs.TcpConnection
