/-
This file shows that a segment which is refused leaves no trace: the block stays
as it is in every field, and at most a bare acknowledgement goes out that says
where the stream stands. A reset counts only when the peer shows that it knows
the connection.
-/

import ZigOs.TcpConnection.Accepted

namespace ZigOs.TcpConnection

namespace ControlBlock

variable {control : ControlBlock} {segment : SegmentView}

/-! ### What goes out with a refusal -/

/-- A refused step sends nothing but an acknowledgement. -/
def AnswersWhenRefused (control : ControlBlock) (result : Transition × ControlBlock) : Prop :=
  result.1.accepted = false → ∀ outbound, result.1.outbound = some outbound → outbound = control.makeAck

theorem answersWhenRefused_ite {condition : Prop} [Decidable condition]
    {first second : Transition × ControlBlock} (holds : control.AnswersWhenRefused first)
    (fails : control.AnswersWhenRefused second) :
    control.AnswersWhenRefused (if condition then first else second) := by
  split
  · exact holds
  · exact fails

theorem answersWhenRefused_refuse (reason : RejectReason) :
    control.AnswersWhenRefused (control.refuse reason) := fun _ _ sent => nomatch sent

theorem answersWhenRefused_acknowledge (reason : RejectReason) :
    control.AnswersWhenRefused (control.acknowledgeRejection reason) :=
  fun _ _ sent => (Option.some.inj sent).symm

theorem answersWhenRefused_accepted (other : ControlBlock) (previous : State) (action : ActionKind)
    (outbound : Option OutboundSegment) :
    control.AnswersWhenRefused (other.accepted previous action outbound) := nofun

theorem handleSegment_answers (control : ControlBlock) (segment : SegmentView) :
    control.AnswersWhenRefused (control.handleSegment segment) := by
  have reset : control.AnswersWhenRefused (control.handleSynchronizedReset segment) :=
    answersWhenRefused_ite (answersWhenRefused_refuse _) (answersWhenRefused_ite
      (answersWhenRefused_refuse _) (answersWhenRefused_accepted _ _ _ _))
  unfold handleSegment
  split
  all_goals
    first
      | unfold handleSynSent
      | unfold handleSynReceived
      | unfold handleEstablished
      | unfold handleFinWait1
      | unfold handleFinWait2
      | unfold handleCloseWait
      | unfold handleLastAck
      | unfold handleTimeWait
      | skip
    repeat' first
      | exact reset
      | exact answersWhenRefused_refuse _
      | exact answersWhenRefused_acknowledge _
      | exact answersWhenRefused_accepted _ _ _ _
      | apply answersWhenRefused_ite

/-! ### Resets -/

/-- The peer knows the connection: it acknowledges the first segment of an opener, or it continues
the stream exactly where it stands. -/
def ResetAcceptable (control : ControlBlock) (segment : SegmentView) : Prop :=
  if control.state = .synSent then segment.acknowledgementNumber = control.sendNext
  else segment.sequenceNumber = control.receiveNext

theorem handleSynSent_reset (reset : hasFlag segment.flags flagRst = true)
    (changes : (control.handleSynSent segment).2 ≠ control) :
    segment.acknowledgementNumber = control.sendNext := by
  unfold handleSynSent at changes
  dsimp only at changes
  rw [if_pos reset] at changes
  split at changes
  · exact absurd rfl changes
  · split at changes
    · exact absurd rfl changes
    · rename_i acknowledges
      exact not_not.mp acknowledges

theorem handleSynchronizedReset_inOrder
    (changes : (control.handleSynchronizedReset segment).2 ≠ control) :
    segment.sequenceNumber = control.receiveNext := by
  rcases handleSynchronizedReset_cases (Eq.refl (control.handleSynchronizedReset segment)) with
    refused | ⟨-, -, inOrder, -⟩
  · exact absurd refused.2 changes
  · exact inOrder

/-- Once both ends have spoken, a reset is handled in the same way in every state. -/
theorem handleSegment_synchronizedReset (reset : hasFlag segment.flags flagRst = true)
    (spoken : control.state ≠ .synSent) :
    control.handleSegment segment = control.handleSynchronizedReset segment ∨
      control.handleSegment segment = control.refuse .invalidState := by
  unfold handleSegment
  cases state : control.state with
  | synSent => exact absurd state spoken
  | synReceived =>
    have other : ¬ (segment.flags = flagSyn ∧ segment.payloadLength = 0) := by
      rintro ⟨onlySyn, -⟩
      rw [onlySyn] at reset
      cases reset
    dsimp only
    unfold handleSynReceived
    rw [if_neg other, if_pos reset]
    exact .inl rfl
  | established => exact .inl (if_pos reset)
  | finWait1 => exact .inl (if_pos reset)
  | finWait2 => exact .inl (if_pos reset)
  | closeWait => exact .inl (if_pos reset)
  | lastAck => exact .inl (if_pos reset)
  | timeWait => exact .inl (if_pos reset)
  | closed => exact .inr rfl
  | reset => exact .inr rfl
  | timedOut => exact .inr rfl

theorem handleSegment_reset (reset : hasFlag segment.flags flagRst = true)
    (changes : (control.handleSegment segment).2 ≠ control) : control.ResetAcceptable segment := by
  unfold ResetAcceptable
  split
  · rename_i opener
    refine handleSynSent_reset reset ?_
    unfold handleSegment at changes
    rwa [opener] at changes
  · rename_i spoken
    rcases handleSegment_synchronizedReset reset spoken with same | refused
    · rw [same] at changes
      exact handleSynchronizedReset_inOrder changes
    · rw [refused] at changes
      exact absurd rfl changes

/-- A segment that is not accepted leaves the block as it is and is answered by a bare
acknowledgement at most, and a reset changes the block only when it is acceptable. -/
theorem handleSegment_traceless (control : ControlBlock) (segment : SegmentView) :
    ((control.handleSegment segment).1.accepted = false →
      (control.handleSegment segment).2 = control ∧
        ∀ outbound, (control.handleSegment segment).1.outbound = some outbound →
          outbound = { sequenceNumber := control.sendNext
                       acknowledgementNumber := control.receiveNext
                       flags := flagAck
                       windowSize := control.receiveWindow }) ∧
    (hasFlag segment.flags flagRst = true → (control.handleSegment segment).2 ≠ control →
      if control.state = .synSent then segment.acknowledgementNumber = control.sendNext
      else segment.sequenceNumber = control.receiveNext) :=
  ⟨fun refused => ⟨handleSegment_kept control segment refused,
    handleSegment_answers control segment refused⟩, handleSegment_reset⟩

end ControlBlock

end ZigOs.TcpConnection
