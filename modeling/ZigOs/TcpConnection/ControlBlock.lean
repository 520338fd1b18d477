/-
This file models one end of a TCP connection: the control block with its
sequence numbers and its retransmission timer, the opening of a connection from
either side, the sending of data and of the end of the stream, and what each
state does with a segment. Sequence numbers are 32-bit words that wrap; a
rejected segment changes nothing.
-/

import ZigOs.Error

namespace ZigOs.TcpConnection

inductive State where
  | closed | synSent | synReceived | established | finWait1 | finWait2 | closeWait | lastAck
  | timeWait | reset | timedOut
  deriving DecidableEq, Repr

inductive RejectReason where
  | none | invalidState | invalidSegment | invalidAcknowledgement | unexpectedSequence
  | duplicateSegment | segmentOutsideWindow | unsupportedSimultaneousOpen
  | invalidRetransmissionPolicy
  deriving DecidableEq, Repr

inductive ActionKind where
  | none | sendSyn | sendSynAck | sendAck | sendFinAck | connectionReset | connectionClosed
  deriving DecidableEq, Repr

inductive TimerReason where
  | none | invalidState | timerInactive | backwardTick | beforeDeadline
  deriving DecidableEq, Repr

inductive TimerAction where
  | none | retransmitSyn | retransmitSynAck | timedOut
  deriving DecidableEq, Repr

/-! ### Segments -/

abbrev Sequence := BitVec 32

abbrev Flags := BitVec 9

abbrev flagFin : Flags := 1
abbrev flagSyn : Flags := 2
abbrev flagRst : Flags := 4
abbrev flagPsh : Flags := 8
abbrev flagAck : Flags := 16

def hasFlag (flags flag : Flags) : Bool := flags &&& flag != 0

/-- The signed difference of the two numbers is negative. -/
def sequenceBefore (lhs rhs : Sequence) : Bool := (lhs - rhs).slt 0

/-- What a control block sees of a segment that comes in. -/
structure SegmentView where
  sequenceNumber : Sequence
  acknowledgementNumber : Sequence
  flags : Flags
  windowSize : Nat
  payloadLength : Nat := 0
  deriving DecidableEq

structure OutboundSegment where
  sequenceNumber : Sequence
  acknowledgementNumber : Sequence
  flags : Flags
  windowSize : Nat
  deriving DecidableEq

/-! ### The control block -/

structure RetransmissionPolicy where
  initialTimeoutTicks : Nat := 0
  maximumTimeoutTicks : Nat := 0
  maximumRetries : Nat := 0
  deriving DecidableEq

def RetransmissionPolicy.valid (policy : RetransmissionPolicy) : Bool :=
  policy.initialTimeoutTicks != 0 &&
    decide (policy.maximumTimeoutTicks ≥ policy.initialTimeoutTicks) && policy.maximumRetries != 0

structure ControlBlock where
  state : State := .closed
  initialSendSequence : Sequence := 0
  sendUnacknowledged : Sequence := 0
  sendNext : Sequence := 0
  receiveNext : Sequence := 0
  sendWindow : Nat := 0
  receiveWindow : Nat
  resets : Nat := 0
  bytesReceived : Nat := 0
  bytesSent : Nat := 0
  finsReceived : Nat := 0
  finsSent : Nat := 0
  retransmissionPolicy : RetransmissionPolicy := {}
  retransmissionActive : Bool := false
  retransmissionDeadline : Nat := 0
  retransmissionInterval : Nat := 0
  retransmissions : Nat := 0
  lastTimerTick : Nat := 0
  deriving DecidableEq

structure Transition where
  accepted : Bool
  previousState : State
  state : State
  action : ActionKind
  outbound : Option OutboundSegment
  rejection : RejectReason
  deriving DecidableEq

structure TimerResult where
  action : TimerAction
  previousState : State
  state : State
  reason : TimerReason
  tick : Nat
  previousDeadline : Nat
  nextDeadline : Nat
  interval : Nat
  retransmissions : Nat
  outbound : Option OutboundSegment
  deriving DecidableEq

/-- A sum that stays at the largest number of the given width. -/
def saturatingAdd (width lhs rhs : Nat) : Nat := min (lhs + rhs) (2 ^ width - 1)

def nextRetransmissionInterval (current maximum : Nat) : Nat :=
  if current ≥ maximum then maximum else min (current * 2) maximum

def init (receiveWindow : Nat) : Option ControlBlock :=
  if receiveWindow = 0 then none else some { receiveWindow }

def reject (state : State) (reason : RejectReason) : Transition :=
  { accepted := false
    previousState := state
    state := state
    action := .none
    outbound := none
    rejection := reason }

namespace ControlBlock

def makeSyn (control : ControlBlock) : OutboundSegment :=
  { sequenceNumber := control.initialSendSequence
    acknowledgementNumber := 0
    flags := flagSyn
    windowSize := control.receiveWindow }

def makeSynAck (control : ControlBlock) : OutboundSegment :=
  { sequenceNumber := control.initialSendSequence
    acknowledgementNumber := control.receiveNext
    flags := flagSyn ||| flagAck
    windowSize := control.receiveWindow }

def makeAck (control : ControlBlock) : OutboundSegment :=
  { sequenceNumber := control.sendNext
    acknowledgementNumber := control.receiveNext
    flags := flagAck
    windowSize := control.receiveWindow }

/-- A step that was taken, with the block it leaves. -/
def accepted (control : ControlBlock) (previous : State) (action : ActionKind)
    (outbound : Option OutboundSegment) : Transition × ControlBlock :=
  ({ accepted := true
     previousState := previous
     state := control.state
     action := action
     outbound := outbound
     rejection := .none }, control)

/-- A step that was refused: the block stays as it is. -/
def refuse (control : ControlBlock) (reason : RejectReason) : Transition × ControlBlock :=
  (reject control.state reason, control)

/-- A refusal that tells the peer where the stream stands. -/
def acknowledgeRejection (control : ControlBlock) (reason : RejectReason) :
    Transition × ControlBlock :=
  ({ accepted := false
     previousState := control.state
     state := control.state
     action := .sendAck
     outbound := some control.makeAck
     rejection := reason }, control)

/-! ### Opening -/

/-- The counters of a connection that begins. -/
def cleared (control : ControlBlock) : ControlBlock :=
  { control with resets := 0, bytesReceived := 0, bytesSent := 0, finsReceived := 0, finsSent := 0 }

def startTimer (control : ControlBlock) (tick : Nat) (policy : RetransmissionPolicy) :
    ControlBlock :=
  { control with
    retransmissionPolicy := policy
    retransmissionActive := true
    retransmissionInterval := policy.initialTimeoutTicks
    retransmissionDeadline := saturatingAdd 64 tick policy.initialTimeoutTicks
    retransmissions := 0
    lastTimerTick := tick }

def beginActiveOpen (control : ControlBlock) (initialSequence : Sequence) :
    Transition × ControlBlock :=
  if control.state ≠ .closed then control.refuse .invalidState
  else
    let opened := { control.cleared with
      state := .synSent
      initialSendSequence := initialSequence
      sendUnacknowledged := initialSequence
      sendNext := initialSequence + 1
      receiveNext := 0
      sendWindow := 0
      retransmissionActive := false
      retransmissionDeadline := 0
      retransmissionInterval := 0
      retransmissions := 0
      lastTimerTick := 0 }
    opened.accepted control.state .sendSyn (some opened.makeSyn)

def beginActiveOpenAt (control : ControlBlock) (initialSequence : Sequence) (tick : Nat)
    (policy : RetransmissionPolicy) : Transition × ControlBlock :=
  if policy.valid = false then control.refuse .invalidRetransmissionPolicy
  else
    let (transition, opened) := control.beginActiveOpen initialSequence
    if transition.accepted = false then (transition, opened)
    else (transition, opened.startTimer tick policy)

def beginPassiveOpenAt (control : ControlBlock) (initialSequence : Sequence)
    (segment : SegmentView) (tick : Nat) (policy : RetransmissionPolicy) :
    Transition × ControlBlock :=
  if control.state ≠ .closed then control.refuse .invalidState
  else if policy.valid = false then control.refuse .invalidRetransmissionPolicy
  else if segment.flags ≠ flagSyn ∨ segment.payloadLength ≠ 0 then control.refuse .invalidSegment
  else
    let opened := { control.cleared.startTimer tick policy with
      state := .synReceived
      initialSendSequence := initialSequence
      sendUnacknowledged := initialSequence
      sendNext := initialSequence + 1
      receiveNext := segment.sequenceNumber + 1
      sendWindow := segment.windowSize }
    opened.accepted control.state .sendSynAck (some opened.makeSynAck)

/-! ### Sending -/

/-- Everything sent is acknowledged and the peer's window is open. -/
def applicationSendReady (control : ControlBlock) : Bool :=
  control.state == .established && control.sendUnacknowledged == control.sendNext &&
    control.sendWindow != 0

def beginApplicationSend (control : ControlBlock) (payloadLength : Nat) :
    Option (OutboundSegment × ControlBlock) :=
  if payloadLength = 0 ∨ control.applicationSendReady = false ∨ payloadLength > control.sendWindow then
    none
  else some
    ({ sequenceNumber := control.sendNext
       acknowledgementNumber := control.receiveNext
       flags := flagPsh ||| flagAck
       windowSize := control.receiveWindow },
      { control with
        sendNext := control.sendNext + BitVec.ofNat 32 payloadLength
        bytesSent := saturatingAdd 64 control.bytesSent payloadLength })

/-- Send the end of the stream and move on to the given state. -/
def sendFin (control : ControlBlock) (next : State) : Transition × ControlBlock :=
  let closing := { control with
    sendNext := control.sendNext + 1
    finsSent := saturatingAdd 32 control.finsSent 1
    state := next }
  closing.accepted control.state .sendFinAck (some
    { sequenceNumber := control.sendNext
      acknowledgementNumber := control.receiveNext
      flags := flagFin ||| flagAck
      windowSize := control.receiveWindow })

def beginClose (control : ControlBlock) : Transition × ControlBlock :=
  match control.state with
  | .established => control.sendFin .finWait1
  | .closeWait => control.sendFin .lastAck
  | _ => control.refuse .invalidState

def expireTimeWait (control : ControlBlock) : Transition × ControlBlock :=
  if control.state ≠ .timeWait then control.refuse .invalidState
  else { control with state := .closed }.accepted control.state .connectionClosed none

/-! ### Receiving -/

def handleSynchronizedReset (control : ControlBlock) (segment : SegmentView) :
    Transition × ControlBlock :=
  if hasFlag segment.flags flagSyn ∨ segment.payloadLength ≠ 0 then control.refuse .invalidSegment
  else if segment.sequenceNumber ≠ control.receiveNext then control.refuse .unexpectedSequence
  else
    { control with
      state := .reset
      resets := saturatingAdd 32 control.resets 1
      retransmissionActive := false }.accepted control.state .connectionReset none

def handleSynSent (control : ControlBlock) (segment : SegmentView) : Transition × ControlBlock :=
  let hasSyn := hasFlag segment.flags flagSyn
  let hasAck := hasFlag segment.flags flagAck
  if hasFlag segment.flags flagRst then
    if hasSyn ∨ hasAck = false ∨ segment.payloadLength ≠ 0 then control.refuse .invalidSegment
    else if segment.acknowledgementNumber ≠ control.sendNext then
      control.refuse .invalidAcknowledgement
    else
      { control with
        sendUnacknowledged := segment.acknowledgementNumber
        state := .reset
        resets := saturatingAdd 32 control.resets 1
        retransmissionActive := false }.accepted control.state .connectionReset none
  else if hasSyn = false then control.refuse .invalidSegment
  else if hasAck = false then control.refuse .unsupportedSimultaneousOpen
  else if hasFlag segment.flags flagFin ∨ segment.payloadLength ≠ 0 then
    control.refuse .invalidSegment
  else if segment.acknowledgementNumber ≠ control.sendNext then
    control.refuse .invalidAcknowledgement
  else
    let opened := { control with
      sendUnacknowledged := segment.acknowledgementNumber
      receiveNext := segment.sequenceNumber + 1
      sendWindow := segment.windowSize
      state := .established
      retransmissionActive := false }
    opened.accepted control.state .sendAck (some opened.makeAck)

def handleSynReceived (control : ControlBlock) (segment : SegmentView) :
    Transition × ControlBlock :=
  if segment.flags = flagSyn ∧ segment.payloadLength = 0 then
    if segment.sequenceNumber + 1 ≠ control.receiveNext then control.refuse .unexpectedSequence
    else control.accepted control.state .sendSynAck (some control.makeSynAck)
  else if hasFlag segment.flags flagRst then control.handleSynchronizedReset segment
  else if segment.flags ≠ flagAck ∨ segment.payloadLength ≠ 0 then control.refuse .invalidSegment
  else if segment.sequenceNumber ≠ control.receiveNext then control.refuse .unexpectedSequence
  else if segment.acknowledgementNumber ≠ control.sendNext then
    control.refuse .invalidAcknowledgement
  else
    { control with
      sendUnacknowledged := segment.acknowledgementNumber
      sendWindow := segment.windowSize
      state := .established
      retransmissionActive := false }.accepted control.state .none none

/-- Take over what the peer acknowledges and the window it offers. -/
def acknowledgedBy (control : ControlBlock) (segment : SegmentView) : ControlBlock :=
  { control with
    sendUnacknowledged := segment.acknowledgementNumber
    sendWindow := segment.windowSize }

/-- Take over the payload of a segment. -/
def receivePayload (control : ControlBlock) (length : Nat) : ControlBlock :=
  { control with
    receiveNext := control.receiveNext + BitVec.ofNat 32 length
    bytesReceived := saturatingAdd 64 control.bytesReceived length }

/-- Take over the end of the peer's stream. -/
def receiveFin (control : ControlBlock) (next : State) : ControlBlock :=
  { control with
    receiveNext := control.receiveNext + 1
    finsReceived := saturatingAdd 32 control.finsReceived 1
    state := next }

def handleEstablished (control : ControlBlock) (segment : SegmentView) :
    Transition × ControlBlock :=
  if hasFlag segment.flags flagRst then control.handleSynchronizedReset segment
  else if hasFlag segment.flags flagSyn ∨ hasFlag segment.flags flagAck = false then
    control.refuse .invalidSegment
  else if segment.acknowledgementNumber ≠ control.sendNext then
    control.refuse .invalidAcknowledgement
  else if segment.payloadLength > control.receiveWindow then control.refuse .segmentOutsideWindow
  else if segment.sequenceNumber ≠ control.receiveNext then
    control.acknowledgeRejection
      (if sequenceBefore segment.sequenceNumber control.receiveNext then .duplicateSegment
        else .unexpectedSequence)
  else
    let acknowledged := control.acknowledgedBy segment
    let received := if segment.payloadLength ≠ 0 then
      acknowledged.receivePayload segment.payloadLength else acknowledged
    if hasFlag segment.flags flagFin then
      let finished := received.receiveFin .closeWait
      finished.accepted control.state .sendAck (some finished.makeAck)
    else if segment.payloadLength ≠ 0 then
      received.accepted control.state .sendAck (some received.makeAck)
    else received.accepted control.state .none none

def handleFinWait1 (control : ControlBlock) (segment : SegmentView) : Transition × ControlBlock :=
  if hasFlag segment.flags flagRst then control.handleSynchronizedReset segment
  else if hasFlag segment.flags flagSyn ∨ hasFlag segment.flags flagAck = false ∨
      segment.payloadLength ≠ 0 then control.refuse .invalidSegment
  else if segment.acknowledgementNumber ≠ control.sendNext then
    control.refuse .invalidAcknowledgement
  else if segment.sequenceNumber ≠ control.receiveNext then
    control.acknowledgeRejection .unexpectedSequence
  else
    let acknowledged := control.acknowledgedBy segment
    if hasFlag segment.flags flagFin then
      let finished := acknowledged.receiveFin .timeWait
      finished.accepted control.state .sendAck (some finished.makeAck)
    else { acknowledged with state := .finWait2 }.accepted control.state .none none

def handleFinWait2 (control : ControlBlock) (segment : SegmentView) : Transition × ControlBlock :=
  if hasFlag segment.flags flagRst then control.handleSynchronizedReset segment
  else if hasFlag segment.flags flagSyn ∨ hasFlag segment.flags flagAck = false ∨
      segment.payloadLength ≠ 0 then control.refuse .invalidSegment
  else if segment.acknowledgementNumber ≠ control.sendNext then
    control.refuse .invalidAcknowledgement
  else if hasFlag segment.flags flagFin = false then
    if segment.sequenceNumber ≠ control.receiveNext then
      control.acknowledgeRejection .unexpectedSequence
    else (control.acknowledgedBy segment).accepted control.state .none none
  else if segment.sequenceNumber ≠ control.receiveNext then
    control.acknowledgeRejection
      (if segment.sequenceNumber + 1 = control.receiveNext then .duplicateSegment
        else .unexpectedSequence)
  else
    let finished := (control.acknowledgedBy segment).receiveFin .timeWait
    finished.accepted control.state .sendAck (some finished.makeAck)

/-- The peer's stream is over; only a reset is taken. -/
def handleCloseWait (control : ControlBlock) (segment : SegmentView) : Transition × ControlBlock :=
  if hasFlag segment.flags flagRst then control.handleSynchronizedReset segment
  else control.refuse .invalidSegment

def handleLastAck (control : ControlBlock) (segment : SegmentView) : Transition × ControlBlock :=
  if hasFlag segment.flags flagRst then control.handleSynchronizedReset segment
  else if hasFlag segment.flags flagSyn ∨ hasFlag segment.flags flagFin ∨
      hasFlag segment.flags flagAck = false ∨ segment.payloadLength ≠ 0 then
    control.refuse .invalidSegment
  else if segment.acknowledgementNumber ≠ control.sendNext then
    control.refuse .invalidAcknowledgement
  else if segment.sequenceNumber ≠ control.receiveNext then
    control.acknowledgeRejection .unexpectedSequence
  else
    { control.acknowledgedBy segment with state := .closed }.accepted control.state
      .connectionClosed none

def handleTimeWait (control : ControlBlock) (segment : SegmentView) : Transition × ControlBlock :=
  if hasFlag segment.flags flagRst then control.handleSynchronizedReset segment
  else if hasFlag segment.flags flagFin ∧ hasFlag segment.flags flagAck ∧
      segment.payloadLength = 0 ∧ segment.sequenceNumber + 1 = control.receiveNext ∧
      segment.acknowledgementNumber = control.sendNext then
    control.acknowledgeRejection .duplicateSegment
  else control.refuse .invalidSegment

def handleSegment (control : ControlBlock) (segment : SegmentView) : Transition × ControlBlock :=
  match control.state with
  | .synSent => control.handleSynSent segment
  | .synReceived => control.handleSynReceived segment
  | .established => control.handleEstablished segment
  | .finWait1 => control.handleFinWait1 segment
  | .finWait2 => control.handleFinWait2 segment
  | .closeWait => control.handleCloseWait segment
  | .lastAck => control.handleLastAck segment
  | .timeWait => control.handleTimeWait segment
  | _ => control.refuse .invalidState

/-! ### The retransmission timer -/

def timerNoop (control : ControlBlock) (tick : Nat) (reason : TimerReason) :
    TimerResult × ControlBlock :=
  ({ action := .none
     previousState := control.state
     state := control.state
     reason := reason
     tick := tick
     previousDeadline := control.retransmissionDeadline
     nextDeadline := control.retransmissionDeadline
     interval := control.retransmissionInterval
     retransmissions := control.retransmissions
     outbound := none }, control)

/-- Give up. -/
def expire (control : ControlBlock) (tick : Nat) : TimerResult × ControlBlock :=
  ({ action := .timedOut
     previousState := control.state
     state := .timedOut
     reason := .none
     tick := tick
     previousDeadline := control.retransmissionDeadline
     nextDeadline := control.retransmissionDeadline
     interval := control.retransmissionInterval
     retransmissions := control.retransmissions
     outbound := none },
    { control with state := .timedOut, retransmissionActive := false, lastTimerTick := tick })

/-- Send the handshake segment again and wait longer. -/
def retransmit (control : ControlBlock) (tick : Nat) : TimerResult × ControlBlock :=
  let interval := nextRetransmissionInterval control.retransmissionInterval
    control.retransmissionPolicy.maximumTimeoutTicks
  let waiting := { control with
    retransmissions := saturatingAdd 8 control.retransmissions 1
    retransmissionInterval := interval
    retransmissionDeadline := saturatingAdd 64 tick interval
    lastTimerTick := tick }
  ({ action := if control.state = .synSent then .retransmitSyn else .retransmitSynAck
     previousState := control.state
     state := waiting.state
     reason := .none
     tick := tick
     previousDeadline := control.retransmissionDeadline
     nextDeadline := waiting.retransmissionDeadline
     interval := waiting.retransmissionInterval
     retransmissions := waiting.retransmissions
     outbound := some (if control.state = .synSent then waiting.makeSyn else waiting.makeSynAck) },
    waiting)

def onTimer (control : ControlBlock) (tick : Nat) : TimerResult × ControlBlock :=
  if control.state ≠ .synSent ∧ control.state ≠ .synReceived then
    control.timerNoop tick .invalidState
  else if control.retransmissionActive = false then control.timerNoop tick .timerInactive
  else if tick < control.lastTimerTick then control.timerNoop tick .backwardTick
  else if tick < control.retransmissionDeadline then control.timerNoop tick .beforeDeadline
  else if control.retransmissions ≥ control.retransmissionPolicy.maximumRetries then
    control.expire tick
  else control.retransmit tick

end ControlBlock

end ZigOs.TcpConnection
