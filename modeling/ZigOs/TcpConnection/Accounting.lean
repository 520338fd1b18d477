/-
This file proves that the sequence numbers of a connection account for its
octets. Beside the control block runs an account that counts what was really taken
in and sent: it is told which steps were taken and never reads the block's own
counters. From the moment a connection is synchronized the number the block
expects next is the peer's first number plus everything that came in, the number it
sends next is its own first number plus everything that went out, and the two
ends of the unacknowledged range are no further apart than what is in flight.
-/

import ZigOs.TcpConnection.Accepted

namespace ZigOs.TcpConnection

open ControlBlock

/-! ### Runs with an account -/

/-- A segment as it comes in, with the widths of its fields. -/
structure Arrival where
  sequenceNumber : Sequence
  acknowledgementNumber : Sequence
  flags : Flags
  windowSize : BitVec 16
  payloadLength : BitVec 16
  deriving DecidableEq

def Arrival.view (arrival : Arrival) : SegmentView where
  sequenceNumber := arrival.sequenceNumber
  acknowledgementNumber := arrival.acknowledgementNumber
  flags := arrival.flags
  windowSize := arrival.windowSize.toNat
  payloadLength := arrival.payloadLength.toNat

/-- What can happen to a control block. -/
inductive Event where
  | activeOpen (initialSequence : Sequence)
  | activeOpenAt (initialSequence : Sequence) (tick : Nat) (policy : RetransmissionPolicy)
  | passiveOpenAt (initialSequence : Sequence) (arrival : Arrival) (tick : Nat)
      (policy : RetransmissionPolicy)
  | send (payloadLength : BitVec 16)
  | close
  | timer (tick : Nat)
  | timeWaitExpires
  | arrives (arrival : Arrival)

/-- The octets of a connection: the peer's first number, whether the handshake is complete, the
octets taken in and sent, those in flight, and the window at the last send. -/
structure Account where
  peer : Option Sequence := none
  isSynchronized : Bool := false
  received : Nat := 0
  sent : Nat := 0
  inFlight : Nat := 0
  granted : Nat := 0
  deriving DecidableEq

/-- An accepted segment delivers its payload and acknowledges what is in flight, unless it
resets the connection or only repeats the opening. -/
def Account.hears (account : Account) (segment : SegmentView) (transition : Transition) : Account :=
  if transition.accepted = false ∨ transition.state = .reset ∨ transition.state = .synReceived then
    account
  else
    { account with
      peer := if transition.previousState = .synSent then some segment.sequenceNumber
        else account.peer
      isSynchronized := true
      received := account.received + segment.payloadLength
      inFlight := 0 }

/-- A control block and the account of its connection. -/
structure Connection where
  control : ControlBlock
  account : Account := {}
  deriving DecidableEq

def Connection.step (connection : Connection) (event : Event) : Connection :=
  let ⟨control, account⟩ := connection
  match event with
  | .activeOpen initialSequence =>
    let (transition, after) := control.beginActiveOpen initialSequence
    ⟨after, if transition.accepted then {} else account⟩
  | .activeOpenAt initialSequence tick policy =>
    let (transition, after) := control.beginActiveOpenAt initialSequence tick policy
    ⟨after, if transition.accepted then {} else account⟩
  | .passiveOpenAt initialSequence arrival tick policy =>
    let (transition, after) := control.beginPassiveOpenAt initialSequence arrival.view tick policy
    ⟨after, if transition.accepted then { peer := some arrival.sequenceNumber } else account⟩
  | .send payloadLength =>
    match control.beginApplicationSend payloadLength.toNat with
    | none => ⟨control, account⟩
    | some (_, after) => ⟨after, { account with
        sent := account.sent + payloadLength.toNat
        inFlight := account.inFlight + payloadLength.toNat
        granted := control.sendWindow }⟩
  | .close =>
    let (transition, after) := control.beginClose
    ⟨after, if transition.accepted then { account with inFlight := account.inFlight + 1 }
      else account⟩
  | .timer tick => ⟨(control.onTimer tick).2, account⟩
  | .timeWaitExpires => ⟨control.expireTimeWait.2, account⟩
  | .arrives arrival =>
    let (transition, after) := control.handleSegment arrival.view
    ⟨after, account.hears arrival.view transition⟩

def Connection.run (connection : Connection) (events : List Event) : Connection :=
  events.foldl Connection.step connection

/-! ### The invariant -/

/-- The ends of the stream that a state has seen go out and come in. -/
structure FinsOf (state : State) (finsSent finsReceived : Nat) : Prop where
  sentOnce : finsSent ≤ 1
  receivedOnce : finsReceived ≤ 1
  established : state = .established → finsSent = 0 ∧ finsReceived = 0
  closeWait : state = .closeWait → finsSent = 0
  finWait : state = .finWait1 ∨ state = .finWait2 → finsReceived = 0

/-- The block agrees with the account. -/
structure Balanced (control : ControlBlock) (account : Account) : Prop where
  received : ∃ peer, account.peer = some peer ∧ control.receiveNext =
    peer + 1 + BitVec.ofNat 32 account.received + BitVec.ofNat 32 control.finsReceived
  sent : control.sendNext = control.initialSendSequence + 1 + BitVec.ofNat 32 account.sent +
    BitVec.ofNat 32 control.finsSent
  bytesReceived : control.bytesReceived = min account.received (2 ^ 64 - 1)
  bytesSent : control.bytesSent = min account.sent (2 ^ 64 - 1)
  flight : control.sendNext - control.sendUnacknowledged = BitVec.ofNat 32 account.inFlight
  inFlight : account.inFlight ≤ account.granted + control.finsSent
  granted : account.granted < 2 ^ 16
  fins : FinsOf control.state control.finsSent control.finsReceived

/-- A connection that has begun and is not synchronized yet. -/
structure Opening (control : ControlBlock) (account : Account) : Prop where
  waits : account.isSynchronized = false
  received : account.received = 0
  sent : account.sent = 0
  granted : account.granted = 0
  sendNext : control.sendNext = control.initialSendSequence + 1
  bytesReceived : control.bytesReceived = 0
  bytesSent : control.bytesSent = 0
  finsReceived : control.finsReceived = 0
  finsSent : control.finsSent = 0
  peer : control.state = .synReceived →
    ∃ peer, account.peer = some peer ∧ control.receiveNext = peer + 1

/-- The handshake is over and the connection is not. -/
def State.isSynchronized : State → Bool
  | .established | .finWait1 | .finWait2 | .closeWait | .lastAck | .timeWait => true
  | .closed | .synSent | .synReceived | .reset | .timedOut => false

def State.isOpening : State → Bool
  | .synSent | .synReceived => true
  | _ => false

structure Accounted (control : ControlBlock) (account : Account) : Prop where
  balanced : account.isSynchronized = true → Balanced control account
  opening : control.state.isOpening = true → Opening control account
  known : control.state.isSynchronized = true → account.isSynchronized = true
  window : control.sendWindow < 2 ^ 16

variable {next : State} {after : ControlBlock}

section Steps

variable {control : ControlBlock} {account : Account}

/-- A connection that ends keeps its numbers. -/
theorem Accounted.ended (accounted : Accounted control account) {state : State}
    (closing : state.isOpening = false ∧ state.isSynchronized = false)
    (resets : Nat) (active : Bool) (tick : Nat) :
    Accounted { control with
      state := state, resets := resets, retransmissionActive := active, lastTimerTick := tick }
      account := by
  refine ⟨?_, ?_, ?_, accounted.window⟩
  · intro synchronized
    obtain ⟨received, sent, bytesReceived, bytesSent, flight, inFlight, granted, fins⟩ :=
      accounted.balanced synchronized
    refine ⟨received, sent, bytesReceived, bytesSent, flight, inFlight, granted,
      ⟨fins.sentOnce, fins.receivedOnce, ?_, ?_, ?_⟩⟩
    · rintro rfl
      cases closing.2
    · rintro rfl
      cases closing.2
    · rintro (rfl | rfl)
      · cases closing.2
      · cases closing.2
  · intro opening
    cases closing.1.symm.trans opening
  · intro synchronized
    cases closing.2.symm.trans synchronized

/-! ### What single steps do to the numbers -/

theorem saturatingAdd_min (width total length : Nat) :
    saturatingAdd width (min total (2 ^ width - 1)) length = min (total + length) (2 ^ width - 1) := by
  unfold saturatingAdd
  omega

variable {segment : SegmentView}

theorem Balanced.acknowledged (balanced : Balanced control account)
    (acknowledges : segment.acknowledgementNumber = control.sendNext) :
    Balanced (control.acknowledgedBy segment) { account with inFlight := 0 } := by
  refine { balanced with flight := ?_, inFlight := Nat.zero_le _ }
  show control.sendNext - segment.acknowledgementNumber = _
  rw [acknowledges, BitVec.sub_self]

theorem Balanced.carried (balanced : Balanced control account) (length : Nat) :
    Balanced (control.receivePayload length)
      { account with received := account.received + length } := by
  obtain ⟨peer, known, number⟩ := balanced.received
  refine { balanced with received := ⟨peer, known, ?_⟩, bytesReceived := ?_ }
  · show control.receiveNext + BitVec.ofNat 32 length = _
    rw [number, BitVec.ofNat_add]
    ac_rfl
  · show saturatingAdd 64 control.bytesReceived length = _
    rw [balanced.bytesReceived, saturatingAdd_min]

/-- An empty payload is no payload. -/
theorem Balanced.payload (balanced : Balanced control account) (length : Nat) :
    Balanced (if length ≠ 0 then control.receivePayload length else control)
      { account with received := account.received + length } := by
  split
  · exact balanced.carried length
  · rename_i empty
    rwa [not_not.mp empty]

theorem Balanced.finished (balanced : Balanced control account) (first : control.finsReceived = 0)
    (closes : next = .closeWait ∧ control.finsSent = 0 ∨ next = .timeWait) :
    Balanced (control.receiveFin next) account := by
  obtain ⟨peer, known, number⟩ := balanced.received
  have once : saturatingAdd 32 control.finsReceived 1 = 1 := by
    rw [first]
    rfl
  refine { balanced with received := ⟨peer, known, ?_⟩, fins := ⟨balanced.fins.sentOnce, ?_, ?_, ?_, ?_⟩ }
  · show control.receiveNext + 1 = peer + 1 + BitVec.ofNat 32 account.received +
      BitVec.ofNat 32 (saturatingAdd 32 control.finsReceived 1)
    rw [once, number, first]
    show peer + 1 + BitVec.ofNat 32 account.received + 0#32 + 1 = _
    rw [BitVec.add_zero]
    rfl
  · exact once.le
  all_goals rcases closes with ⟨rfl, none⟩ | rfl
  · rintro ⟨⟩
  · rintro ⟨⟩
  · exact fun _ => none
  · rintro ⟨⟩
  · rintro (⟨⟨⟩⟩ | ⟨⟨⟩⟩)
  · rintro (⟨⟨⟩⟩ | ⟨⟨⟩⟩)

/-- Only the ends of the stream depend on the state. -/
theorem Balanced.moved (balanced : Balanced control account) (established : next ≠ .established)
    (closeWait : next ≠ .closeWait)
    (finWait : next = .finWait1 ∨ next = .finWait2 → control.finsReceived = 0) :
    Balanced { control with state := next } account :=
  { balanced with
    fins := ⟨balanced.fins.sentOnce, balanced.fins.receivedOnce,
      fun state => absurd state established, fun state => absurd state closeWait, finWait⟩ }

/-- The handshake segment of the peer was taken, and it acknowledges the opening. -/
theorem Opening.completes (opening : Opening control account) {peer receiveNext : Sequence}
    (acknowledges : segment.acknowledgementNumber = control.sendNext)
    (first : receiveNext = peer + 1) (resting : Nat) (empty : resting = 0) :
    Balanced { control.completed segment with receiveNext := receiveNext }
      { account with
        peer := some peer
        isSynchronized := true
        received := account.received + resting
        inFlight := 0 } := by
  have received : account.received + resting = 0 := by rw [opening.received, empty]
  refine ⟨⟨peer, rfl, ?_⟩, ?_, ?_, ?_, ?_, Nat.zero_le _, ?_, ?_⟩
  · show receiveNext = peer + 1 + BitVec.ofNat 32 (account.received + resting) +
      BitVec.ofNat 32 control.finsReceived
    rw [received, opening.finsReceived, first]
    show peer + 1 = peer + 1 + 0#32 + 0#32
    rw [BitVec.add_zero, BitVec.add_zero]
  · show control.sendNext = control.initialSendSequence + 1 + BitVec.ofNat 32 account.sent +
      BitVec.ofNat 32 control.finsSent
    rw [opening.sent, opening.finsSent, opening.sendNext]
    show control.initialSendSequence + 1 = control.initialSendSequence + 1 + 0#32 + 0#32
    rw [BitVec.add_zero, BitVec.add_zero]
  · show control.bytesReceived = min (account.received + resting) _
    rw [received, opening.bytesReceived, Nat.zero_min]
  · show control.bytesSent = min account.sent _
    rw [opening.bytesSent, opening.sent, Nat.zero_min]
  · show control.sendNext - segment.acknowledgementNumber = _
    rw [acknowledges, BitVec.sub_self]
  · show account.granted < 2 ^ 16
    rw [opening.granted]
    decide
  · exact ⟨opening.finsSent.le.trans (Nat.zero_le 1), opening.finsReceived.le.trans (Nat.zero_le 1),
      fun _ => ⟨opening.finsSent, opening.finsReceived⟩, fun _ => opening.finsSent,
      fun _ => opening.finsReceived⟩

/-- A synchronized connection stays accounted for while it is. -/
theorem Balanced.accounted (balanced : Balanced control account)
    (known : account.isSynchronized = true) (alive : control.state.isOpening = false)
    (window : control.sendWindow < 2 ^ 16) : Accounted control account where
  balanced _ := balanced
  opening opening := absurd (alive.symm.trans opening) (by decide)
  known _ := known
  window := window

/-! ### Segments -/

/-- The block and the account after a segment agree. -/
def Hears (account : Account) (segment : SegmentView) (result : Transition × ControlBlock) : Prop :=
  Accounted result.2 (account.hears segment result.1)

variable {segment : SegmentView}

theorem hears_ite {condition : Prop} [Decidable condition]
    {first second : Transition × ControlBlock} (holds : condition → Hears account segment first)
    (fails : ¬ condition → Hears account segment second) :
    Hears account segment (if condition then first else second) := by
  split
  · rename_i true
    exact holds true
  · rename_i false
    exact fails false

theorem hears_refuse (accounted : Accounted control account) (reason : RejectReason) :
    Hears account segment (control.refuse reason) := accounted

theorem hears_acknowledge (accounted : Accounted control account) (reason : RejectReason) :
    Hears account segment (control.acknowledgeRejection reason) := accounted

variable {previous : State} {action : ActionKind} {outbound : Option OutboundSegment}

/-- A segment that resets or repeats the opening is not put on the account. -/
theorem hears_aside (accounted : Accounted after account)
    (aside : after.state = .reset ∨ after.state = .synReceived) :
    Hears account segment (after.accepted previous action outbound) := by
  have same : account.hears segment (after.accepted previous action outbound).1 = account :=
    if_pos (.inr aside)
  show Accounted after (account.hears segment (after.accepted previous action outbound).1)
  rwa [same]

theorem hears_reset (accounted : Accounted control account) :
    Hears account segment (control.handleSynchronizedReset segment) := by
  refine hears_ite (fun _ => hears_refuse accounted _) fun _ => ?_
  refine hears_ite (fun _ => hears_refuse accounted _) fun _ => ?_
  exact hears_aside (accounted.ended ⟨rfl, rfl⟩ _ _ _) (.inl rfl)

/-- Any other accepted segment is. -/
theorem hears_taken (live : after.state ≠ .reset ∧ after.state ≠ .synReceived)
    (accounted : Accounted after { account with
        peer := if previous = .synSent then some segment.sequenceNumber else account.peer
        isSynchronized := true
        received := account.received + segment.payloadLength
        inFlight := 0 }) : Hears account segment (after.accepted previous action outbound) := by
  unfold Hears Account.hears
  rw [if_neg]
  · exact accounted
  · rintro (refused | reset | opening)
    · cases refused
    · exact live.1 reset
    · exact live.2 opening

/-- A segment without payload that is taken from a synchronized connection only acknowledges. -/
theorem hears_empty (live : after.state ≠ .reset ∧ after.state ≠ .synReceived ∧ previous ≠ .synSent)
    (known : account.isSynchronized = true) (empty : segment.payloadLength = 0)
    (accounted : Accounted after { account with inFlight := 0 }) :
    Hears account segment (after.accepted previous action outbound) := by
  refine hears_taken ⟨live.1, live.2.1⟩ ?_
  rwa [if_neg live.2.2, empty, Nat.add_zero, ← known]

theorem handleSynSent_hears (accounted : Accounted control account)
    (window : segment.windowSize < 2 ^ 16) (state : control.state = .synSent) :
    Hears account segment (control.handleSynSent segment) := by
  have opening : Opening control account := accounted.opening (by rw [state]; rfl)
  unfold handleSynSent
  dsimp only
  refine hears_ite (fun _ => ?_) fun _ => ?_
  · refine hears_ite (fun _ => hears_refuse accounted _) fun _ => ?_
    refine hears_ite (fun _ => hears_refuse accounted _) fun _ => ?_
    refine hears_aside ⟨?_, ?_, ?_, accounted.window⟩ (.inl rfl)
    · intro known
      cases opening.waits.symm.trans known
    · rintro ⟨⟩
    · rintro ⟨⟩
  · refine hears_ite (fun _ => hears_refuse accounted _) fun _ => ?_
    refine hears_ite (fun _ => hears_refuse accounted _) fun _ => ?_
    refine hears_ite (fun _ => hears_refuse accounted _) fun plain => ?_
    refine hears_ite (fun _ => hears_refuse accounted _) fun acknowledges => ?_
    have balanced := opening.completes (not_not.mp acknowledges) (rfl : segment.sequenceNumber + 1 = _)
      segment.payloadLength (not_not.mp (not_or.mp plain).2)
    refine hears_taken ⟨nofun, nofun⟩ ?_
    rw [if_pos state]
    exact balanced.accounted rfl rfl window

theorem handleSynReceived_hears (accounted : Accounted control account)
    (window : segment.windowSize < 2 ^ 16) (state : control.state = .synReceived) :
    Hears account segment (control.handleSynReceived segment) := by
  have opening : Opening control account := accounted.opening (by rw [state]; rfl)
  unfold handleSynReceived
  refine hears_ite (fun _ => ?_) fun _ => ?_
  · refine hears_ite (fun _ => hears_refuse accounted _) fun _ => ?_
    exact hears_aside accounted (.inr state)
  refine hears_ite (fun _ => hears_reset accounted) fun _ => ?_
  refine hears_ite (fun _ => hears_refuse accounted _) fun plain => ?_
  refine hears_ite (fun _ => hears_refuse accounted _) fun _ => ?_
  refine hears_ite (fun _ => hears_refuse accounted _) fun acknowledges => ?_
  obtain ⟨peer, known, number⟩ := opening.peer state
  have balanced := opening.completes (not_not.mp acknowledges) number
    segment.payloadLength (not_not.mp (not_or.mp plain).2)
  refine hears_taken ⟨nofun, nofun⟩ ?_
  rw [if_neg (by rw [state]; decide), known]
  exact balanced.accounted rfl rfl window

theorem handleEstablished_hears (accounted : Accounted control account)
    (window : segment.windowSize < 2 ^ 16) (state : control.state = .established) :
    Hears account segment (control.handleEstablished segment) := by
  have known : account.isSynchronized = true := accounted.known (by rw [state]; rfl)
  have opened := accounted.balanced known
  unfold handleEstablished
  dsimp only
  refine hears_ite (fun _ => hears_reset accounted) fun _ => ?_
  refine hears_ite (fun _ => hears_refuse accounted _) fun _ => ?_
  refine hears_ite (fun _ => hears_refuse accounted _) fun acknowledges => ?_
  refine hears_ite (fun _ => hears_refuse accounted _) fun _ => ?_
  refine hears_ite (fun _ => hears_acknowledge accounted _) fun _ => ?_
  have received := (opened.acknowledged (not_not.mp acknowledges)).payload segment.payloadLength
  have kept : (if segment.payloadLength ≠ 0 then
      (control.acknowledgedBy segment).receivePayload segment.payloadLength
      else control.acknowledgedBy segment).state = .established := by
    split
    · exact state
    · exact state
  have offered : (if segment.payloadLength ≠ 0 then
      (control.acknowledgedBy segment).receivePayload segment.payloadLength
      else control.acknowledgedBy segment).sendWindow < 2 ^ 16 := by
    split
    · exact window
    · exact window
  generalize (if segment.payloadLength ≠ 0 then
    (control.acknowledgedBy segment).receivePayload segment.payloadLength
    else control.acknowledgedBy segment) = middle at received kept offered
  have account' : { account with
      peer := if control.state = .synSent then some segment.sequenceNumber else account.peer
      isSynchronized := true
      received := account.received + segment.payloadLength
      inFlight := 0 } =
    { account with received := account.received + segment.payloadLength, inFlight := 0 } := by
    rw [if_neg (by rw [state]; decide), ← known]
  refine hears_ite (fun _ => ?_) fun _ => ?_
  · obtain ⟨noneSent, noneReceived⟩ := received.fins.established kept
    refine hears_taken ⟨nofun, nofun⟩ ?_
    rw [account']
    exact (received.finished noneReceived (.inl ⟨rfl, noneSent⟩)).accounted known rfl offered
  · have settled : Accounted middle
        { account with received := account.received + segment.payloadLength, inFlight := 0 } :=
      received.accounted known (by rw [kept]; rfl) offered
    have live : middle.state ≠ .reset ∧ middle.state ≠ .synReceived := by
      rw [kept]
      decide
    refine hears_ite (fun _ => hears_taken live ?_) fun _ => hears_taken live ?_
    · rwa [account']
    · rwa [account']

/-- The states in which the stream goes one way only take segments without payload. -/
theorem handleFinWait1_hears (accounted : Accounted control account)
    (window : segment.windowSize < 2 ^ 16) (state : control.state = .finWait1) :
    Hears account segment (control.handleFinWait1 segment) := by
  have known : account.isSynchronized = true := accounted.known (by rw [state]; rfl)
  have balanced := accounted.balanced known
  have noneReceived := balanced.fins.finWait (.inl state)
  have later : control.state ≠ .synSent := by rw [state]; decide
  unfold handleFinWait1
  dsimp only
  refine hears_ite (fun _ => hears_reset accounted) fun _ => ?_
  refine hears_ite (fun _ => hears_refuse accounted _) fun plain => ?_
  refine hears_ite (fun _ => hears_refuse accounted _) fun acknowledges => ?_
  refine hears_ite (fun _ => hears_acknowledge accounted _) fun _ => ?_
  have empty : segment.payloadLength = 0 := not_not.mp (not_or.mp (not_or.mp plain).2).2
  have settled := balanced.acknowledged (not_not.mp acknowledges)
  refine hears_ite (fun _ => ?_) fun _ => ?_
  · refine hears_empty ⟨nofun, nofun, later⟩ known empty ?_
    exact (settled.finished noneReceived (.inr rfl)).accounted known rfl window
  · refine hears_empty ⟨nofun, nofun, later⟩ known empty ?_
    exact (settled.moved (by decide) (by decide) fun _ => noneReceived).accounted known rfl window

theorem handleFinWait2_hears (accounted : Accounted control account)
    (window : segment.windowSize < 2 ^ 16) (state : control.state = .finWait2) :
    Hears account segment (control.handleFinWait2 segment) := by
  have known : account.isSynchronized = true := accounted.known (by rw [state]; rfl)
  have balanced := accounted.balanced known
  have noneReceived := balanced.fins.finWait (.inr state)
  have later : control.state ≠ .synSent := by rw [state]; decide
  unfold handleFinWait2
  dsimp only
  refine hears_ite (fun _ => hears_reset accounted) fun _ => ?_
  refine hears_ite (fun _ => hears_refuse accounted _) fun plain => ?_
  refine hears_ite (fun _ => hears_refuse accounted _) fun acknowledges => ?_
  have empty : segment.payloadLength = 0 := not_not.mp (not_or.mp (not_or.mp plain).2).2
  have settled := balanced.acknowledged (not_not.mp acknowledges)
  refine hears_ite (fun _ => ?_) fun _ => ?_
  · refine hears_ite (fun _ => hears_acknowledge accounted _) fun _ => ?_
    have kept : (control.acknowledgedBy segment).state = .finWait2 := state
    refine hears_empty ⟨by rw [kept]; decide, by rw [kept]; decide, later⟩ known empty ?_
    exact settled.accounted known (by rw [kept]; rfl) window
  · refine hears_ite (fun _ => hears_acknowledge accounted _) fun _ => ?_
    refine hears_empty ⟨nofun, nofun, later⟩ known empty ?_
    exact (settled.finished noneReceived (.inr rfl)).accounted known rfl window

theorem handleLastAck_hears (accounted : Accounted control account)
    (window : segment.windowSize < 2 ^ 16) (state : control.state = .lastAck) :
    Hears account segment (control.handleLastAck segment) := by
  have known : account.isSynchronized = true := accounted.known (by rw [state]; rfl)
  have balanced := accounted.balanced known
  have later : control.state ≠ .synSent := by rw [state]; decide
  unfold handleLastAck
  refine hears_ite (fun _ => hears_reset accounted) fun _ => ?_
  refine hears_ite (fun _ => hears_refuse accounted _) fun plain => ?_
  refine hears_ite (fun _ => hears_refuse accounted _) fun acknowledges => ?_
  refine hears_ite (fun _ => hears_acknowledge accounted _) fun _ => ?_
  have empty : segment.payloadLength = 0 :=
    not_not.mp (not_or.mp (not_or.mp (not_or.mp plain).2).2).2
  have settled := balanced.acknowledged (not_not.mp acknowledges)
  refine hears_empty ⟨nofun, nofun, later⟩ known empty ?_
  exact (settled.moved (by decide) (by decide) (by rintro (⟨⟨⟩⟩ | ⟨⟨⟩⟩))).accounted known rfl window

theorem handleSegment_hears (accounted : Accounted control account)
    (window : segment.windowSize < 2 ^ 16) :
    Hears account segment (control.handleSegment segment) := by
  unfold handleSegment
  split
  · rename_i state
    exact handleSynSent_hears accounted window state
  · rename_i state
    exact handleSynReceived_hears accounted window state
  · rename_i state
    exact handleEstablished_hears accounted window state
  · rename_i state
    exact handleFinWait1_hears accounted window state
  · rename_i state
    exact handleFinWait2_hears accounted window state
  · exact hears_ite (fun _ => hears_reset accounted) fun _ => hears_refuse accounted _
  · rename_i state
    exact handleLastAck_hears accounted window state
  · exact hears_ite (fun _ => hears_reset accounted) fun _ =>
      hears_ite (fun _ => hears_acknowledge accounted _) fun _ => hears_refuse accounted _
  · exact hears_refuse accounted _

end Steps

/-! ### Runs -/

theorem Accounted.opened {control : ControlBlock} {account : Account}
    (opening : Opening control account) (window : control.sendWindow < 2 ^ 16)
    (early : control.state.isSynchronized = false) : Accounted control account where
  balanced known := absurd (opening.waits.symm.trans known) (by decide)
  opening _ := opening
  known state := absurd (early.symm.trans state) (by decide)
  window := window

variable {control : ControlBlock} {account : Account}

/-- Data is sent only when nothing is in flight, and no more than the window allows. -/
theorem Accounted.sends {length : Nat} {outbound : OutboundSegment}
    (accounted : Accounted control account)
    (begun : control.beginApplicationSend length = some (outbound, after)) :
    Accounted after { account with
      sent := account.sent + length
      inFlight := account.inFlight + length
      granted := control.sendWindow } := by
  obtain ⟨ready, established, -, rfl⟩ := beginApplicationSend_cases begun
  have fits : length ≤ control.sendWindow := by
    unfold beginApplicationSend at begun
    split at begun
    · cases begun
    · rename_i allowed
      exact not_lt.mp (not_or.mp (not_or.mp allowed).2).2
  have known : account.isSynchronized = true := accounted.known (by rw [established]; rfl)
  have balanced := accounted.balanced known
  simp only [applicationSendReady, Bool.and_eq_true, beq_iff_eq] at ready
  have silent : account.inFlight = 0 := by
    have flight := balanced.flight
    rw [ready.1.2, BitVec.sub_self] at flight
    have wraps : 0 = account.inFlight % 2 ^ 32 := congrArg BitVec.toNat flight
    have small : account.inFlight < 2 ^ 32 := by
      have limit := balanced.inFlight
      have once := balanced.fins.sentOnce
      have granted := balanced.granted
      omega
    rw [Nat.mod_eq_of_lt small] at wraps
    exact wraps.symm
  refine Balanced.accounted ?_ known (by show control.state.isOpening = false; rw [established]; rfl)
    accounted.window
  refine { balanced with
    sent := ?_, bytesSent := ?_, flight := ?_, inFlight := ?_, granted := accounted.window }
  · show control.sendNext + BitVec.ofNat 32 length = _
    rw [balanced.sent, BitVec.ofNat_add]
    ac_rfl
  · show saturatingAdd 64 control.bytesSent length = _
    rw [balanced.bytesSent, saturatingAdd_min]
  · show control.sendNext + BitVec.ofNat 32 length - control.sendUnacknowledged =
      BitVec.ofNat 32 (account.inFlight + length)
    rw [ready.1.2, silent, Nat.zero_add, BitVec.add_comm, BitVec.add_sub_cancel]
  · show account.inFlight + length ≤ control.sendWindow + control.finsSent
    rw [silent]
    omega

/-- The end of the stream goes out once. -/
theorem Accounted.sendsFin (accounted : Accounted control account) (first : control.finsSent = 0)
    (known : account.isSynchronized = true)
    (closes : next = .finWait1 ∧ control.finsReceived = 0 ∨ next = .lastAck) :
    Accounted (control.sendFin next).2 { account with inFlight := account.inFlight + 1 } := by
  have balanced := accounted.balanced known
  have once : saturatingAdd 32 control.finsSent 1 = 1 := by
    rw [first]
    rfl
  have alive : next.isOpening = false := by
    rcases closes with ⟨rfl, _⟩ | rfl
    · rfl
    · rfl
  refine Balanced.accounted ?_ known alive accounted.window
  refine { balanced with sent := ?_, flight := ?_, inFlight := ?_, fins := ⟨?_, balanced.fins.receivedOnce, ?_, ?_, ?_⟩ }
  · show control.sendNext + 1 = control.initialSendSequence + 1 + BitVec.ofNat 32 account.sent +
      BitVec.ofNat 32 (saturatingAdd 32 control.finsSent 1)
    rw [once, balanced.sent, first]
    show control.initialSendSequence + 1 + BitVec.ofNat 32 account.sent + 0#32 + 1 = _
    rw [BitVec.add_zero]
    rfl
  · show control.sendNext + 1 - control.sendUnacknowledged = BitVec.ofNat 32 (account.inFlight + 1)
    rw [BitVec.ofNat_add, ← balanced.flight, BitVec.sub_eq_add_neg, BitVec.sub_eq_add_neg]
    show control.sendNext + 1#32 + -control.sendUnacknowledged =
      control.sendNext + -control.sendUnacknowledged + 1#32
    ac_rfl
  · show account.inFlight + 1 ≤ account.granted + saturatingAdd 32 control.finsSent 1
    rw [once]
    have limit := balanced.inFlight
    rw [first] at limit
    exact Nat.succ_le_succ limit
  · exact once.le
  all_goals rcases closes with ⟨rfl, none⟩ | rfl
  · rintro ⟨⟩
  · rintro ⟨⟩
  · rintro ⟨⟩
  · rintro ⟨⟩
  · exact fun _ => none
  · rintro (⟨⟨⟩⟩ | ⟨⟨⟩⟩)

variable {transition : Transition} {initialSequence : Sequence}

theorem beginActiveOpen_accounted (accounted : Accounted control account)
    (begun : control.beginActiveOpen initialSequence = (transition, after)) :
    Accounted after (if transition.accepted then {} else account) := by
  unfold beginActiveOpen at begun
  by_cases opens : control.state ≠ .closed
  · rw [if_pos opens] at begun
    cases begun
    exact accounted
  · rw [if_neg opens] at begun
    cases begun
    exact Accounted.opened ⟨rfl, rfl, rfl, rfl, rfl, rfl, rfl, rfl, rfl, nofun⟩
      (Nat.two_pow_pos 16) rfl

theorem startTimer_accounted (accounted : Accounted control account) (tick : Nat)
    (policy : RetransmissionPolicy) : Accounted (control.startTimer tick policy) account := by
  obtain ⟨balanced, opening, known, window⟩ := accounted
  refine ⟨fun known => ?_, fun early => ?_, known, window⟩
  · exact { balanced known with }
  · exact { opening early with }

variable {tick : Nat} {policy : RetransmissionPolicy}

theorem beginActiveOpenAt_accounted (accounted : Accounted control account)
    (begun : control.beginActiveOpenAt initialSequence tick policy = (transition, after)) :
    Accounted after (if transition.accepted then {} else account) := by
  unfold beginActiveOpenAt at begun
  split at begun
  · cases begun
    exact accounted
  · rcases opened : control.beginActiveOpen initialSequence with ⟨first, middle⟩
    have settled := beginActiveOpen_accounted accounted opened
    rw [opened] at begun
    dsimp only at begun
    split at begun
    · cases begun
      exact settled
    · cases begun
      exact startTimer_accounted settled tick policy

theorem beginPassiveOpenAt_accounted {arrival : Arrival} (accounted : Accounted control account)
    (begun : control.beginPassiveOpenAt initialSequence arrival.view tick policy =
      (transition, after)) : Accounted after
      (if transition.accepted then { peer := some arrival.sequenceNumber } else account) := by
  unfold beginPassiveOpenAt at begun
  split at begun
  · cases begun
    exact accounted
  · split at begun
    · cases begun
      exact accounted
    · split at begun
      · cases begun
        exact accounted
      · cases begun
        exact Accounted.opened ⟨rfl, rfl, rfl, rfl, rfl, rfl, rfl, rfl, rfl, fun _ => ⟨_, rfl, rfl⟩⟩
          arrival.windowSize.isLt rfl

theorem beginClose_accounted (accounted : Accounted control account)
    (closed : control.beginClose = (transition, after)) : Accounted after
      (if transition.accepted then { account with inFlight := account.inFlight + 1 }
        else account) := by
  unfold beginClose at closed
  split at closed
  · rename_i state
    have known : account.isSynchronized = true := accounted.known (by rw [state]; rfl)
    obtain ⟨noneSent, noneReceived⟩ := (accounted.balanced known).fins.established state
    have settled := accounted.sendsFin noneSent known (.inl ⟨rfl, noneReceived⟩)
    cases closed
    exact settled
  · rename_i state
    have known : account.isSynchronized = true := accounted.known (by rw [state]; rfl)
    have noneSent := (accounted.balanced known).fins.closeWait state
    have settled := accounted.sendsFin noneSent known (.inr rfl)
    cases closed
    exact settled
  · cases closed
    exact accounted

theorem onTimer_accounted (accounted : Accounted control account) (tick : Nat) :
    Accounted (control.onTimer tick).2 account := by
  rcases handled : control.onTimer tick with ⟨timer, after⟩
  rcases onTimer_cases handled with ⟨-, rfl⟩ | ⟨-, -, -, rfl⟩ | ⟨-, -, -, -, rfl⟩
  · exact accounted
  · exact accounted.ended ⟨rfl, rfl⟩ _ _ _
  · obtain ⟨balanced, opening, known, window⟩ := accounted
    refine ⟨fun known => ?_, fun early => ?_, known, window⟩
    · exact { balanced known with }
    · exact { opening early with }

theorem expireTimeWait_accounted
    (accounted : Accounted control account) : Accounted control.expireTimeWait.2 account := by
  unfold expireTimeWait
  split
  · exact accounted
  · exact accounted.ended ⟨rfl, rfl⟩ _ _ _

variable {connection : Connection}

/-- Every event keeps the block and the account in agreement. -/
theorem Connection.step_accounted (accounted : Accounted connection.control connection.account)
    (event : Event) :
    Accounted (connection.step event).control (connection.step event).account := by
  obtain ⟨control, account⟩ := connection
  cases event with
  | activeOpen initialSequence => exact beginActiveOpen_accounted accounted rfl
  | activeOpenAt initialSequence tick policy => exact beginActiveOpenAt_accounted accounted rfl
  | passiveOpenAt initialSequence arrival tick policy =>
    exact beginPassiveOpenAt_accounted accounted rfl
  | send payloadLength =>
    show Accounted (Connection.step ⟨control, account⟩ (.send payloadLength)).control
      (Connection.step ⟨control, account⟩ (.send payloadLength)).account
    unfold Connection.step
    dsimp only
    rcases begun : control.beginApplicationSend payloadLength.toNat with _ | ⟨outbound, after⟩
    · exact accounted
    · exact Accounted.sends accounted begun
  | close => exact beginClose_accounted accounted rfl
  | timer tick => exact onTimer_accounted accounted tick
  | timeWaitExpires => exact expireTimeWait_accounted accounted
  | arrives arrival => exact handleSegment_hears accounted arrival.windowSize.isLt

theorem Connection.run_accounted (accounted : Accounted connection.control connection.account)
    (events : List Event) :
    Accounted (connection.run events).control (connection.run events).account := by
  induction events generalizing connection with
  | nil => exact accounted
  | cons event rest hypothesis =>
    exact hypothesis (connection.step_accounted accounted event)

/-- A block that was never opened owes nothing. -/
theorem accounted_init {receiveWindow : Nat}
    (made : init receiveWindow = some control) : Accounted control {} := by
  unfold init at made
  split at made
  · cases made
  · cases made
    exact ⟨nofun, nofun, nofun, Nat.two_pow_pos 16⟩

/-- After any events, once a connection is synchronized and until it is opened again, its numbers
account for its octets: what came in and what went out, the ends of the stream at most once each,
and no more unacknowledged than is in flight. -/
theorem Connection.run_balances (receiveWindow : Nat) (control : ControlBlock)
    (made : init receiveWindow = some control) (events : List Event) (last : ControlBlock)
    (account : Account) (reached : Connection.run ⟨control, {}⟩ events = ⟨last, account⟩) :
    (last.state.isSynchronized = true → account.isSynchronized = true) ∧
      (account.isSynchronized = true → (∃ peer, account.peer = some peer ∧
          (account.received < 2 ^ 64 → last.bytesReceived = account.received ∧
            last.receiveNext = peer + 1 + BitVec.ofNat 32 last.bytesReceived +
              BitVec.ofNat 32 last.finsReceived)) ∧
        (account.sent < 2 ^ 64 → last.bytesSent = account.sent ∧
          last.sendNext = last.initialSendSequence + 1 + BitVec.ofNat 32 last.bytesSent +
            BitVec.ofNat 32 last.finsSent) ∧
        (last.sendNext - last.sendUnacknowledged).toNat ≤ account.inFlight ∧
        account.inFlight ≤ account.granted + last.finsSent ∧
        last.finsSent ≤ 1 ∧ last.finsReceived ≤ 1) := by
  have start : Accounted (Connection.mk control {}).control (Connection.mk control {}).account :=
    accounted_init made
  have settled := Connection.run_accounted start events
  rw [reached] at settled
  refine ⟨settled.known, fun known => ?_⟩
  have balanced := settled.balanced known
  obtain ⟨peer, isPeer, number⟩ := balanced.received
  refine ⟨⟨peer, isPeer, fun few => ?_⟩, fun few => ?_, ?_, balanced.inFlight,
    balanced.fins.sentOnce, balanced.fins.receivedOnce⟩
  · have exact : last.bytesReceived = account.received := by
      rw [balanced.bytesReceived]
      exact min_eq_left (Nat.le_sub_one_of_lt few)
    exact ⟨exact, by rw [exact]; exact number⟩
  · have exact : last.bytesSent = account.sent := by
      rw [balanced.bytesSent]
      exact min_eq_left (Nat.le_sub_one_of_lt few)
    exact ⟨exact, by rw [exact]; exact balanced.sent⟩
  · rw [balanced.flight, BitVec.toNat_ofNat]
    exact Nat.mod_le _ _

/-- An opener whose handshake was answered sends ten octets and the end of its stream. -/
def tenOctets : List Event :=
  [.activeOpen 100, .arrives ⟨500, 101, flagSyn ||| flagAck, 64, 0⟩, .send 10, .close]

/-- They are in flight, and the number it sends next accounts for them. -/
theorem tenOctets_balances :
    (Connection.run ⟨{ receiveWindow := 64 }, {}⟩ tenOctets).account.isSynchronized = true ∧
      (Connection.run ⟨{ receiveWindow := 64 }, {}⟩ tenOctets).control.bytesSent = 10 ∧
      (Connection.run ⟨{ receiveWindow := 64 }, {}⟩ tenOctets).control.sendNext =
        (Connection.run ⟨{ receiveWindow := 64 }, {}⟩ tenOctets).control.initialSendSequence + 1 +
          BitVec.ofNat 32 (Connection.run ⟨{ receiveWindow := 64 }, {}⟩ tenOctets).control.bytesSent +
          BitVec.ofNat 32 (Connection.run ⟨{ receiveWindow := 64 }, {}⟩ tenOctets).control.finsSent :=
  ⟨by decide, ((Connection.run_balances 64 { receiveWindow := 64 } rfl tenOctets _ _ rfl).2
    (by decide)).2.1 (by decide)⟩

end ZigOs.TcpConnection
