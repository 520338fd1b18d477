/-
This file puts one end of a connection behind a network that may lose, repeat,
delay and reorder what the other end sends, and adds nothing of its own. Whatever
the order of the steps, an end that knows its peer has taken in a first part of what
the peer sent, and it sees the end of the stream only behind all of it.
-/

import ZigOs.TcpConnection.Accounting

namespace ZigOs.TcpConnection

open ControlBlock

/-! ### A sender, a network and a receiver -/

def Event.opens : Event → Bool
  | .activeOpen _ | .activeOpenAt _ _ _ | .passiveOpenAt _ _ _ _ => true
  | _ => false

/-- The segment that an end takes in. -/
def Event.segment : Event → Option Arrival
  | .passiveOpenAt _ arrival _ _ | .arrives arrival => some arrival
  | _ => none

/-- The segment goes out with so many octets. -/
def OutboundSegment.carrying (outbound : OutboundSegment) (payloadLength : BitVec 16) : Arrival :=
  ⟨outbound.sequenceNumber, outbound.acknowledgementNumber, outbound.flags,
    BitVec.ofNat 16 outbound.windowSize, payloadLength⟩

/-- What an end sends in a step, and with how many octets. -/
def ControlBlock.emits (control : ControlBlock) : Event → Option OutboundSegment × BitVec 16
  | .activeOpen initialSequence => ((control.beginActiveOpen initialSequence).1.outbound, 0)
  | .activeOpenAt initialSequence tick policy =>
    ((control.beginActiveOpenAt initialSequence tick policy).1.outbound, 0)
  | .passiveOpenAt initialSequence arrival tick policy =>
    ((control.beginPassiveOpenAt initialSequence arrival.view tick policy).1.outbound, 0)
  | .send payloadLength =>
    ((control.beginApplicationSend payloadLength.toNat).map Prod.fst, payloadLength)
  | .close => (control.beginClose.1.outbound, 0)
  | .timer tick => ((control.onTimer tick).1.outbound, 0)
  | .timeWaitExpires => (control.expireTimeWait.1.outbound, 0)
  | .arrives arrival => ((control.handleSegment arrival.view).1.outbound, 0)

/-- An end that sends, everything it has sent, and an end that receives. -/
structure Link where
  sender : Connection
  sent : List Arrival := []
  receiver : Connection

inductive Link.Step where
  | speak (event : Event)
  | listen (event : Event)

namespace Link

/-- The sender opens before it has sent anything, hears whatever it hears, and sends fewer octets
than there are numbers. The receiver takes in what the sender has sent. -/
def step (link : Link) : Step → Link
  | .speak event =>
    if (event.opens && !link.sent.isEmpty) = false ∧ (link.sender.step event).account.sent < 2 ^ 32 then
      let (outbound, payloadLength) := link.sender.control.emits event
      { link with
        sender := link.sender.step event
        sent := link.sent ++ outbound.toList.map (·.carrying payloadLength) }
    else link
  | .listen event =>
    if event.segment.all link.sent.contains then
      { link with receiver := link.receiver.step event }
    else link

def run (link : Link) (steps : List Step) : Link := steps.foldl step link

end Link

/-! ### What a sent segment says -/

/-- The segment stands where the stream of its sender has it. -/
structure Arrival.SentBy (segment : Arrival) (sender : Connection) : Prop where
  syn : hasFlag segment.flags flagSyn = true →
    segment.sequenceNumber = sender.control.initialSendSequence
  payload : segment.payloadLength.toNat ≠ 0 → ∃ offset,
    segment.sequenceNumber = sender.control.initialSendSequence + 1 + BitVec.ofNat 32 offset ∧
      offset + segment.payloadLength.toNat ≤ sender.account.sent
  fin : hasFlag segment.flags flagFin = true → segment.payloadLength.toNat = 0 ∧
    sender.control.finsSent = 1 ∧ segment.sequenceNumber =
      sender.control.initialSendSequence + 1 + BitVec.ofNat 32 sender.account.sent

/-- What was sent stays sent, and nothing is sent behind the end of the stream. -/
structure Connection.Grows (before after : Connection) : Prop where
  number : after.control.initialSendSequence = before.control.initialSendSequence
  sent : before.account.sent ≤ after.account.sent
  fin : before.control.finsSent = 1 →
    after.control.finsSent = 1 ∧ after.account.sent = before.account.sent

/-- The receiver knows the number of the sender and a first part of its stream, and an end that it
has seen is the end. -/
def Connection.Heard (receiver sender : Connection) : Prop :=
  ∀ peer, receiver.account.peer = some peer → peer = sender.control.initialSendSequence ∧
    receiver.account.received ≤ sender.account.sent ∧
      (receiver.control.finsReceived ≠ 0 → sender.control.finsSent = 1 ∧
        receiver.account.received = sender.account.sent)

section Grows

variable {before after receiver : Connection} (growth : before.Grows after)
include growth

theorem Arrival.SentBy.grows {segment : Arrival} (sent : segment.SentBy before) :
    segment.SentBy after := by
  obtain ⟨number, more, last⟩ := growth
  constructor <;> grind [Arrival.SentBy]

theorem Connection.Heard.grows (heard : receiver.Heard before) : receiver.Heard after := by
  obtain ⟨number, more, last⟩ := growth
  grind [Connection.Heard]

end Grows

/-! ### What a step sends -/

/-- An end goes on with its stream. -/
structure Speaks (before after : Connection) (emits : Option OutboundSegment × BitVec 16) : Prop where
  grows : before.Grows after
  placed : ∀ outbound, emits.1 = some outbound → (outbound.carrying emits.2).SentBy after

section Handled

variable (control : ControlBlock) (account : Account) (segment : SegmentView)

attribute [local grind] reject refuse accepted acknowledgeRejection makeSynAck makeAck
  handleSynSent handleSynReceived handleEstablished handleFinWait1 handleFinWait2 handleCloseWait
  handleLastAck handleTimeWait handleSynchronizedReset acknowledgedBy receivePayload receiveFin

theorem handleSegment_grows {after : Account} (same : after.sent = account.sent) :
    Connection.Grows ⟨control, account⟩ ⟨(control.handleSegment segment).2, after⟩ := by
  unfold handleSegment
  split <;> constructor <;> grind

theorem handleSegment_answers {outbound : OutboundSegment}
    (emits : (control.handleSegment segment).1.outbound = some outbound) :
    outbound.flags = flagAck ∨ outbound.flags = flagSyn ||| flagAck ∧
      outbound.sequenceNumber = (control.handleSegment segment).2.initialSendSequence := by
  unfold handleSegment at *
  split at emits <;> grind

/-- What an end takes in with a segment. -/
structure Takes (control : ControlBlock) (segment : SegmentView)
    (result : Transition × ControlBlock) : Prop where
  previous : result.1.previousState = control.state
  payload : result.1.accepted = true → segment.payloadLength ≠ 0 →
    control.state = .established ∧ segment.sequenceNumber = control.receiveNext
  opening : result.1.accepted = true → result.1.state ≠ .reset → control.state = .synSent →
    hasFlag segment.flags flagSyn = true
  ending : result.2.finsReceived ≠ control.finsReceived →
    hasFlag segment.flags flagFin = true ∧ segment.sequenceNumber = control.receiveNext
  early : result.2.finsReceived ≠ control.finsReceived →
    control.state = .established ∨ control.state = .finWait1 ∨ control.state = .finWait2
  taken : result.2.finsReceived ≠ control.finsReceived →
    result.1.accepted = true ∧ result.1.state ≠ .reset ∧ result.1.state ≠ .synReceived

theorem handleSegment_takes : Takes control segment (control.handleSegment segment) := by
  unfold handleSegment
  split <;> constructor <;> grind

end Handled

section Stepped

variable {sender receiver : Connection} {event : Event} {outbound : OutboundSegment}

attribute [local grind] Connection.step emits OutboundSegment.carrying hasFlag reject refuse accepted
  beginActiveOpen beginActiveOpenAt beginPassiveOpenAt startTimer cleared makeSyn makeSynAck
  beginApplicationSend applicationSendReady beginClose sendFin expireTimeWait onTimer timerNoop
  expire retransmit Arrival.view Account.hears

/-- Every step but an opening goes on with the stream. -/
theorem Connection.step_speaks (accounted : Accounted sender.control sender.account)
    (later : event.opens = false) :
    Speaks sender (sender.step event) (sender.control.emits event) := by
  obtain ⟨control, account⟩ := sender
  have first (state : control.state = .established ∨ control.state = .closeWait) :
      control.finsSent = 0 ∧ control.sendNext =
        control.initialSendSequence + 1 + BitVec.ofNat 32 account.sent := by
    have balanced := accounted.balanced (accounted.known (by grind [State.isSynchronized]))
    grind [balanced.fins.established, balanced.fins.closeWait, balanced.sent]
  cases event with
  | activeOpen _ | activeOpenAt _ _ _ | passiveOpenAt _ _ _ _ => exact nomatch later
  | arrives arrival =>
    refine ⟨handleSegment_grows _ _ _ (by grind), fun outbound emitted => ?_⟩
    have answers := handleSegment_answers control arrival.view emitted
    constructor <;> grind
  | send _ | close | timer _ | timeWaitExpires =>
    refine ⟨?_, fun outbound emitted => ?_⟩
    · constructor <;> grind
    · constructor <;> grind [saturatingAdd]

theorem Connection.opens_placed (opens : event.opens = true)
    (emitted : (sender.control.emits event).1 = some outbound) :
    (outbound.carrying (sender.control.emits event).2).SentBy (sender.step event) := by
  obtain ⟨control, account⟩ := sender
  cases event with
  | send _ | close | timer _ | timeWaitExpires | arrives _ => exact nomatch opens
  | activeOpen _ | activeOpenAt _ _ _ | passiveOpenAt _ _ _ _ => constructor <;> grind

/-- An end learns from segments. -/
theorem Connection.Heard.quiet (heard : receiver.Heard sender) (quiet : event.segment = none) :
    (receiver.step event).Heard sender ∧
      (receiver.account.peer = none → (receiver.step event).account.peer = none) := by
  obtain ⟨control, account⟩ := receiver
  cases event with
  | arrives _ | passiveOpenAt _ _ _ _ => exact nomatch quiet
  | activeOpen _ | activeOpenAt _ _ _ | send _ | close | timer _ | timeWaitExpires =>
    grind [Connection.Heard]

theorem Connection.Heard.opens {segment : Arrival} (heard : receiver.Heard sender)
    (sent : segment.SentBy sender) (initialSequence : Sequence) (tick : Nat)
    (policy : RetransmissionPolicy) :
    (receiver.step (.passiveOpenAt initialSequence segment tick policy)).Heard sender := by
  obtain ⟨control, account⟩ := receiver
  have syn := sent.syn
  grind [Connection.Heard]

/-- A segment of the peer is taken in where the stream of the peer has it. -/
theorem Connection.Heard.arrives {segment : Arrival}
    (accounted : Accounted receiver.control receiver.account) (heard : receiver.Heard sender)
    (sent : segment.SentBy sender) (limit : sender.account.sent < 2 ^ 32) :
    (receiver.step (.arrives segment)).Heard sender := by
  obtain ⟨control, account⟩ := receiver
  have takes := handleSegment_takes control segment.view
  -- Until the peer's stream has ended, the number that comes next is the one behind what came in.
  have place (peer : Sequence) (known : account.peer = some peer) (early : control.state = .established ∨
      control.state = .finWait1 ∨ control.state = .finWait2) : control.finsReceived = 0 ∧
      control.receiveNext = sender.control.initialSendSequence + 1 + BitVec.ofNat 32 account.received := by
    have balanced := accounted.balanced (accounted.known (by grind [State.isSynchronized]))
    have none : control.finsReceived = 0 :=
      early.elim (fun state => (balanced.fins.established state).2) balanced.fins.finWait
    grind [balanced.received, Connection.Heard]
  have opening (state : control.state = .synSent) := accounted.opening (by rw [state]; rfl)
  show Connection.Heard ⟨(control.handleSegment segment.view).2,
    account.hears segment.view (control.handleSegment segment.view).1⟩ sender
  generalize control.handleSegment segment.view = result at takes ⊢
  obtain ⟨transition, after⟩ := result
  obtain ⟨previous, payload, syn, ending, early, taken⟩ := takes
  obtain ⟨first, offset, last⟩ := sent
  unfold Account.hears
  split
  · -- Nothing goes on the account, and no end was seen either.
    grind [Connection.Heard]
  rename_i aside
  intro peer known
  by_cases state : control.state = .synSent
  · -- The answer to the own opening tells the number of the peer.
    have opens := opening state
    grind [opens.received, opens.finsReceived]
  have knew : account.peer = some peer := by grind
  obtain ⟨number, received, ended⟩ := heard peer knew
  -- The stream is shorter than the numbers there are, so they tell its places apart.
  have unique (other : Nat) (few : other < 2 ^ 32)
      (same : BitVec.ofNat 32 account.received = BitVec.ofNat 32 other) : account.received = other := by
    have equal := congrArg BitVec.toNat same
    rwa [BitVec.toNat_ofNat, BitVec.toNat_ofNat, Nat.mod_eq_of_lt (received.trans_lt limit),
      Nat.mod_eq_of_lt few] at equal
  by_cases empty : segment.payloadLength.toNat = 0
  · grind [place peer knew]
  · obtain ⟨offset, number, inside⟩ := offset empty
    grind [place peer knew]

end Stepped

/-! ### Runs -/

namespace Link

def start (senderWindow receiverWindow : Nat) : Link :=
  { sender := ⟨{ receiveWindow := senderWindow }, {}⟩
    receiver := ⟨{ receiveWindow := receiverWindow }, {}⟩ }

/-- Both ends account for their streams, what was sent stands in the sender's, and the receiver has
heard no more than that. -/
structure Sound (link : Link) : Prop where
  sender : Accounted link.sender.control link.sender.account
  receiver : Accounted link.receiver.control link.receiver.account
  limit : link.sender.account.sent < 2 ^ 32
  placed : ∀ segment ∈ link.sent, segment.SentBy link.sender
  silent : link.sent = [] → link.receiver.account.peer = none
  heard : link.receiver.Heard link.sender

theorem start_sound (senderWindow receiverWindow : Nat) : (start senderWindow receiverWindow).Sound :=
  ⟨⟨nofun, nofun, nofun, Nat.two_pow_pos 16⟩, ⟨nofun, nofun, nofun, Nat.two_pow_pos 16⟩,
    Nat.two_pow_pos 32, nofun, fun _ => rfl, nofun⟩

variable {link : Link}

theorem Sound.step (sound : link.Sound) (step : Step) : (link.step step).Sound := by
  cases step with
  | speak event =>
    unfold Link.step
    dsimp only
    split
    swap
    · exact sound
    rename_i allowed
    obtain ⟨once, limit⟩ := allowed
    refine ⟨link.sender.step_accounted sound.sender event, sound.receiver, limit, ?_,
      fun silent => sound.silent (List.append_eq_nil_iff.mp silent).1, ?_⟩
    · simp only [List.mem_append, List.mem_map, Option.mem_toList]
      rintro segment (before | ⟨outbound, emitted, rfl⟩)
      · cases opens : event.opens
        · exact (sound.placed segment before).grows (Connection.step_speaks sound.sender opens).grows
        · simp_all
      · cases opens : event.opens
        · exact (Connection.step_speaks sound.sender opens).placed outbound emitted
        · exact Connection.opens_placed opens emitted
    · cases opens : event.opens
      · exact sound.heard.grows (Connection.step_speaks sound.sender opens).grows
      · have none := sound.silent (by simp_all)
        exact fun peer known => nomatch none.symm.trans known
  | listen event =>
    unfold Link.step
    dsimp only
    split
    swap
    · exact sound
    rename_i allowed
    have taken (segment : Arrival) (told : event.segment = some segment) : segment ∈ link.sent := by
      rw [told] at allowed
      exact List.contains_iff_mem.mp allowed
    refine ⟨sound.sender, link.receiver.step_accounted sound.receiver event, sound.limit, sound.placed,
      fun silent => ?_, ?_⟩
    · rcases told : event.segment with _ | segment
      · exact (sound.heard.quiet told).2 (sound.silent silent)
      · exact absurd (silent ▸ taken segment told) List.not_mem_nil
    · cases event with
      | arrives segment =>
        exact sound.heard.arrives sound.receiver (sound.placed segment (taken segment rfl)) sound.limit
      | passiveOpenAt _ segment _ _ =>
        exact sound.heard.opens (sound.placed segment (taken segment rfl)) _ _ _
      | activeOpen _ | activeOpenAt _ _ _ | send _ | close | timer _ | timeWaitExpires =>
        exact (sound.heard.quiet rfl).1

theorem Sound.run (sound : link.Sound) (steps : List Step) : (link.run steps).Sound := by
  induction steps generalizing link with
  | nil => exact sound
  | cons step rest hypothesis => exact hypothesis (sound.step step)

/-- Once it is synchronized, the receiver has counted a first part of what was sent, expects the
number right behind that part, and has all of it when it has seen the end of the stream. -/
def Follows (link : Link) : Prop :=
  link.receiver.control.state.isSynchronized = true →
    link.receiver.control.bytesReceived ≤ link.sender.account.sent ∧
      link.receiver.control.receiveNext = link.sender.control.initialSendSequence + 1 +
        BitVec.ofNat 32 link.receiver.control.bytesReceived +
          BitVec.ofNat 32 link.receiver.control.finsReceived ∧
      (link.receiver.control.finsReceived ≠ 0 → link.sender.control.finsSent = 1 ∧
        link.receiver.control.bytesReceived = link.sender.account.sent)

/-- Whatever the network loses, repeats, delays and reorders, and in whatever order the ends open,
send, close and time out, the receiver follows the sender. -/
theorem run_follows (senderWindow receiverWindow : Nat) (steps : List Step) :
    ((start senderWindow receiverWindow).run steps).Follows := by
  have sound := (start_sound senderWindow receiverWindow).run steps
  generalize (start senderWindow receiverWindow).run steps = link at sound ⊢
  intro synchronized
  obtain ⟨⟨peer, known, number⟩, -, counted, -⟩ :=
    sound.receiver.balanced (sound.receiver.known synchronized)
  obtain ⟨peerIs, part, ended⟩ := sound.heard peer known
  have all : link.receiver.control.bytesReceived = link.receiver.account.received := by
    have limit := sound.limit
    omega
  rw [all]
  exact ⟨part, by rw [number, peerIs], ended⟩

/-- Ten octets that arrive twice count once. -/
example :
    let data : Step := .listen (.arrives ⟨101, 501, flagPsh ||| flagAck, 64, 10⟩)
    let link := (start 64 64).run [.speak (.activeOpen 100),
      .listen (.passiveOpenAt 500 ⟨100, 0, flagSyn, 64, 0⟩ 0 ⟨1, 1, 1⟩),
      .speak (.arrives ⟨500, 101, flagSyn ||| flagAck, 64, 0⟩), .speak (.send 10),
      .listen (.arrives ⟨101, 501, flagAck, 64, 0⟩), data, data]
    link.receiver.control.state.isSynchronized = true ∧ link.receiver.control.bytesReceived = 10 := by
  decide

end Link

end ZigOs.TcpConnection
