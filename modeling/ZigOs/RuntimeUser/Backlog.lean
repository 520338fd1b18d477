/-
This file proves what becomes of the connections that wait in a listener's
backlog. Each is in its handshake with the timer running, or can be accepted, and
no two come from one peer; a timer that nobody answers gives up after four
rounds. The exception is a peer that ends its stream before it was accepted: its
connection can no longer be accepted, has no timer, and keeps its place.
-/

import ZigOs.RuntimeUser.SocketCalls

namespace ZigOs.RuntimeUser

open Scan RuntimeProcess RuntimeFd TcpConnection List ControlBlock

namespace Sockets

/-! ### Handshakes -/

/-- The handshake of a pending connection is running, and so is its timer. -/
structure Handshakes (control : ControlBlock) : Prop where
  state : control.state = .synReceived
  active : control.retransmissionActive = true
  policy : control.retransmissionPolicy = tcpRetransmissionPolicy
  retries : control.retransmissions ≤ 3
  interval : control.retransmissionInterval ≤ 40
  deadline : control.retransmissionDeadline ≤ control.lastTimerTick + 40

/-- A pending connection that will be given up, or can be accepted. -/
def Progresses (control : ControlBlock) : Prop :=
  Handshakes control ∨ control.state = .established

variable {tick : Nat} {control : ControlBlock}

theorem opened_handshakes {initialSequence : Sequence} {segment : SegmentView}
    {transition : Transition}
    (begun : beginPassiveOpenAt { receiveWindow := tcpReceiveWindow } initialSequence
      segment tick tcpRetransmissionPolicy = (transition, control))
    (accepted : transition.accepted = true) : Handshakes control := by
  rcases beginPassiveOpenAt_cases begun with refused | ⟨-, rfl, -⟩
  · rw [refused] at accepted
    cases accepted
  · refine ⟨rfl, rfl, rfl, Nat.zero_le _, show 10 ≤ 40 by decide, ?_⟩
    show min (tick + 10) (2 ^ 64 - 1) ≤ tick + 40
    omega

theorem Handshakes.retransmit (handshakes : Handshakes control) (tick : Nat)
    (more : control.retransmissions < control.retransmissionPolicy.maximumRetries) :
    Handshakes (control.retransmit tick).2 := by
  have budget : control.retransmissions < 3 := by
    rwa [handshakes.policy] at more
  have bounded : nextRetransmissionInterval control.retransmissionInterval
      control.retransmissionPolicy.maximumTimeoutTicks ≤ 40 := by
    rw [handshakes.policy]
    show nextRetransmissionInterval control.retransmissionInterval 40 ≤ 40
    unfold nextRetransmissionInterval
    split <;> omega
  refine ⟨handshakes.state, handshakes.active, handshakes.policy, ?_, bounded, ?_⟩
  · show min (control.retransmissions + 1) (2 ^ 8 - 1) ≤ 3
    omega
  · show min (tick + nextRetransmissionInterval control.retransmissionInterval
      control.retransmissionPolicy.maximumTimeoutTicks) (2 ^ 64 - 1) ≤ tick + 40
    omega

/-- A segment that is taken and ends nothing completes the handshake or leaves it running; of an
established connection it may end the peer's stream. -/
theorem Progresses.handled {control after : ControlBlock} {segment : SegmentView}
    {transition : Transition} (progresses : Progresses control)
    (handled : control.handleSegment segment = (transition, after))
    (accepted : transition.accepted = true) (alive : transition.state ≠ .reset)
    (endless : control.state = .established → control.Continues segment →
      hasFlag segment.flags flagFin = false) : Progresses after := by
  unfold handleSegment at handled
  rcases progresses with handshakes | established
  · rw [handshakes.state] at handled
    rcases handleSynReceived_cases handled with
      ⟨refused, -⟩ | ⟨-, -, rfl⟩ | ⟨reset, -⟩ | ⟨-, -, rfl⟩
    · rw [refused] at accepted
      cases accepted
    · exact .inl handshakes
    · exact absurd reset alive
    · exact .inr rfl
  · rw [established] at handled
    rcases handleEstablished_cases handled with
      ⟨refused, -⟩ | ⟨-, reset, -⟩ | ⟨continues, rfl, -⟩
    · rw [refused] at accepted
      cases accepted
    · exact absurd reset alive
    · refine .inr ?_
      unfold advanced
      dsimp only
      rw [if_neg (Bool.eq_false_iff.mp (endless established continues))]
      split
      · exact established
      · exact established

/-! ### Backlogs -/

/-- Every pending connection of the listener progresses, and no two come from one peer. -/
structure Backed (listener : TcpListenerState) : Prop where
  bounded : listener.backlog ≤ maximumTcpBacklog
  progress : ∀ entry < listener.backlog, (listener.pending entry).used = true →
    ∃ control, (listener.pending entry).control = some control ∧ Progresses control
  distinct : ∀ first < listener.backlog, ∀ second < listener.backlog,
    (listener.pending first).used = true → (listener.pending second).used = true →
      (listener.pending first).peer = (listener.pending second).peer → first = second

/-- The action serves a segment of some kind that continues the stream of a pending connection before
it was accepted. -/
def ContinuesPending (kind : Segment → Prop) (sockets : Sockets) (action : Action) : Prop :=
  ∃ index listener entry control arrived, action = .segment arrived ∧
    action.target sockets = some index ∧ (sockets.slots index).listener = some listener ∧
      entry < listener.backlog ∧ (listener.pending entry).used = true ∧
        (listener.pending entry).peer = arrived.source ∧
          (listener.pending entry).control = some control ∧ control.state = .established ∧
            control.Continues arrived.view ∧ kind arrived

/-- The segment ends the stream. -/
abbrev EndsPending := ContinuesPending fun arrived => hasFlag arrived.flags flagFin = true

theorem backed_listen {localPort backlog : Nat} (bounded : backlog ≤ maximumTcpBacklog) :
    Backed { localPort, backlog } := ⟨bounded, nofun, nofun⟩

variable {listener : TcpListenerState} {entry : Nat}

/-- Changing one entry keeps a backlog in order when the entry progresses and its peer is new or its
own. -/
theorem Backed.setPending (backed : Backed listener) {after : TcpPendingConnection}
    (progress : after.used = true → ∃ control, after.control = some control ∧ Progresses control)
    (apart : after.used = true → ∀ other < listener.backlog, other ≠ entry →
      (listener.pending other).used = true → (listener.pending other).peer ≠ after.peer) :
    Backed (listener.setPending entry after) := by
  refine ⟨backed.bounded, fun other below used => ?_, fun first firstBelow second secondBelow
    usedFirst usedSecond same => ?_⟩
  · obtain rfl | here := eq_or_ne other entry
    · simp only [TcpListenerState.setPending, Function.update_self] at used ⊢
      exact progress used
    · simp only [TcpListenerState.setPending, Function.update_of_ne here] at used ⊢
      exact backed.progress other below used
  · by_cases hereFirst : first = entry <;> by_cases hereSecond : second = entry
    · rw [hereFirst, hereSecond]
    · subst hereFirst
      simp only [TcpListenerState.setPending, Function.update_self,
        Function.update_of_ne hereSecond] at usedFirst usedSecond same
      exact absurd same.symm (apart usedFirst second secondBelow hereSecond usedSecond)
    · subst hereSecond
      simp only [TcpListenerState.setPending, Function.update_self,
        Function.update_of_ne hereFirst] at usedFirst usedSecond same
      exact absurd same (apart usedSecond first firstBelow hereFirst usedFirst)
    · simp only [TcpListenerState.setPending, Function.update_of_ne hereFirst,
        Function.update_of_ne hereSecond] at usedFirst usedSecond same
      exact backed.distinct first firstBelow second secondBelow usedFirst usedSecond same

theorem Backed.own (backed : Backed listener) (below : entry < listener.backlog)
    (used : (listener.pending entry).used = true) :
    ∀ other < listener.backlog, other ≠ entry → (listener.pending other).used = true →
      (listener.pending other).peer ≠ (listener.pending entry).peer :=
  fun other otherBelow apart otherUsed same =>
    apart (backed.distinct other otherBelow entry below otherUsed used same)

theorem Backed.freed {listener : TcpListenerState} (backed : Backed listener) (entry : Nat) :
    Backed (listener.setPending entry {}) := backed.setPending nofun nofun

theorem Backed.pending {action : Action} {listener : TcpListenerState} {entry : Nat}
    {after : TcpPendingConnection} {outbound : Option OutboundSegment} (backed : Backed listener)
    (below : entry < listener.backlog) (move : PendingMove action listener entry after outbound)
    (endless : ∀ arrived control, action = .segment arrived →
      (listener.pending entry).used = true → (listener.pending entry).peer = arrived.source →
        (listener.pending entry).control = some control → control.state = .established →
          control.Continues arrived.view → hasFlag arrived.flags flagFin = false) :
    Backed (listener.setPending entry after) := by
  cases move with
  | opened served port unused unknown begun accepted =>
    exact backed.setPending (fun _ => ⟨_, rfl, .inl (opened_handshakes begun accepted)⟩)
      fun _ other otherBelow _ used => unknown other otherBelow used
  | handled served port used source held handled accepted alive =>
    refine backed.setPending (fun _ => ⟨_, rfl, ?_⟩) fun _ => backed.own below used
    obtain ⟨control, same, progresses⟩ := backed.progress entry below used
    cases (same.symm.trans held)
    exact progresses.handled handled accepted alive.2.1 fun established continues =>
      endless _ _ served used source held established continues
  | waited used held state handled alive =>
    refine backed.setPending (fun _ => ⟨_, rfl, ?_⟩) fun _ => backed.own below used
    obtain ⟨control, same, progresses⟩ := backed.progress entry below used
    cases (same.symm.trans held)
    rcases progresses with handshakes | established
    · rcases onTimer_cases handled with ⟨-, rfl⟩ | ⟨expired, -⟩ | ⟨-, -, more, -, rfl⟩
      · exact .inl handshakes
      · exact absurd expired alive
      · exact .inl (handshakes.retransmit _ more)
    · rw [established] at state
      cases state
  | freed => exact backed.freed entry

/-- Every listener is a stream socket in use, and its backlog is in order. -/
def ListenersBacked (sockets : Sockets) : Prop :=
  ∀ index listener, (sockets.slots index).listener = some listener →
    index < maximumSocketSlots ∧ (sockets.slots index).used = true ∧
      (sockets.slots index).protocol = .tcp ∧ Backed listener

variable {before after : Sockets} {index : Nat} {slot : SocketSlot}

theorem ListenersBacked.update (backed : ListenersBacked before)
    (slots : after.slots = Function.update before.slots index slot)
    (changed : ∀ listener, slot.listener = some listener → index < maximumSocketSlots ∧
      slot.used = true ∧ slot.protocol = .tcp ∧ Backed listener) : ListenersBacked after := by
  intro other listener held
  rw [slots] at held ⊢
  obtain rfl | here := eq_or_ne other index
  · rw [Function.update_self] at held ⊢
    exact changed listener held
  · rw [Function.update_of_ne here] at held ⊢
    exact backed other listener held

theorem ListenersBacked.of_slots (backed : ListenersBacked before)
    (slots : after.slots = before.slots) : ListenersBacked after := by
  intro index listener held
  rw [slots] at held ⊢
  exact backed index listener held

variable {action : Action}

theorem ListenersBacked.move (backed : ListenersBacked before)
    (endless : ¬ EndsPending before action)
    (move : Move action before after) : ListenersBacked after := by
  cases move with
  | idle slots => exact backed.of_slots slots
  | @change index slot wakes outbound target below used move slots =>
    refine backed.update slots ?_
    cases move with
    | configure port nonblocking => exact fun listener held => backed index listener held
    | listen bounded stream unconnected deaf =>
      intro listener held
      cases held
      exact ⟨below, used, stream, backed_listen bounded⟩
    | connect port peer unconnected deaf begun becomes =>
      exact fun listener held => backed index listener held
    | connection held move => exact fun listener held => backed index listener held
    | @pending listener entry pending wakes outbound held entryBelow move woken =>
      intro changed same
      cases same
      obtain ⟨-, -, stream, inOrder⟩ := backed index listener held
      refine ⟨below, used, stream, inOrder.pending entryBelow move ?_⟩
      intro arrived control served live source controlled established continues
      by_contra ends
      exact endless ⟨index, listener, entry, control, arrived, served, target, held, entryBelow, live,
        source, controlled, established, continues, by simpa using ends⟩
  | @create index slot below unused unconnected deaf slots =>
    refine backed.update slots fun listener held => ?_
    rw [deaf] at held
    cases held
  | @accept index fresh entry generation listener control target below used listens entryBelow pending
      held established freshBelow unused slots =>
    intro other changed same
    rw [slots] at same ⊢
    by_cases here : other = index
    · subst here
      rw [Function.update_self] at same ⊢
      cases same
      obtain ⟨-, -, stream, inOrder⟩ := backed other listener listens
      exact ⟨below, used, stream, inOrder.freed entry⟩
    · rw [Function.update_of_ne here] at same ⊢
      obtain rfl | new := eq_or_ne other fresh
      · rw [Function.update_self] at same
        cases same
      · rw [Function.update_of_ne new] at same ⊢
        exact backed other changed same

theorem Run.listenersBacked {start : Sockets} {served : List Segment} (fresh : Fresh start)
    (run : Run (fun sockets action => ¬ EndsPending sockets action) start served after) :
    ListenersBacked after := by
  induction run with
  | start =>
    intro index listener held
    obtain ⟨generation, empty⟩ := fresh.slots index
    rw [empty] at held
    cases held
  | action run action meets backed =>
    obtain ⟨middle, move, outcome⟩ := action.moves _
    have moved := backed.move meets move
    rcases outcome with same | asleep
    · rwa [same]
    · exact moved.of_slots asleep.slots
  | outside run moved backed => exact backed.of_slots moved.slots

/-! ### Giving up -/

/-- So many more rounds of the timer at most, the next of them from the tick on. -/
structure Patience (rounds tick : Nat) (control : ControlBlock) : Prop where
  handshakes : Handshakes control
  budget : 4 ≤ control.retransmissions + rounds
  due : control.retransmissionDeadline ≤ tick
  current : control.lastTimerTick ≤ tick

theorem Handshakes.patience (handshakes : Handshakes control)
    (late : control.lastTimerTick + 40 ≤ tick) : Patience 4 tick control :=
  ⟨handshakes, by omega, by have := handshakes.deadline; omega, by omega⟩

variable {rounds : Nat}

/-- A round of the timer that is due gives up or leaves one round less. -/
theorem Patience.onTimer {after : ControlBlock} {timer : TimerResult}
    (patience : Patience (rounds + 1) tick control)
    (handled : control.onTimer tick = (timer, after)) :
    timer.action = .timedOut ∨ Patience rounds (tick + 40) after := by
  obtain ⟨handshakes, budget, due, current⟩ := patience
  unfold ControlBlock.onTimer at handled
  rw [if_neg (by simp [handshakes.state]), if_neg (by simp [handshakes.active]),
    if_neg (by omega), if_neg (by omega)] at handled
  split at handled
  · cases handled
    exact .inl rfl
  · rename_i more
    cases handled
    have waiting := handshakes.retransmit tick (not_le.mp more)
    refine .inr ⟨waiting, ?_, waiting.deadline, Nat.le_add_right _ _⟩
    have retries := handshakes.retries
    show 4 ≤ min (control.retransmissions + 1) (2 ^ 8 - 1) + rounds
    omega

theorem Patience.later {rounds earlier tick : Nat} {control : ControlBlock}
    (patience : Patience rounds earlier control) (late : earlier ≤ tick) :
    Patience rounds tick control :=
  ⟨patience.handshakes, patience.budget, patience.due.trans late, patience.current.trans late⟩

/-- Nobody can have no round left. -/
theorem Patience.exhausted (patience : Patience 0 tick control) : False := by
  have := patience.budget
  have := patience.handshakes.retries
  omega

/-- The entry of the listener in the slot is free. -/
def Free (sockets : Sockets) (index entry : Nat) : Prop :=
  ∀ listener, (sockets.slots index).listener = some listener → (listener.pending entry).used = false

/-- The entry of the listener in the slot waits for so many more rounds at most. -/
def Waits (rounds tick : Nat) (sockets : Sockets) (index entry : Nat) : Prop :=
  (sockets.slots index).used = true ∧ (sockets.slots index).protocol = .tcp ∧
    ∃ listener control, (sockets.slots index).listener = some listener ∧ entry < listener.backlog ∧
      (listener.pending entry).used = true ∧ (listener.pending entry).control = some control ∧
        Patience rounds tick control

/-- A round of the entry's timer at the tick. -/
def timedAt (index entry : Nat) (sockets : Sockets) (tick : Nat) : Sockets :=
  { sockets with currentTick := tick }.timePending index entry

theorem setListener_free (sockets : Sockets) (index entry : Nat) (listener : TcpListenerState) :
    Free (sockets.setListener index (listener.setPending entry {})) index entry := by
  intro changed held
  simp only [setListener, modifySlot, Function.update_self] at held
  cases held
  simp only [TcpListenerState.setPending, Function.update_self]

variable {sockets : Sockets}

theorem Free.round (free : Free sockets index entry)
    (tick : Nat) : Free (sockets.timedAt index entry tick) index entry := by
  have idle : { sockets with currentTick := tick }.timePending index entry =
      { sockets with currentTick := tick } := by
    unfold timePending
    dsimp only
    cases held : (sockets.slots index).listener with
    | none => rfl
    | some listener => exact if_pos (.inr (.inr (.inr (free listener held))))
  rwa [timedAt, idle]

theorem Waits.round {earlier : Nat} (waits : Waits (rounds + 1) earlier sockets index entry)
    (late : earlier ≤ tick) : Free (sockets.timedAt index entry tick) index entry ∨
      Waits rounds (tick + 40) (sockets.timedAt index entry tick) index entry := by
  obtain ⟨used, stream, listener, control, held, below, live, controlled, patience⟩ := waits
  unfold timedAt timePending
  dsimp only
  rw [held]
  dsimp only
  rw [if_neg (by simp [used, stream, live, below]), controlled]
  dsimp only
  rw [if_neg (by simp [patience.handshakes.state])]
  rcases handled : control.onTimer tick with ⟨timer, after⟩
  have carries := transmitIfAny_carries { sockets with currentTick := tick } listener.localPort
    (listener.pending entry).peer (if timer.action = .retransmitSynAck then timer.outbound else none)
  rcases sending : transmitIfAny listener.localPort (listener.pending entry).peer
    (if timer.action = .retransmitSynAck then timer.outbound else none)
      { sockets with currentTick := tick } with ⟨sent, carried⟩
  rw [sending] at carries
  simp only
  rcases (patience.later late).onTimer handled with expired | patience
  · rw [if_pos (.inr expired)]
    exact .inl (setListener_free _ _ _ _)
  · split
    · exact .inl (setListener_free _ _ _ _)
    · have slots : carried.slots = sockets.slots := carries.slots
      refine .inr ⟨?_, ?_, listener.setPending entry { listener.pending entry with
        control := some after }, after, ?_, below, ?_, ?_, patience⟩
      all_goals simp only [setListener, modifySlot, TcpListenerState.setPending,
        Function.update_self, slots]
      · exact used
      · exact stream
      · exact live

/-- Rounds of the timer that are at least 40 ticks apart free the entry. -/
theorem Waits.frees {first second third fourth : Nat} (waits : Waits 4 first sockets index entry)
    (secondLate : first + 40 ≤ second) (thirdLate : second + 40 ≤ third)
    (fourthLate : third + 40 ≤ fourth) :
    Free ([first, second, third, fourth].foldl (timedAt index entry) sockets) index entry := by
  simp only [foldl_cons, foldl_nil]
  rcases waits.round le_rfl with free | waits
  · exact ((free.round second).round third).round fourth
  rcases waits.round secondLate with free | waits
  · exact (free.round third).round fourth
  rcases waits.round thirdLate with free | waits
  · exact free.round fourth
  rcases waits.round fourthLate with free | ⟨-, -, _, _, -, -, -, -, patience⟩
  · exact free
  · exact patience.exhausted.elim

/-! ### What becomes of an entry -/

/-- The listener in the slot holds a connection that waits in the entry. -/
def Holds (sockets : Sockets) (index entry : Nat) : Prop :=
  ∃ listener, (sockets.slots index).listener = some listener ∧ entry < listener.backlog ∧
    (listener.pending entry).used = true

/-- The connection waits on. -/
def Kept (before after : Sockets) (index entry : Nat) : Prop :=
  ∃ listener changed, (before.slots index).listener = some listener ∧
    (after.slots index).listener = some changed ∧ (changed.pending entry).used = true ∧
      (changed.pending entry).peer = (listener.pending entry).peer

/-- The entry is free and nobody has the connection. -/
def Dropped (before after : Sockets) (index entry : Nat) : Prop :=
  Free after index entry ∧ ∀ other ≠ index, after.slots other = before.slots other

/-- The entry is free and one new socket has the connection. -/
def HandedTo (before after : Sockets) (index entry fresh : Nat) : Prop :=
  Free after index entry ∧ (before.slots fresh).used = false ∧
    (∀ other ≠ index, other ≠ fresh → after.slots other = before.slots other) ∧
      ∃ listener control generation, (before.slots index).listener = some listener ∧
        entry < listener.backlog ∧ (listener.pending entry).used = true ∧
          (listener.pending entry).control = some control ∧ after.slots fresh =
            acceptedSlot listener (listener.pending entry) control generation

/-- Every connection that waits is kept, dropped or handed over, and every new connected socket has
got the connection of exactly one entry. -/
structure Settles (before after : Sockets) : Prop where
  fate : ∀ index entry, Holds before index entry → Kept before after index entry ∨
    Dropped before after index entry ∨ ∃ fresh, HandedTo before after index entry fresh
  source : ∀ fresh connection, (before.slots fresh).used = false → (after.slots fresh).used = true →
    (after.slots fresh).tcp = some connection →
      ∃! place : Nat × Nat, HandedTo before after place.1 place.2 fresh

theorem kept_of_listener (holds : Holds before index entry)
    (same : (after.slots index).listener = (before.slots index).listener) :
    Kept before after index entry := by
  obtain ⟨listener, held, -, used⟩ := holds
  exact ⟨listener, listener, held, same.trans held, used, rfl⟩

/-- Without new sockets it is enough to say what becomes of the entries. -/
theorem settles_of_fate
    (fate : ∀ index entry, Holds before index entry → Kept before after index entry ∨
      Dropped before after index entry)
    (settled : ∀ fresh connection, (before.slots fresh).used = false →
      (after.slots fresh).used = true → (after.slots fresh).tcp ≠ some connection) :
    Settles before after :=
  ⟨fun index entry holds => (fate index entry holds).imp_right Or.inl,
    fun fresh connection unused used held => absurd held (settled fresh connection unused used)⟩

theorem handedTo_unique (backed : ListenersBacked before) {first second : Nat × Nat} {fresh : Nat}
    (one : HandedTo before after first.1 first.2 fresh)
    (other : HandedTo before after second.1 second.2 fresh) : first = second := by
  obtain ⟨firstIndex, firstEntry⟩ := first
  obtain ⟨secondIndex, secondEntry⟩ := second
  obtain ⟨free, unused, elsewhere, listener, control, generation, held, below, used, -, placed⟩ := one
  obtain ⟨otherFree, -, -, otherListener, otherControl, otherGeneration, otherHeld, otherBelow,
    otherUsed, -, otherPlaced⟩ := other
  have same : secondIndex = firstIndex := by
    by_contra apart
    have busy := (backed secondIndex otherListener otherHeld).2.1
    have notFresh : secondIndex ≠ fresh := by
      rintro rfl
      rw [unused] at busy
      cases busy
    have kept := otherFree otherListener
      (by rw [elsewhere secondIndex apart notFresh]; exact otherHeld)
    rw [kept] at otherUsed
    cases otherUsed
  subst same
  cases (held.symm.trans otherHeld)
  have peers : (listener.pending firstEntry).peer = (listener.pending secondEntry).peer := by
    have connected := congrArg (fun slot => slot.tcp.map TcpSocketState.peer)
      (placed.symm.trans otherPlaced)
    simpa [acceptedSlot] using connected
  have inOrder := (backed secondIndex listener held).2.2.2
  rw [inOrder.distinct firstEntry below secondEntry otherBelow used otherUsed peers]

theorem settles_of_slots {middle : Sockets} (settles : Settles before middle)
    (slots : after.slots = middle.slots) : Settles before after := by
  obtain ⟨fate, source⟩ := settles
  refine ⟨?_, ?_⟩
  · unfold Kept Dropped HandedTo Free at fate ⊢
    rwa [slots]
  · unfold HandedTo Free at source ⊢
    rwa [slots]

/-- What a listener holds stays with the same peer, or its entry is freed. -/
theorem SlotMove.keeps {after : SocketSlot} {wakes : Option WaitReason}
    {outbound : Option (Nat × Peer × OutboundSegment)} {takes : Bool}
    (move : SlotMove action takes slot after wakes outbound) (held : slot.listener = some listener)
    (used : (listener.pending entry).used = true) :
    (∃ changed, after.listener = some changed ∧ (changed.pending entry).used = true ∧
      (changed.pending entry).peer = (listener.pending entry).peer) ∨
      ∀ changed, after.listener = some changed → (changed.pending entry).used = false := by
  cases move with
  | configure port nonblocking => exact .inl ⟨listener, held, used, rfl⟩
  | listen bounded stream unconnected deaf =>
    rw [deaf] at held
    cases held
  | connect port peer unconnected deaf begun becomes => exact .inl ⟨listener, held, used, rfl⟩
  | connection connected move => exact .inl ⟨listener, held, used, rfl⟩
  | @pending other place pending wakes outbound same below move woken =>
    cases (held.symm.trans same)
    obtain rfl | here := eq_or_ne entry place
    · cases move with
      | opened served port unused =>
        rw [unused] at used
        cases used
      | handled => exact .inl ⟨_, rfl, by simpa [TcpListenerState.setPending] using used,
          by simp [TcpListenerState.setPending]⟩
      | waited => exact .inl ⟨_, rfl, by simpa [TcpListenerState.setPending] using used,
          by simp [TcpListenerState.setPending]⟩
      | freed =>
        refine .inr fun changed became => ?_
        cases became
        simp only [TcpListenerState.setPending, Function.update_self]
    · refine .inl ⟨_, rfl, ?_, ?_⟩
      · simpa only [TcpListenerState.setPending, Function.update_of_ne here] using used
      · simp only [TcpListenerState.setPending, Function.update_of_ne here]

theorem Move.settles (backed : ListenersBacked before)
    (move : Move action before after) : Settles before after := by
  cases move with
  | idle slots =>
    refine settles_of_fate (fun index entry holds => .inl (kept_of_listener holds (by rw [slots])))
      fun fresh connection unused used => ?_
    rw [slots, unused] at used
    cases used
  | @change index slot wakes outbound target below live move slots =>
    refine settles_of_fate (fun place entry holds => ?_) fun fresh connection unused used => ?_
    · by_cases here : place = index
      · subst here
        obtain ⟨listener, held, entryBelow, used⟩ := holds
        have placed : after.slots place = slot := by rw [slots, Function.update_self]
        rcases move.keeps held used with ⟨changed, became, live, same⟩ | freed
        · exact .inl ⟨listener, changed, held, by rw [placed, became], live, same⟩
        · refine .inr ⟨fun changed became => freed changed (by rw [← placed, became]), ?_⟩
          intro other apart
          rw [slots, Function.update_of_ne apart]
      · exact .inl (kept_of_listener holds (by rw [slots, Function.update_of_ne here]))
    · have other : fresh ≠ index := by
        rintro rfl
        rw [unused] at live
        cases live
      rw [slots, Function.update_of_ne other, unused] at used
      cases used
  | @create index slot below unused unconnected deaf slots =>
    refine settles_of_fate (fun place entry holds => .inl (kept_of_listener holds ?_))
      fun fresh connection idle used held => ?_
    · have other : place ≠ index := by
        rintro rfl
        obtain ⟨listener, held, -⟩ := holds
        rw [(backed place listener held).2.1] at unused
        cases unused
      rw [slots, Function.update_of_ne other]
    · obtain rfl | here := eq_or_ne fresh index
      · rw [slots, Function.update_self, unconnected] at held
        cases held
      · rw [slots, Function.update_of_ne here, idle] at used
        cases used
  | @accept index fresh entry generation listener control target below live listens entryBelow pending
      held established freshBelow unused slots =>
    have apart : fresh ≠ index := by
      rintro rfl
      rw [unused] at live
      cases live
    have handed : HandedTo before after index entry fresh := by
      refine ⟨fun changed became => ?_, unused, fun other notIndex notFresh => ?_, listener, control,
        generation, listens, entryBelow, pending, held, ?_⟩
      · rw [slots, Function.update_self] at became
        cases became
        simp only [TcpListenerState.setPending, Function.update_self]
      · rw [slots, Function.update_of_ne notIndex, Function.update_of_ne notFresh]
      · rw [slots, Function.update_of_ne apart, Function.update_self]
    refine ⟨fun place other holds => ?_, fun new connection idle used connected => ?_⟩
    · by_cases here : place = index
      · subst here
        by_cases same : other = entry
        · subst same
          exact .inr (.inr ⟨fresh, handed⟩)
        · obtain ⟨otherListener, otherHeld, -, used⟩ := holds
          cases (listens.symm.trans otherHeld)
          refine .inl ⟨listener, listener.setPending entry {}, listens, ?_, ?_, ?_⟩
          · rw [slots, Function.update_self]
          · simpa only [TcpListenerState.setPending, Function.update_of_ne same] using used
          · simp only [TcpListenerState.setPending, Function.update_of_ne same]
      · refine .inl (kept_of_listener holds ?_)
        have notFresh : place ≠ fresh := by
          rintro rfl
          obtain ⟨otherListener, otherHeld, -⟩ := holds
          rw [(backed place otherListener otherHeld).2.1] at unused
          cases unused
        rw [slots, Function.update_of_ne here, Function.update_of_ne notFresh]
    · have same : new = fresh := by
        by_contra notFresh
        obtain rfl | here := eq_or_ne new index
        · rw [idle] at live
          cases live
        · rw [slots, Function.update_of_ne here, Function.update_of_ne notFresh, idle] at used
          cases used
      subst same
      exact ⟨(index, entry), handed, fun place other => handedTo_unique backed other handed⟩

theorem Action.settles (backed : ListenersBacked sockets) (action : Action) :
    Settles sockets (action.next sockets) := by
  obtain ⟨middle, move, outcome⟩ := action.moves sockets
  have settled := move.settles backed
  rcases outcome with same | asleep
  · rwa [same]
  · exact settles_of_slots settled asleep.slots

/-- In every run in which no peer ends its stream before it was accepted, every connection that
waits in a backlog can be accepted or has its timer running, which frees its entry within four rounds
when nothing else happens, no two of a listener come from one peer, and whatever happens next, each is
kept, dropped, or handed to exactly one new socket, which has got no other. -/
theorem Run.backlog_progresses {start after : Sockets} {served : List Segment} (fresh : Fresh start)
    (run : Run (fun sockets action => ¬ EndsPending sockets action) start served after) :
    (∀ index listener, (after.slots index).listener = some listener → Backed listener) ∧
      (∀ index listener entry control, (after.slots index).listener = some listener →
        entry < listener.backlog → (listener.pending entry).used = true →
          (listener.pending entry).control = some control → control.state = .synReceived →
            ∀ first second third fourth, control.lastTimerTick + 40 ≤ first →
              first + 40 ≤ second → second + 40 ≤ third → third + 40 ≤ fourth →
                Free ([first, second, third, fourth].foldl (timedAt index entry) after) index
                  entry) ∧
      ∀ action : Action, Settles after (action.next after) := by
  have backed := run.listenersBacked fresh
  refine ⟨fun index listener held => (backed index listener held).2.2.2, ?_, Action.settles backed⟩
  intro index listener entry control held below used controlled state first second third fourth late
    secondLate thirdLate fourthLate
  obtain ⟨-, live, stream, inOrder⟩ := backed index listener held
  obtain ⟨other, same, progresses⟩ := inOrder.progress entry below used
  obtain rfl := Option.some.inj (same.symm.trans controlled)
  rcases progresses with handshakes | established
  · exact Waits.frees ⟨live, stream, listener, other, held, below, used, controlled,
      handshakes.patience late⟩ secondLate thirdLate fourthLate
  · rw [established] at state
    exact nomatch state

theorem not_continuesPending {kind : Segment → Prop}
    (other : ∀ arrived, action = .segment arrived → ¬ kind arrived) :
    ¬ ContinuesPending kind sockets action := by
  rintro ⟨_, _, _, _, arrived, served, -, -, -, -, -, -, -, -, holds⟩
  exact other arrived served holds

theorem holds_of_any (held : ((sockets.slots index).listener.any fun listener =>
      decide (entry < listener.backlog) && (listener.pending entry).used) = true) :
    Holds sockets index entry := by
  cases listens : (sockets.slots index).listener with
  | none =>
    rw [listens] at held
    cases held
  | some listener =>
    rw [listens, Option.any_some, Bool.and_eq_true, decide_eq_true_eq] at held
    exact ⟨listener, listens, held⟩

/-- A first segment continues nothing that it does not carry. -/
theorem opening_run {kind : Segment → Prop} (other : ¬ kind opening) :
    ∃ served, Run (fun sockets action => ¬ ContinuesPending kind sockets action) booted served
      (Action.run (listening ++ [.segment opening]) booted) := by
  have run : Run (fun sockets action => ¬ ContinuesPending kind sockets action) booted [] booted :=
    .start
  refine run.actions _ fun earlier action later split => not_continuesPending fun arrived served => ?_
  have member : action ∈ listening ++ [.segment opening] := by
    rw [split]
    exact mem_append_right _ mem_cons_self
  subst served
  simp only [listening, cons_append, nil_append, mem_cons, not_mem_nil,
    reduceCtorEq, Action.segment.injEq, or_false, false_or] at member
  rwa [member]

/-- A connection that a peer has begun waits with its timer running. -/
theorem opening_waits : Holds (Action.run (listening ++ [.segment opening]) booted) 0 0 ∧
      ∀ listener, ((Action.run (listening ++ [.segment opening]) booted).slots 0).listener =
        some listener → Backed listener := by
  obtain ⟨served, run⟩ := @opening_run (fun arrived => hasFlag arrived.flags flagFin = true)
    (by decide)
  exact ⟨holds_of_any (by decide +kernel), (run.backlog_progresses booted_fresh).1 0⟩

/-- The peer completes its handshake and at once ends its stream. -/
def endedEarly : Sockets :=
  (((Action.run listening booted).serviceNetwork [some opening]).serviceNetwork
    [some (continuing flagAck [])]).serviceNetwork [some (continuing (flagFin ||| flagAck) [])]

/-- Its connection is stranded. -/
theorem endedEarly_strands :
    ¬ ∀ start served after, Fresh start → Run (fun _ _ => True) start served after →
      ∀ index listener, (after.slots index).listener = some listener → Backed listener := by
  intro claim
  have run : Run (fun _ _ => True) booted [] booted := .start
  obtain ⟨_, run⟩ := run.actions listening fun _ _ _ _ => trivial
  obtain ⟨_, run⟩ := run.pass [some opening] fun _ _ => trivial
  obtain ⟨_, run⟩ := run.pass [some (continuing flagAck [])] fun _ _ => trivial
  obtain ⟨served, run⟩ := run.pass [some (continuing (flagFin ||| flagAck) [])] fun _ _ => trivial
  have stranded : ((endedEarly.slots 0).listener.any fun listener =>
      decide (0 < listener.backlog) && (listener.pending 0).used &&
        (listener.pending 0).control.any fun control => control.state == .closeWait) = true := by
    decide +kernel
  cases listens : (endedEarly.slots 0).listener with
  | none =>
    rw [listens] at stranded
    exact nomatch stranded
  | some listener =>
    rw [listens, Option.any_some] at stranded
    simp only [Bool.and_eq_true, decide_eq_true_eq] at stranded
    obtain ⟨⟨below, used⟩, closing⟩ := stranded
    obtain ⟨control, held, progresses⟩ :=
      (claim booted served endedEarly booted_fresh run 0 listener listens).progress 0 below used
    rw [held, Option.any_some, beq_iff_eq] at closing
    rcases progresses with handshakes | established
    · exact nomatch closing.symm.trans handshakes.state
    · exact nomatch closing.symm.trans established

end Sockets

end ZigOs.RuntimeUser
