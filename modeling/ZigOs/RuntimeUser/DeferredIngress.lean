/-
This file proves that no control block takes over payload or the end of a stream,
and that what the device sends acknowledges nothing but the first segment of a
peer. Nobody can read a stream yet, so what comes in on a connection is left for
later. The exception is again the connection that waits in a backlog: a peer whose
handshake is complete may send, and the listener takes over what it sends and
acknowledges it.
-/

import ZigOs.RuntimeUser.Backlog

namespace ZigOs.RuntimeUser

open Scan RuntimeProcess RuntimeFd TcpConnection ControlBlock TcpListenerState

namespace Sockets

/-! ### What is acknowledged -/

/-- The number acknowledges exactly the first segment that the peer has sent to the port. -/
def Acknowledges (served : List Segment) (localPort : Nat) (peer : Peer) (number : Sequence) : Prop :=
  ∃ arrived ∈ served, hasFlag arrived.flags flagSyn = true ∧ arrived.source = peer ∧
    arrived.destinationPort = localPort ∧ number = arrived.sequenceNumber + 1

/-- The block has taken over nothing of the peer's stream, and when it expects a number, it is the one
after the peer's first segment. -/
structure Deaf (served : List Segment) (localPort : Nat) (peer : Peer) (control : ControlBlock) :
    Prop where
  bytes : control.bytesReceived = 0
  fins : control.finsReceived = 0
  seed : control.state ≠ .closed → control.state ≠ .synSent → control.state ≠ .reset →
    control.state ≠ .timedOut → Acknowledges served localPort peer control.receiveNext

variable {served : List Segment} {localPort : Nat} {peer : Peer}

theorem Acknowledges.more {number : Sequence}
    (acknowledges : Acknowledges served localPort peer number) (more : List Segment) :
    Acknowledges (more ++ served) localPort peer number := by
  obtain ⟨arrived, member, rest⟩ := acknowledges
  exact ⟨arrived, List.mem_append_right more member, rest⟩

variable {control : ControlBlock}

theorem Deaf.more (deaf : Deaf served localPort peer control) (more : List Segment) :
    Deaf (more ++ served) localPort peer control :=
  ⟨deaf.bytes, deaf.fins, fun closed synSent reset timedOut =>
    (deaf.seed closed synSent reset timedOut).more more⟩

/-- A segment may be sent when it acknowledges nothing or the peer's first segment. -/
def MaySend (served : List Segment) (localPort : Nat) (peer : Peer)
    (outbound : Option OutboundSegment) : Prop :=
  ∀ segment, outbound = some segment → hasFlag segment.flags flagAck = true →
    Acknowledges served localPort peer segment.acknowledgementNumber

theorem maySend_none (served : List Segment) (localPort : Nat) (peer : Peer) :
    MaySend served localPort peer none := nofun

theorem maySend_some {segment : OutboundSegment}
    (acknowledges : hasFlag segment.flags flagAck = true →
      Acknowledges served localPort peer segment.acknowledgementNumber) :
    MaySend served localPort peer (some segment) := by
  rintro other same
  cases same
  exact acknowledges

/-! ### Connections -/

/-- The connection takes over nothing, and its handshake is its own to begin. -/
structure ConnectionDeaf (served : List Segment) (connection : TcpSocketState) : Prop where
  deaf : Deaf served connection.localPort connection.peer connection.control
  opens : connection.status = .connecting →
    connection.control.state = .synSent ∨ connection.control.state = .closed

/-- The block after a bare segment that an established end has handled. -/
theorem Deaf.bare {after : ControlBlock} {segment : SegmentView} {transition : Transition}
    (deaf : Deaf served localPort peer control) (state : control.state = .established)
    (handled : control.handleSegment segment = (transition, after))
    (empty : segment.payloadLength = 0) (endless : hasFlag segment.flags flagFin = false) :
    Deaf served localPort peer after ∧ (transition.accepted = true → transition.outbound = none) := by
  unfold handleSegment at handled
  rw [state] at handled
  rcases handleEstablished_cases handled with
    ⟨refused, rfl⟩ | ⟨-, -, silent, rfl⟩ | ⟨-, rfl, -, silent⟩
  · exact ⟨deaf, fun accepted => nomatch refused.symm.trans accepted⟩
  · exact ⟨⟨deaf.bytes, deaf.fins, fun _ _ reset => absurd rfl reset⟩, fun _ => silent⟩
  · refine ⟨?_, fun _ => ?_⟩
    · rw [advanced_bare empty endless]
      exact ⟨deaf.bytes, deaf.fins, deaf.seed⟩
    · rw [silent]
      exact if_neg (not_or.mpr ⟨Bool.eq_false_iff.mp endless, not_not.mpr empty⟩)

variable {action : Action} {outbound : Option OutboundSegment} {takes : Bool}

theorem ConnectionMove.deaf {connection after : TcpSocketState} {wakes : Bool}
    (deaf : ConnectionDeaf served connection)
    (move : ConnectionMove action takes connection after wakes outbound) :
    ConnectionDeaf (action.served ++ served) after ∧
      MaySend (action.served ++ served) connection.localPort connection.peer outbound := by
  have held := deaf.deaf.more action.served
  cases move with
  | send established writable begun =>
    obtain ⟨-, state, number, rfl⟩ := beginApplicationSend_cases begun
    have seed := held.seed (by simp [state]) (by simp [state]) (by simp [state]) (by simp [state])
    refine ⟨⟨⟨held.bytes, held.fins, fun _ _ _ _ => seed⟩, deaf.opens⟩, maySend_some fun _ => ?_⟩
    rwa [number]
  | shutdownRead established => exact ⟨⟨held, deaf.opens⟩, maySend_none _ _ _⟩
  | shutdownWrite called stops taken stopsReading established writable closed accepted sends =>
    rcases beginClose_cases closed with
      refused | ⟨states, bytes, fins, next, segment, sent, number⟩
    · cases refused.symm.trans accepted
    · have seed := held.seed (by rcases states with states | states <;> simp [states.1])
        (by rcases states with states | states <;> simp [states.1])
        (by rcases states with states | states <;> simp [states.1])
        (by rcases states with states | states <;> simp [states.1])
      refine ⟨⟨⟨bytes.trans held.bytes, fins.trans held.fins, fun _ _ _ _ => next ▸ seed⟩,
        fun connects => nomatch established.symm.trans connects⟩, ?_⟩
      cases (sends.symm.trans sent)
      refine maySend_some fun _ => ?_
      rwa [number]
  | connecting served' reached connects handled accepted becomes =>
    subst served'
    rcases deaf.opens connects with state | state
    · unfold handleSegment at handled
      rw [state] at handled
      rcases handleSynSent_cases handled with
        ⟨refused, -⟩ | ⟨reset, silent, rfl⟩ | ⟨syn, opened, rfl, answer⟩
      · cases refused.symm.trans accepted
      · rw [silent]
        refine ⟨⟨⟨held.bytes, held.fins, fun _ _ other => absurd rfl other⟩, fun again => ?_⟩,
          maySend_none _ _ _⟩
        rw [reset] at becomes
        rcases becomes with becomes | becomes
        · cases becomes.symm.trans again
        · cases becomes.symm.trans again
      · simp only [reaches, Bool.and_eq_true, beq_iff_eq] at reached
        have seed : Acknowledges (Action.served (.segment _) ++ served) connection.localPort
            connection.peer _ :=
          ⟨_, List.mem_cons_self, syn, reached.2.symm, reached.1.symm, rfl⟩
        refine ⟨⟨⟨held.bytes, held.fins, fun _ _ _ _ => seed⟩, fun again => ?_⟩, ?_⟩
        · rw [opened] at becomes
          rcases becomes with becomes | becomes
          · cases becomes.symm.trans again
          · cases becomes.symm.trans again
        · rw [answer]
          exact maySend_some fun _ => seed
    · unfold handleSegment at handled
      rw [state] at handled
      cases handled
      cases accepted
  | deferred served' established state handled woken =>
    refine ⟨⟨?_, fun connects => nomatch established.symm.trans connects⟩, maySend_none _ _ _⟩
    rcases handled with ⟨-, -, -, rfl⟩ | rfl
    · exact (held.bare state rfl rfl (show hasFlag flagAck flagFin = false by decide)).1
    · exact held
  | plain served' established state empty endless handled accepted becomes woken =>
    refine ⟨⟨(held.bare state handled rfl endless).1, fun connects => ?_⟩, maySend_none _ _ _⟩
    rw [becomes] at connects
    split at connects <;> cases connects
  | timer connects handled becomes =>
    rcases onTimer_cases handled with
      ⟨quiet, rfl⟩ | ⟨expired, -, -, rfl⟩ | ⟨again, -, -, sent, rfl⟩
    · rw [if_neg (by rw [quiet]; exact nofun)]
      exact ⟨⟨held, fun _ => deaf.opens connects⟩, maySend_none _ _ _⟩
    · rw [if_neg (by rw [expired]; exact nofun)]
      refine ⟨⟨⟨held.bytes, held.fins, fun _ _ _ other => absurd rfl other⟩, fun waits => ?_⟩,
        maySend_none _ _ _⟩
      rcases becomes with ⟨-, gone⟩ | ⟨alive, -⟩
      · cases gone.symm.trans waits
      · exact absurd expired alive
    · refine ⟨⟨⟨held.bytes, held.fins, held.seed⟩, fun _ => deaf.opens connects⟩, ?_⟩
      rcases deaf.opens connects with state | state
      · -- The first segment of a connection acknowledges nothing.
        rw [if_pos (by rw [again, if_pos state]), sent, if_pos state]
        exact maySend_some fun acknowledges =>
          absurd acknowledges (show ¬ hasFlag flagSyn flagAck = true by decide)
      · rw [if_neg (by rw [again, if_neg (by simp [state])]; exact nofun)]
        exact maySend_none _ _ _

/-! ### Pending connections -/

/-- The action serves a segment that carries payload or the end of the stream to a pending
connection. -/
abbrev DeliversPending := ContinuesPending fun arrived =>
  arrived.payload ≠ [] ∨ hasFlag arrived.flags flagFin = true

theorem forall_some {Value : Type} {holds : Value → Prop} {value : Value} (one : holds value) :
    ∀ other, some value = some other → holds other := by
  rintro other same
  cases same
  exact one

theorem PendingMove.deaf {listener : TcpListenerState} {entry : Nat} {after : TcpPendingConnection}
    (deaf : ∀ control, (listener.pending entry).control = some control →
      Deaf served listener.localPort (listener.pending entry).peer control)
    (progress : (listener.pending entry).used = true → ∀ control,
      (listener.pending entry).control = some control → Progresses control)
    (move : PendingMove action listener entry after outbound)
    (bare : ∀ arrived control, action = .segment arrived →
      (listener.pending entry).used = true → (listener.pending entry).peer = arrived.source →
        (listener.pending entry).control = some control → control.state = .established →
          control.Continues arrived.view →
            arrived.payload = [] ∧ hasFlag arrived.flags flagFin = false) :
    (∀ control, after.control = some control →
      Deaf (action.served ++ served) listener.localPort after.peer control) ∧
        MaySend (action.served ++ served) listener.localPort after.peer outbound := by
  cases move with
  | @opened arrived initialSequence tick transition control served' port unused unknown begun
      accepted =>
    subst served'
    rcases beginPassiveOpenAt_cases begun with refused | ⟨flags, rfl, sent⟩
    · cases refused.symm.trans accepted
    · have syn : hasFlag arrived.flags flagSyn = true := by
        rw [show arrived.flags = flagSyn from flags]
        decide
      have seed : Acknowledges (Action.served (.segment arrived) ++ served) listener.localPort
          arrived.source (arrived.sequenceNumber + 1) :=
        ⟨arrived, List.mem_cons_self, syn, rfl, port, rfl⟩
      refine ⟨forall_some ⟨rfl, rfl, fun _ _ _ _ => seed⟩, ?_⟩
      rw [sent]
      exact maySend_some fun _ => seed
  | @handled arrived transition control after served' port used source held handled accepted alive =>
    have waits := (deaf _ held).more action.served
    rcases progress used _ held with handshakes | established
    · have state := handshakes.state
      have seed := waits.seed (by simp [state]) (by simp [state]) (by simp [state]) (by simp [state])
      unfold handleSegment at handled
      rw [state] at handled
      rcases handleSynReceived_cases handled with
        ⟨refused, -⟩ | ⟨-, sent, rfl⟩ | ⟨reset, -⟩ | ⟨-, silent, rfl⟩
      · cases refused.symm.trans accepted
      · rw [sent]
        exact ⟨forall_some waits, maySend_some fun _ => seed⟩
      · exact absurd reset alive.2.1
      · rw [silent]
        exact ⟨forall_some ⟨waits.bytes, waits.fins, fun _ _ _ _ => seed⟩, maySend_none _ _ _⟩
    · have continues : control.Continues arrived.view := by
        have same := handled
        unfold handleSegment at same
        rw [established] at same
        rcases handleEstablished_cases same with
          ⟨refused, -⟩ | ⟨-, reset, -⟩ | ⟨continues, -⟩
        · cases refused.symm.trans accepted
        · exact absurd reset alive.2.1
        · exact continues
      obtain ⟨empty, endless⟩ := bare _ _ served' used source held established continues
      obtain ⟨kept, silent⟩ := waits.bare established handled (by simp [Segment.view, empty]) endless
      rw [silent accepted]
      exact ⟨forall_some kept, maySend_none _ _ _⟩
  | waited used held state handled alive =>
    have waits := (deaf _ held).more action.served
    have seed := waits.seed (by simp [state]) (by simp [state]) (by simp [state]) (by simp [state])
    rcases onTimer_cases handled with
      ⟨quiet, rfl⟩ | ⟨expired, -⟩ | ⟨again, -, -, sent, rfl⟩
    · rw [if_neg (by rw [quiet]; exact nofun)]
      exact ⟨forall_some waits, maySend_none _ _ _⟩
    · exact absurd expired alive
    · refine ⟨forall_some ⟨waits.bytes, waits.fins, fun _ _ _ _ => seed⟩, ?_⟩
      rw [if_pos (by rw [again, if_neg (by simp [state])]), sent, if_neg (by simp [state])]
      exact maySend_some fun _ => seed
  | freed => exact ⟨nofun, maySend_none _ _ _⟩

/-! ### Slots -/

/-- Nothing in the slot has taken over anything of a peer's stream. -/
structure SlotDeaf (served : List Segment) (slot : SocketSlot) : Prop where
  connection : ∀ connection, slot.tcp = some connection → ConnectionDeaf served connection
  pending : ∀ listener entry control, slot.listener = some listener →
    (listener.pending entry).control = some control →
      Deaf served listener.localPort (listener.pending entry).peer control

variable {slot : SocketSlot}

theorem SlotDeaf.more (deaf : SlotDeaf served slot)
    (more : List Segment) : SlotDeaf (more ++ served) slot :=
  ⟨fun connection held => ⟨(deaf.connection connection held).deaf.more more,
      (deaf.connection connection held).opens⟩,
    fun listener entry control held controlled =>
      (deaf.pending listener entry control held controlled).more more⟩

theorem slotDeaf_empty (served : List Segment) (unconnected : slot.tcp = none)
    (deaf : slot.listener = none) : SlotDeaf served slot := by
  refine ⟨fun connection held => ?_, fun listener entry control held => ?_⟩
  · rw [unconnected] at held
    cases held
  · rw [deaf] at held
    cases held

/-- What may be sent beside its port and peer. -/
def MaySendTo (served : List Segment) (outbound : Option (Nat × Peer × OutboundSegment)) : Prop :=
  ∀ localPort peer segment, outbound = some (localPort, peer, segment) →
    hasFlag segment.flags flagAck = true →
      Acknowledges served localPort peer segment.acknowledgementNumber

theorem maySendTo_map (may : MaySend served localPort peer outbound) :
    MaySendTo served (outbound.map (localPort, peer, ·)) := by
  rintro port other segment same acknowledges
  obtain ⟨sent, outgoing, placed⟩ := Option.map_eq_some_iff.mp same
  obtain ⟨rfl, rest⟩ := Prod.mk.inj placed
  obtain ⟨rfl, rfl⟩ := Prod.mk.inj rest
  exact may sent outgoing acknowledges

theorem SlotMove.deaf {after : SocketSlot} {wakes : Option WaitReason}
    {outbound : Option (Nat × Peer × OutboundSegment)} (deaf : SlotDeaf served slot)
    (backed : ∀ listener, slot.listener = some listener → Backed listener)
    (move : SlotMove action takes slot after wakes outbound)
    (bare : ∀ listener entry arrived control, slot.listener = some listener →
      entry < listener.backlog → action = .segment arrived →
        (listener.pending entry).used = true → (listener.pending entry).peer = arrived.source →
          (listener.pending entry).control = some control → control.state = .established →
            control.Continues arrived.view →
              arrived.payload = [] ∧ hasFlag arrived.flags flagFin = false) :
    SlotDeaf (action.served ++ served) after ∧ MaySendTo (action.served ++ served) outbound := by
  have held := deaf.more action.served
  cases move with
  | configure port nonblocking => exact ⟨⟨held.connection, held.pending⟩, nofun⟩
  | listen bounded stream unconnected =>
    refine ⟨⟨held.connection, fun listener entry control same controlled => ?_⟩, nofun⟩
    cases same
    cases controlled
  | connect port peer unconnected silent begun becomes =>
    rcases beginActiveOpenAt_cases begun with ⟨-, none, rfl⟩ | ⟨sent, rfl⟩
    · refine ⟨⟨forall_some ⟨⟨rfl, rfl, fun closed => absurd rfl closed⟩, fun _ => .inr rfl⟩,
        held.pending⟩, ?_⟩
      rw [none]
      exact nofun
    · refine ⟨⟨forall_some ⟨⟨rfl, rfl, fun _ opening => absurd rfl opening⟩, fun _ => .inl rfl⟩,
        held.pending⟩, ?_⟩
      rw [sent]
      refine maySendTo_map (maySend_some fun acknowledges => ?_)
      exact absurd acknowledges (show ¬ hasFlag flagSyn flagAck = true by decide)
  | connection same move =>
    obtain ⟨after, may⟩ := move.deaf (deaf.connection _ same)
    exact ⟨⟨forall_some after, held.pending⟩, maySendTo_map may⟩
  | @pending listener entry pending wakes outbound same below move woken =>
    have progress (used : (listener.pending entry).used = true) (control : ControlBlock)
        (controlled : (listener.pending entry).control = some control) : Progresses control := by
      obtain ⟨other, also, progresses⟩ := (backed listener same).progress entry below used
      cases (also.symm.trans controlled)
      exact progresses
    obtain ⟨after, may⟩ := move.deaf (fun control => deaf.pending listener entry control same) progress
      fun arrived control => bare listener entry arrived control same below
    refine ⟨⟨held.connection, fun changed other control became controlled => ?_⟩, maySendTo_map may⟩
    cases became
    obtain rfl | here := eq_or_ne other entry
    · simp only [setPending, Function.update_self] at controlled ⊢
      exact after control controlled
    · simp only [setPending, Function.update_of_ne here] at controlled ⊢
      exact held.pending listener other control same controlled

/-! ### Runs -/

/-- Nobody has taken over anything of a peer's stream, and nothing of it was acknowledged. -/
structure IngressDeferred (served : List Segment) (sockets : Sockets) : Prop where
  slots : ∀ index, SlotDeaf served (sockets.slots index)
  sent : ∀ transmission ∈ sockets.transmitted, hasFlag transmission.outbound.flags flagAck = true →
    Acknowledges served transmission.localPort transmission.peer
      transmission.outbound.acknowledgementNumber

variable {before after : Sockets}

theorem IngressDeferred.of_same (deferred : IngressDeferred served before)
    (slots : after.slots = before.slots)
    (sent : after.transmitted = before.transmitted) : IngressDeferred served after := by
  refine ⟨?_, ?_⟩
  · rw [slots]
    exact deferred.slots
  · rw [sent]
    exact deferred.sent

variable {sockets : Sockets}

theorem IngressDeferred.more (deferred : IngressDeferred served sockets) (more : List Segment) :
    IngressDeferred (more ++ served) sockets :=
  ⟨fun index => (deferred.slots index).more more, fun transmission member acknowledges =>
    (deferred.sent transmission member acknowledges).more more⟩

theorem IngressDeferred.update {index : Nat} (deferred : IngressDeferred served before)
    (deaf : SlotDeaf served slot) (slots : after.slots = Function.update before.slots index slot)
    (sent : ∀ transmission ∈ after.transmitted, hasFlag transmission.outbound.flags flagAck = true →
      Acknowledges served transmission.localPort transmission.peer
        transmission.outbound.acknowledgementNumber) : IngressDeferred served after := by
  refine ⟨fun other => ?_, sent⟩
  rw [slots]
  obtain rfl | here := eq_or_ne other index
  · rwa [Function.update_self]
  · rw [Function.update_of_ne here]
    exact deferred.slots other

theorem Move.deferred {action : Action} {served : List Segment} {before after : Sockets}
    (deferred : IngressDeferred served before) (backed : ListenersBacked before)
    (bare : ¬ DeliversPending before action) (move : Move action before after) :
    IngressDeferred (action.served ++ served) after := by
  have held := deferred.more action.served
  cases move with
  | idle slots calm transmitted => exact held.of_same slots transmitted
  | @change index slot wakes outbound target below used move slots calm woken sends =>
    obtain ⟨deaf, may⟩ := move.deaf (deferred.slots index)
      (fun listener listens => (backed index listener listens).2.2.2)
      (by
        intro listener entry arrived control listens entryBelow served' live source controlled
          established continues
        by_contra carries
        refine bare ⟨index, listener, entry, control, arrived, served', target, listens, entryBelow,
          live, source, controlled, established, continues, ?_⟩
        rwa [not_and_or, Bool.not_eq_false] at carries)
    refine held.update deaf slots ?_
    rcases sends with same | ⟨localPort, peer, segment, payload, outgoing, sent⟩
    · rw [same]
      exact held.sent
    · rw [sent]
      intro transmission member acknowledges
      rcases List.mem_cons.mp member with rfl | earlier
      · exact may localPort peer segment outgoing acknowledges
      · exact held.sent transmission earlier acknowledges
  | create below unused unconnected deaf slots calm transmitted =>
    refine held.update (slotDeaf_empty _ unconnected deaf) slots ?_
    rw [transmitted]
    exact held.sent
  | @accept index fresh entry generation listener control target below live listens entryBelow pending
      controlled established freshBelow unused slots calm transmitted =>
    have waiting := (held.slots index).pending listener
    have sent : ∀ transmission ∈ after.transmitted,
        hasFlag transmission.outbound.flags flagAck = true →
          Acknowledges (action.served ++ served) transmission.localPort transmission.peer
            transmission.outbound.acknowledgementNumber := by
      rw [transmitted]
      exact held.sent
    refine ⟨fun other => ?_, sent⟩
    rw [slots]
    obtain rfl | here := eq_or_ne other index
    · rw [Function.update_self]
      refine ⟨(held.slots other).connection, fun changed place block became blocked => ?_⟩
      cases became
      by_cases same : place = entry
      · subst same
        simp only [setPending, Function.update_self] at blocked
        cases blocked
      · simp only [setPending, Function.update_of_ne same] at blocked ⊢
        exact waiting place block listens blocked
    · rw [Function.update_of_ne here]
      obtain rfl | new := eq_or_ne other fresh
      · rw [Function.update_self]
        have apart : TcpConnectStatus.established ≠ .connecting := by decide
        refine ⟨forall_some ⟨waiting entry control listens controlled,
          fun connects => absurd connects apart⟩, fun _ _ _ deaf => absurd deaf (by simp [acceptedSlot])⟩
      · rw [Function.update_of_ne new]
        exact held.slots other

/-- A run keeps meeting a weaker condition. -/
theorem Run.weaken {strong weak : Sockets → Action → Prop} {start : Sockets}
    (run : Run strong start served after)
    (weaker : ∀ sockets action, strong sockets action → weak sockets action) :
    Run weak start served after := by
  induction run with
  | start => exact .start
  | action run action meets hypothesis =>
    exact hypothesis.action action (weaker _ _ meets)
  | outside run moved hypothesis => exact hypothesis.outside moved

/-- The end of a stream is one of the things a segment may deliver. -/
theorem delivers_of_ends (ends : EndsPending sockets action) : DeliversPending sockets action := by
  obtain ⟨index, listener, entry, control, arrived, served, target, held, below, used, source,
    controlled, established, continues, fin⟩ := ends
  exact ⟨index, listener, entry, control, arrived, served, target, held, below, used, source,
    controlled, established, continues, .inr fin⟩

theorem Run.deferred {start after : Sockets} {served : List Segment} (fresh : Fresh start)
    (run : Run (fun sockets action => ¬ DeliversPending sockets action) start served after) :
    IngressDeferred served after := by
  induction run with
  | start =>
    refine ⟨fun index => ?_, fun transmission member => ?_⟩
    · obtain ⟨generation, empty⟩ := fresh.slots index
      rw [empty]
      exact slotDeaf_empty _ rfl rfl
    · rw [fresh.transmitted] at member
      cases member
  | action run action meets deferred =>
    have backed := (run.weaken fun _ _ bare ends => bare (delivers_of_ends ends)).listenersBacked fresh
    obtain ⟨middle, move, outcome⟩ := action.moves _
    have moved := move.deferred deferred backed meets
    rcases outcome with same | asleep
    · rwa [same]
    · exact moved.of_same asleep.slots asleep.transmitted
  | outside run moved deferred => exact deferred.of_same moved.slots moved.transmitted

/-- In every run in which no segment brings payload or the end of a stream to a connection that waits
in a backlog, no block has taken over a byte or the end of a stream, and every number that the device
has acknowledged is the one after the first segment of that peer. -/
theorem Run.ingress_deferred {start after : Sockets} {served : List Segment} (fresh : Fresh start)
    (run : Run (fun sockets action => ¬ DeliversPending sockets action) start served after) :
    (∀ index connection, (after.slots index).tcp = some connection →
      connection.control.bytesReceived = 0 ∧ connection.control.finsReceived = 0) ∧
      (∀ index listener entry control, (after.slots index).listener = some listener →
        (listener.pending entry).control = some control →
          control.bytesReceived = 0 ∧ control.finsReceived = 0) ∧
      ∀ transmission ∈ after.transmitted, hasFlag transmission.outbound.flags flagAck = true →
        Acknowledges served transmission.localPort transmission.peer
          transmission.outbound.acknowledgementNumber := by
  have deferred := run.deferred fresh
  refine ⟨fun index connection held => ?_, fun index listener entry control held controlled => ?_,
    deferred.sent⟩
  · have deaf := ((deferred.slots index).connection connection held).deaf
    exact ⟨deaf.bytes, deaf.fins⟩
  · have deaf := (deferred.slots index).pending listener entry control held controlled
    exact ⟨deaf.bytes, deaf.fins⟩

/-- A first segment is answered, and nothing else is acknowledged. -/
theorem opening_acknowledged :
    ∃ served, (Action.run (listening ++ [.segment opening]) booted).transmitted.length = 1 ∧
      ∀ transmission ∈ (Action.run (listening ++ [.segment opening]) booted).transmitted,
        hasFlag transmission.outbound.flags flagAck = true →
          Acknowledges served transmission.localPort transmission.peer
            transmission.outbound.acknowledgementNumber := by
  obtain ⟨served, run⟩ := @opening_run
    (fun arrived => arrived.payload ≠ [] ∨ hasFlag arrived.flags flagFin = true) (by decide)
  exact ⟨served, by decide +kernel, (run.ingress_deferred booted_fresh).2.2⟩

/-- The peer completes its handshake and at once sends an octet. -/
def sentEarly : Sockets :=
  (((Action.run listening booted).serviceNetwork [some opening]).serviceNetwork
    [some (continuing flagAck [])]).serviceNetwork [some (continuing (flagPsh ||| flagAck) [1])]

/-- The listener takes the octet over. -/
theorem sentEarly_received :
    ¬ ∀ start served after, Fresh start → Run (fun _ _ => True) start served after →
      ∀ index listener entry control, (after.slots index).listener = some listener →
        (listener.pending entry).control = some control → control.state = .established →
          control.bytesReceived = 0 ∧ control.finsReceived = 0 := by
  intro claim
  have run : Run (fun _ _ => True) booted [] booted := .start
  obtain ⟨_, run⟩ := run.actions listening fun _ _ _ _ => trivial
  obtain ⟨_, run⟩ := run.pass [some opening] fun _ _ => trivial
  obtain ⟨_, run⟩ := run.pass [some (continuing flagAck [])] fun _ _ => trivial
  obtain ⟨served, run⟩ := run.pass [some (continuing (flagPsh ||| flagAck) [1])] fun _ _ => trivial
  have received : ((sentEarly.slots 0).listener.any fun listener =>
      (listener.pending 0).control.any fun control =>
        control.state == .established && control.bytesReceived == 1) = true := by decide +kernel
  obtain ⟨listener, listens, received⟩ := (Option.any_eq_true _ _).mp received
  obtain ⟨control, held, received⟩ := (Option.any_eq_true _ _).mp received
  simp only [Bool.and_eq_true, beq_iff_eq] at received
  have zero := (claim booted served sentEarly booted_fresh run 0 listener 0 control listens held
    received.1).1
  rw [received.2] at zero
  cases zero

end Sockets

end ZigOs.RuntimeUser
