/-
This file proves that every action on the sockets is one of the moves. Sending
carries the sockets along unchanged, the segments and timers of the service pass
change the slot they are for, and a system call changes one slot, or puts its
process to sleep, or both.
-/

import ZigOs.RuntimeUser.SocketMoves

namespace ZigOs.RuntimeUser

open Scan RuntimeProcess RuntimeFd TcpConnection Function ControlBlock

namespace Sockets

/-! ### Sending and waking -/

/-- Only the device has moved on, and it has sent at most this segment. -/
structure Carries (before after : Sockets) (outbound : Option (Nat × Peer × OutboundSegment)) :
    Prop where
  slots : after.slots = before.slots
  kernel : after.kernel = before.kernel
  tick : after.currentTick = before.currentTick
  sends : Sends before after outbound

variable (sockets : Sockets)

theorem carries_refl (outbound : Option (Nat × Peer × OutboundSegment)) :
    Carries sockets sockets outbound := ⟨rfl, rfl, rfl, .inl rfl⟩

theorem transmit_carries (transmission : Transmission) :
    Carries sockets (sockets.transmit transmission).2
      (some (transmission.localPort, transmission.peer, transmission.outbound)) := by
  unfold transmit
  split
  · exact carries_refl _ _
  · rename_i device present
    refine ⟨rfl, rfl, rfl, ?_⟩
    unfold Sends transmitted
    rw [present]
    dsimp only [Option.elim]
    by_cases sent : device.answers device.attempts = true
    · rw [if_pos sent]
      exact .inr ⟨_, _, _, transmission.payload, rfl, rfl⟩
    · rw [if_neg sent]
      exact .inl rfl

theorem transmitIfAny_carries (localPort : Nat) (peer : Peer) (outbound : Option OutboundSegment) :
    Carries sockets (sockets.transmitIfAny localPort peer outbound).2
      (outbound.map (localPort, peer, ·)) := by
  cases outbound with
  | none => exact carries_refl _ _
  | some outbound => exact transmit_carries sockets { localPort, peer, outbound }

variable (reason : WaitReason) (index : Nat)

theorem wakeSlot_calm : KernelCalm sockets.kernel (sockets.wakeSlot reason index).kernel :=
  fun _ _ _ _ asleep => (wakeMatching_asleep asleep).1

theorem wakeSlot_woken (process : Nat) :
    ¬ (sockets.wakeSlot reason index).kernel.processes.Asleep process reason
      (socketWaitKey index (sockets.slots index).generation) :=
  fun asleep => (wakeMatching_asleep asleep).2 ⟨rfl, rfl⟩

/-- A segment that did not go out leaves no trace. -/
theorem transmit_unsent {sockets : Sockets} {transmission : Transmission}
    (unsent : (sockets.transmit transmission).1 = false) :
    Carries sockets (sockets.transmit transmission).2 none := by
  unfold transmit at *
  cases present : sockets.device with
  | none => exact carries_refl _ _
  | some device =>
    rw [present] at unsent
    refine ⟨rfl, rfl, rfl, .inl ?_⟩
    dsimp only at unsent
    simp only [transmitted, present, unsent, Option.elim, Bool.false_eq_true, if_false]

theorem transmitIfAny_unsent {sockets : Sockets} {localPort : Nat} {peer : Peer}
    {outbound : Option OutboundSegment}
    (unsent : (sockets.transmitIfAny localPort peer outbound).1 = false) :
    Carries sockets (sockets.transmitIfAny localPort peer outbound).2 none := by
  cases outbound with
  | none => exact carries_refl _ _
  | some outbound => exact transmit_unsent unsent

variable {wakes : Bool}

section Change

variable {action : Action} {before carried : Sockets} {index : Nat} {slot : SocketSlot}
  {outbound : Option (Nat × Peer × OutboundSegment)} (carries : Carries before carried outbound)
  (target : action.target before = some index) (below : index < maximumSocketSlots)
  (used : (before.slots index).used = true)
include carries target below used

theorem Carries.quiet_move (move : SlotMove action before.takes (before.slots index) slot none outbound)
    {step : SocketSlot → SocketSlot} (becomes : step (before.slots index) = slot) :
    Move action before (carried.modifySlot index step) := by
  refine .change target below used move ?_ ?_ (fun _ impossible => nomatch impossible) carries.sends
  · rw [← becomes]
    simp only [modifySlot, carries.slots]
  · simp only [modifySlot, carries.kernel]
    exact refl before.kernel

variable {reason : WaitReason}

theorem Carries.waking_move
    (move : SlotMove action before.takes (before.slots index) slot (some reason) outbound)
    (generation : slot.generation = (before.slots index).generation)
    {step : SocketSlot → SocketSlot} (becomes : step (before.slots index) = slot) :
    Move action before ((carried.modifySlot index step).wakeSlot reason index) := by
  have calm := wakeSlot_calm (carried.modifySlot index step) reason index
  have woken := wakeSlot_woken (carried.modifySlot index step) reason index
  have kernel : (carried.modifySlot index step).kernel = before.kernel := carries.kernel
  have placed : (carried.modifySlot index step).slots index = slot := by
    simp only [modifySlot, update_self, carries.slots, becomes]
  rw [kernel] at calm
  rw [placed, generation] at woken
  refine .change target below used move ?_ calm ?_ carries.sends
  · rw [← becomes]
    simp only [wakeSlot, modifySlot, carries.slots]
  · intro other same process
    cases same
    exact woken process

/-- Whether it wakes somebody or not. -/
theorem Carries.maybe_move
    (move : SlotMove action before.takes (before.slots index) slot (if wakes then some reason else none) outbound)
    (generation : slot.generation = (before.slots index).generation)
    {step : SocketSlot → SocketSlot} (becomes : step (before.slots index) = slot) :
    Move action before (if wakes then (carried.modifySlot index step).wakeSlot reason index
      else carried.modifySlot index step) := by
  cases wakes with
  | true => exact carries.waking_move target below used move generation becomes
  | false => exact carries.quiet_move target below used move becomes

end Change

variable {action : Action} {before carried : Sockets} {index : Nat} {connection : TcpSocketState}
  {outbound : Option OutboundSegment}

theorem Carries.connection_move {after : TcpSocketState}
    (carries : Carries before carried (outbound.map (connection.localPort, connection.peer, ·)))
    (target : action.target before = some index) (below : index < maximumSocketSlots)
    (used : (before.slots index).used = true) (held : (before.slots index).tcp = some connection)
    (move : ConnectionMove action before.takes connection after wakes outbound) :
    Move action before (if wakes then (carried.setConnection index after).wakeSlot .socketWrite index
      else carried.setConnection index after) :=
  carries.maybe_move target below used (.connection held move) rfl rfl

theorem Carries.connection_quiet {after : TcpSocketState}
    (move : ConnectionMove action before.takes connection after false outbound)
    (carries : Carries before carried (outbound.map (connection.localPort, connection.peer, ·)))
    (target : action.target before = some index) (below : index < maximumSocketSlots)
    (used : (before.slots index).used = true) (held : (before.slots index).tcp = some connection) :
    Move action before (carried.setConnection index after) :=
  carries.connection_move target below used held move

/-- Whether the writers are woken. -/
def frees (before after : ControlBlock) : Bool :=
  decide (after.sendUnacknowledged ≠ before.sendUnacknowledged ∧ after.applicationSendReady = true)

theorem frees_of {before after : ControlBlock}
    (moved : after.sendUnacknowledged ≠ before.sendUnacknowledged)
    (ready : after.applicationSendReady = true) : frees before after = true :=
  decide_eq_true ⟨moved, ready⟩

variable {sockets : Sockets}

theorem writers_move {after : TcpSocketState} {older newer : ControlBlock}
    (target : action.target sockets = some index) (below : index < maximumSocketSlots)
    (used : (sockets.slots index).used = true) (held : (sockets.slots index).tcp = some connection)
    (move : ConnectionMove action sockets.takes connection after (frees older newer) none) :
    Move action sockets ((sockets.setConnection index after).wakeWriters index older newer) := by
  unfold wakeWriters
  simpa only [frees, decide_eq_true_eq] using
    Carries.connection_move (carries_refl sockets none) target below used held move

variable {listener : TcpListenerState}

theorem tcpListenerReady_iff : tcpListenerReady listener = true ↔ ∃ entry < listener.backlog,
      (listener.pending entry).used = true ∧ ∃ control,
        (listener.pending entry).control = some control ∧ control.state = .established := by
  unfold tcpListenerReady tcpListenerEstablishedIndex
  constructor
  · intro ready
    obtain ⟨entry, found⟩ := Option.isSome_iff_exists.mp ready
    obtain ⟨below, holds, -⟩ := firstIndex_eq_some.mp found
    simp only [Bool.and_eq_true, Option.any_eq_true, beq_iff_eq] at holds
    exact ⟨entry, below, holds⟩
  · rintro ⟨entry, below, used, control, held, established⟩
    obtain ⟨first, found⟩ := @exists_firstIndex listener.backlog entry
      (fun entry => (listener.pending entry).used &&
        (listener.pending entry).control.any fun control => control.state == .established) below
      (by simp [used, held, established])
    rw [found]
    rfl

variable {after : TcpPendingConnection} {entry : Nat}

/-- A pending connection that cannot be accepted does not make the listener ready. -/
theorem setPending_quiet (closed : after.used = true → ∀ control, after.control = some control →
      control.state ≠ .established)
    (ready : tcpListenerReady (listener.setPending entry after) = true) :
    tcpListenerReady listener = true := by
  obtain ⟨other, below, used, control, held, established⟩ := tcpListenerReady_iff.mp ready
  obtain rfl | here := eq_or_ne other entry
  · simp only [TcpListenerState.setPending, update_self] at used held
    exact absurd established (closed used control held)
  · simp only [TcpListenerState.setPending, update_of_ne here] at used held
    exact tcpListenerReady_iff.mpr ⟨other, below, used, control, held, established⟩

theorem Carries.pending_move (move : PendingMove action listener entry after outbound)
    (carries : Carries before carried (outbound.map (listener.localPort, after.peer, ·)))
    (target : action.target before = some index) (below : index < maximumSocketSlots)
    (used : (before.slots index).used = true) (held : (before.slots index).listener = some listener)
    (entryBelow : entry < listener.backlog)
    (closed : after.used = true → ∀ control, after.control = some control →
      control.state ≠ .established) :
    Move action before (carried.setListener index (listener.setPending entry after)) :=
  carries.quiet_move target below used (@SlotMove.pending _ _ _ _ _ _ false _ held entryBelow move
      fun ready => Or.inl (setPending_quiet closed ready)) rfl

theorem Carries.acceptors_move (move : PendingMove action listener entry after outbound)
    (carries : Carries before carried (outbound.map (listener.localPort, after.peer, ·)))
    (target : action.target before = some index) (below : index < maximumSocketSlots)
    (used : (before.slots index).used = true) (held : (before.slots index).listener = some listener)
    (entryBelow : entry < listener.backlog) : Move action before
      ((carried.setListener index (listener.setPending entry after)).wakeAcceptors index) := by
  have moved := @SlotMove.pending _ before.takes _ _ _ _ _ _ held entryBelow move
    fun ready => .inr ready
  have placed : ((carried.setListener index (listener.setPending entry after)).slots index).listener =
      some (listener.setPending entry after) := by
    simp only [setListener, modifySlot, update_self]
  unfold wakeAcceptors
  simp only [placed, Option.any_some]
  exact carries.maybe_move target below used moved rfl rfl

theorem modifySlot_same {step : SocketSlot → SocketSlot}
    (same : step (sockets.slots index) = sockets.slots index) :
    (sockets.modifySlot index step).slots = sockets.slots := by
  simp only [modifySlot, same, update_eq_self]

theorem move_refl (action : Action) (sockets : Sockets) : Move action sockets sockets :=
  .idle rfl (refl sockets.kernel) rfl

/-- Nothing but the device has moved on, and nothing was sent. -/
theorem modifySlot_idle {step : SocketSlot → SocketSlot}
    (same : step (sockets.slots index) = sockets.slots index) :
    Move action sockets (sockets.modifySlot index step) :=
  .idle (modifySlot_same same) (refl sockets.kernel) rfl

theorem setConnection_idle (held : (sockets.slots index).tcp = some connection) :
    Move action sockets (sockets.setConnection index connection) := by
  refine modifySlot_idle ?_
  rw [← held]

theorem setPending_self {pending : TcpPendingConnection}
    (held : listener.pending entry = pending) : listener.setPending entry pending = listener := by
  unfold TcpListenerState.setPending
  rw [← held, update_eq_self]

theorem Carries.acceptors_idle (carries : Carries before carried none) :
    Move action before (carried.wakeAcceptors index) := by
  have sent : carried.transmitted = before.transmitted := by
    rcases carries.sends with same | ⟨_, _, _, _, impossible, -⟩
    · exact same
    · cases impossible
  unfold wakeAcceptors
  split
  · refine .idle carries.slots ?_ sent
    rw [← carries.kernel]
    exact wakeSlot_calm carried .socketRead index
  · refine .idle carries.slots ?_ sent
    rw [carries.kernel]
    exact refl before.kernel

theorem setListener_carries (held : (sockets.slots index).listener = some listener) :
    Carries sockets (sockets.setListener index listener) none := by
  refine ⟨modifySlot_same ?_, rfl, rfl, .inl rfl⟩
  rw [← held]

/-! ### Segments for a connection -/

section Service

variable {sockets : Sockets} {index : Nat} {arrived : Segment}
  (target : (Action.segment arrived).target sockets = some index)
  (below : index < maximumSocketSlots) (used : (sockets.slots index).used = true)
include target below used

theorem serviceConnecting_move (held : (sockets.slots index).tcp = some connection)
    (reached : reaches connection arrived = true) (connects : connection.status = .connecting) :
    Move (.segment arrived) sockets (sockets.serviceConnecting index connection arrived) := by
  unfold serviceConnecting
  rcases handled : connection.control.handleSegment arrived.view with ⟨transition, control⟩
  dsimp only
  by_cases refused : transition.accepted = false
  · rw [if_pos refused, handleSegment_refused handled refused]
    exact setConnection_idle held
  · rw [if_neg refused]
    have carries := transmitIfAny_carries sockets connection.localPort connection.peer
      transition.outbound
    rcases sending : sockets.transmitIfAny connection.localPort connection.peer transition.outbound
      with ⟨sent, after⟩
    rw [sending] at carries
    dsimp only at carries ⊢
    have becomes : (if sent then connectedStatus transition.state else .ioFailed) =
        connectedStatus transition.state ∨
          (if sent then connectedStatus transition.state else .ioFailed) = .ioFailed := by
      cases sent
      · exact .inr rfl
      · exact .inl rfl
    have move := @ConnectionMove.connecting _ sockets.takes _ _ _ _ _ rfl reached connects handled
      (by simpa using refused) becomes
    simpa only [bne_iff_ne] using carries.connection_move target below used held move

theorem serviceEstablished_move (held : (sockets.slots index).tcp = some connection)
    (established : connection.status = .established) :
    Move (.segment arrived) sockets (sockets.serviceEstablished index connection arrived) := by
  unfold serviceEstablished
  dsimp only
  by_cases deaf : connection.control.state ≠ .established ∨ hasFlag arrived.flags flagSyn = true
  · rw [if_pos deaf]
    exact move_refl _ _
  · rw [if_neg deaf]
    simp only [ne_eq, not_or, not_not, Bool.not_eq_true] at deaf
    obtain ⟨state, noSyn⟩ := deaf
    by_cases carrying : arrived.payload ≠ [] ∨ hasFlag arrived.flags flagFin = true
    · rw [if_pos carrying]
      refine writers_move target below used held
        (.deferred rfl established state ?_ fun moved ready => frees_of moved ready)
      split
      · rename_i acknowledges
        exact .inl ⟨acknowledges.1, acknowledges.2, noSyn, rfl⟩
      · exact .inr rfl
    · rw [if_neg carrying]
      simp only [ne_eq, not_or, not_not, Bool.not_eq_true] at carrying
      obtain ⟨empty, endless⟩ := carrying
      rcases handled : connection.control.handleSegment { arrived.view with payloadLength := 0 }
        with ⟨transition, control⟩
      dsimp only
      by_cases refused : transition.accepted = false
      · rw [if_pos refused, handleSegment_refused handled refused]
        exact setConnection_idle held
      · rw [if_neg refused]
        -- Nothing is answered, since the segment carries nothing.
        have silent : transition.outbound = none := by
          unfold handleSegment at handled
          rw [state] at handled
          rcases handleEstablished_cases handled with
            ⟨rejected, -⟩ | ⟨-, -, outbound, -⟩ | ⟨-, -, -, outbound⟩
          · exact absurd rejected refused
          · exact outbound
          · rw [outbound]
            exact if_neg (not_or.mpr ⟨Bool.eq_false_iff.mp endless, not_not.mpr rfl⟩)
        simp only [silent, transmitIfAny, established, Bool.true_eq_false, if_false]
        exact writers_move target below used held (.plain rfl established state empty endless handled
          (by simpa using refused) rfl fun moved ready => frees_of moved ready)

/-! ### Segments for a listener -/

theorem servicePending_move (held : (sockets.slots index).listener = some listener)
    (entryBelow : entry < listener.backlog) (live : (listener.pending entry).used = true)
    (source : (listener.pending entry).peer = arrived.source)
    (port : arrived.destinationPort = listener.localPort) : Move (.segment arrived) sockets
      ((sockets.servicePending index listener entry arrived).wakeAcceptors index) := by
  unfold servicePending
  dsimp only
  cases controlled : (listener.pending entry).control with
  | none =>
    exact Carries.acceptors_move .freed (carries_refl sockets none) target below used held entryBelow
  | some control =>
    rcases handled : control.handleSegment arrived.view with ⟨transition, after⟩
    simp only [handled]
    by_cases refused : transition.accepted = false
    · have kept : listener.setPending entry { listener.pending entry with control := some after } =
          listener := by
        rw [handleSegment_refused handled refused]
        exact setPending_self (by rw [← controlled])
      rw [if_pos refused, kept]
      exact (setListener_carries held).acceptors_idle
    · rw [if_neg refused]
      have carries := transmitIfAny_carries sockets listener.localPort (listener.pending entry).peer
        transition.outbound
      have unsent := @transmitIfAny_unsent sockets listener.localPort (listener.pending entry).peer
        transition.outbound
      rcases sending : sockets.transmitIfAny listener.localPort (listener.pending entry).peer
        transition.outbound with ⟨sent, carried⟩
      simp only [sending] at carries unsent ⊢
      by_cases ended : transition.state = .closed ∨ transition.state = .reset ∨
          transition.state = .timedOut
      · rw [if_pos (.inr ended)]
        have silent := handleSegment_silent control arrived.view
        rw [handled] at silent
        rw [silent (by simpa using refused) ended, Option.map_none] at carries
        exact Carries.acceptors_move .freed carries target below used held entryBelow
      · by_cases lost : sent = false
        · rw [if_pos (.inl lost)]
          exact Carries.acceptors_move .freed (unsent lost) target below used held entryBelow
        · rw [if_neg (not_or.mpr ⟨lost, ended⟩)]
          have move := PendingMove.handled rfl port live source controlled handled
            (by simpa using refused) (by simpa only [not_or] using ended)
          exact Carries.acceptors_move move carries target below used held entryBelow

theorem openPending_move (held : (sockets.slots index).listener = some listener)
    (entryBelow : entry < listener.backlog) (unused : (listener.pending entry).used = false)
    (unknown : ∀ other < listener.backlog, (listener.pending other).used = true →
      (listener.pending other).peer ≠ arrived.source)
    (port : arrived.destinationPort = listener.localPort) : Move (.segment arrived) sockets
      ((sockets.openPending index listener entry arrived).wakeAcceptors index) := by
  unfold openPending
  rcases begun : beginPassiveOpenAt { receiveWindow := tcpReceiveWindow }
      (tcpPassiveInitialSequence index entry (sockets.slots index).generation arrived.sequenceNumber
        sockets.currentTick) arrived.view sockets.currentTick tcpRetransmissionPolicy with
    ⟨transition, control⟩
  dsimp only
  by_cases refused : transition.accepted = false
  · rw [if_pos refused]
    exact (carries_refl sockets none).acceptors_idle
  · rw [if_neg refused]
    have carries := transmitIfAny_carries sockets listener.localPort arrived.source
      transition.outbound
    have unsent := @transmitIfAny_unsent sockets listener.localPort arrived.source
      transition.outbound
    rcases sending : sockets.transmitIfAny listener.localPort arrived.source transition.outbound
      with ⟨sent, carried⟩
    simp only [sending] at carries unsent ⊢
    cases sent with
    | true =>
      have move := PendingMove.opened rfl port unused unknown begun (by simpa using refused)
      exact Carries.acceptors_move move carries target below used held entryBelow
    | false =>
      exact Carries.acceptors_move .freed (unsent rfl) target below used held entryBelow

theorem serviceTcpListenerSegment_move (held : (sockets.slots index).listener = some listener)
    (port : arrived.destinationPort = listener.localPort) : Move (.segment arrived) sockets
      ((sockets.serviceTcpListenerSegment index listener arrived).wakeAcceptors index) := by
  unfold serviceTcpListenerSegment
  cases known : pendingFor listener arrived with
  | some entry =>
    obtain ⟨entryBelow, same, -⟩ := firstIndex_eq_some.mp known
    simp only [Bool.and_eq_true, beq_iff_eq] at same
    exact servicePending_move target below used held entryBelow same.1 same.2 port
  | none =>
    dsimp only
    split
    · exact (carries_refl sockets none).acceptors_idle
    · cases free : freePending listener with
      | none => exact (carries_refl sockets none).acceptors_idle
      | some entry =>
        obtain ⟨entryBelow, unused, -⟩ := firstIndex_eq_some.mp free
        refine openPending_move target below used held entryBelow (by simpa using unused) ?_ port
        intro other otherBelow live same
        have missed := firstIndex_eq_none.mp known other otherBelow
        simp [live, same] at missed

end Service

theorem serviceSegment_move (sockets : Sockets) (arrived : Segment) :
    Move (.segment arrived) sockets (sockets.serviceSegment arrived) := by
  unfold serviceSegment
  cases connected : sockets.connectionFor arrived with
  | some index =>
    have target : (Action.segment arrived).target sockets = some index := by
      simp only [Action.target, connected, Option.some_or]
    obtain ⟨below, found, -⟩ := firstIndex_eq_some.mp connected
    dsimp only
    cases held : (sockets.slots index).tcp with
    | none => exact move_refl _ _
    | some connection =>
      simp only [held, Option.any_some, Bool.and_eq_true, Bool.or_eq_true, beq_iff_eq] at found
      obtain ⟨⟨used, -⟩, reached, status⟩ := found
      dsimp only
      by_cases connects : connection.status = .connecting
      · rw [if_pos connects]
        exact serviceConnecting_move target below used held reached connects
      · rw [if_neg connects]
        exact serviceEstablished_move target below used held (status.resolve_left connects)
  | none =>
    cases heard : sockets.listenerFor arrived with
    | none => exact move_refl _ _
    | some index =>
      have target : (Action.segment arrived).target sockets = some index := by
        simp only [Action.target, connected, heard, Option.none_or]
      obtain ⟨below, found, -⟩ := firstIndex_eq_some.mp heard
      dsimp only
      cases held : (sockets.slots index).listener with
      | none => exact move_refl _ _
      | some listener =>
        simp only [held, Option.any_some, Bool.and_eq_true, beq_iff_eq] at found
        exact serviceTcpListenerSegment_move target below found.1.1 held found.2.symm

/-! ### Timers -/

theorem timeConnection_move (sockets : Sockets) (index : Fin maximumSocketSlots) :
    Move (.connectionTimer index) sockets (sockets.timeConnection index) := by
  have target : (Action.connectionTimer index).target sockets = some index.val := rfl
  have below := index.isLt
  generalize index.val = place at target below ⊢
  unfold timeConnection
  dsimp only
  cases held : (sockets.slots place).tcp with
  | none => exact move_refl _ _
  | some connection =>
    dsimp only
    by_cases idle : (sockets.slots place).used = false ∨ (sockets.slots place).protocol ≠ .tcp ∨
        connection.status ≠ .connecting
    · rw [if_pos idle]
      exact move_refl _ _
    · rw [if_neg idle]
      simp only [not_or, Bool.not_eq_false, ne_eq, not_not] at idle
      obtain ⟨used, -, connects⟩ := idle
      rcases handled : connection.control.onTimer sockets.currentTick with ⟨timer, control⟩
      have carries := transmitIfAny_carries sockets connection.localPort connection.peer
        (if timer.action = .retransmitSyn then timer.outbound else none)
      rcases sending : sockets.transmitIfAny connection.localPort connection.peer
        (if timer.action = .retransmitSyn then timer.outbound else none) with ⟨sent, carried⟩
      simp only [sending] at carries ⊢
      have becomes : timer.action = .timedOut ∧
          (if timer.action = .timedOut then TcpConnectStatus.timedOut
            else if sent then connection.status else .ioFailed) = .timedOut ∨
          timer.action ≠ .timedOut ∧ ((if timer.action = .timedOut then TcpConnectStatus.timedOut
              else if sent then connection.status else .ioFailed) = .connecting ∨
              (if timer.action = .timedOut then TcpConnectStatus.timedOut
                else if sent then connection.status else .ioFailed) = .ioFailed) := by
        by_cases expired : timer.action = .timedOut
        · exact .inl ⟨expired, if_pos expired⟩
        · rw [if_neg expired]
          cases sent
          · exact .inr ⟨expired, .inr rfl⟩
          · exact .inr ⟨expired, .inl connects⟩
      simpa only [bne_iff_ne, ne_eq] using
        carries.connection_move target below used held (.timer connects handled becomes)

theorem timePending_move (sockets : Sockets) (index : Fin maximumSocketSlots)
    (entry : Fin maximumTcpBacklog) :
    Move (.pendingTimer index entry) sockets (sockets.timePending index entry) := by
  have target : (Action.pendingTimer index entry).target sockets = some index.val := rfl
  have below := index.isLt
  generalize (Action.pendingTimer index entry) = action at target ⊢
  generalize index.val = place at target below ⊢
  generalize entry.val = position
  unfold timePending
  dsimp only
  cases held : (sockets.slots place).listener with
  | none => exact move_refl _ _
  | some listener =>
    dsimp only
    by_cases idle : (sockets.slots place).used = false ∨ (sockets.slots place).protocol ≠ .tcp ∨
        position ≥ listener.backlog ∨ (listener.pending position).used = false
    · rw [if_pos idle]
      exact move_refl _ _
    · rw [if_neg idle]
      simp only [not_or, Bool.not_eq_false, ne_eq, not_not, not_le] at idle
      obtain ⟨used, -, entryBelow, live⟩ := idle
      cases controlled : (listener.pending position).control with
      | none =>
        exact Carries.pending_move .freed (carries_refl sockets none) target below used held
          entryBelow nofun
      | some control =>
        dsimp only
        by_cases asleep : control.state ≠ .synReceived
        · rw [if_pos asleep]
          exact move_refl _ _
        · rw [if_neg asleep]
          rw [ne_eq, not_not] at asleep
          rcases handled : control.onTimer sockets.currentTick with ⟨timer, after⟩
          have carries := transmitIfAny_carries sockets listener.localPort
            (listener.pending position).peer
            (if timer.action = .retransmitSynAck then timer.outbound else none)
          have unsent := @transmitIfAny_unsent sockets listener.localPort
            (listener.pending position).peer
            (if timer.action = .retransmitSynAck then timer.outbound else none)
          rcases sending : sockets.transmitIfAny listener.localPort (listener.pending position).peer
            (if timer.action = .retransmitSynAck then timer.outbound else none) with ⟨sent, carried⟩
          simp only [sending] at carries unsent ⊢
          by_cases expired : timer.action = .timedOut
          · rw [if_pos (.inr expired)]
            rw [if_neg (by rw [expired]; exact nofun), Option.map_none] at carries
            exact Carries.pending_move .freed carries target below used held entryBelow nofun
          · by_cases lost : sent = false
            · rw [if_pos (.inl lost)]
              exact Carries.pending_move .freed (unsent lost) target below used held entryBelow
                nofun
            · rw [if_neg (not_or.mpr ⟨lost, expired⟩)]
              have move := @PendingMove.waited action _ _ _ _ _ _ live controlled asleep handled expired
              refine Carries.pending_move move carries target below used held entryBelow ?_
              rintro - other same established
              cases same
              rcases onTimer_cases handled with ⟨-, rfl⟩ | ⟨gone, -⟩ | ⟨-, -, -, -, rfl⟩
              · rw [asleep] at established
                cases established
              · exact absurd gone expired
              · rw [show (control.retransmit sockets.currentTick).2.state = control.state from rfl,
                  asleep] at established
                cases established

end Sockets

end ZigOs.RuntimeUser
