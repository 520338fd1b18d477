/-
This file proves which sockets a process may sleep on: whoever sleeps on a stream
socket would be put to sleep again by the call it is in. Most changes that would
let the call through wake the sleepers; a reset of an established connection, the
end of its stream by another holder, and a window that opens without a new
acknowledgement do not.
-/

import ZigOs.RuntimeUser.SocketCalls

namespace ZigOs.RuntimeUser

open Scan RuntimeProcess RuntimeFd TcpConnection Function ControlBlock

namespace Sockets

/-! ### Who may sleep -/

/-- Whoever sleeps on a socket sleeps on a slot in use, and on a stream socket its call would wait
again. -/
def SleepersBlocked (sockets : Sockets) : Prop :=
  ∀ process reason target, onSocket reason = true →
    sockets.kernel.processes.Asleep process reason target → ∃ index < maximumSocketSlots,
      (sockets.slots index).used = true ∧
        target = socketWaitKey index (sockets.slots index).generation ∧
          ((sockets.slots index).protocol = .tcp → Blocks (sockets.slots index) reason)

theorem socketWaitKey_index {first second firstGeneration secondGeneration : Nat}
    (firstBelow : first < maximumSocketSlots) (secondBelow : second < maximumSocketSlots)
    (same : socketWaitKey first firstGeneration = socketWaitKey second secondGeneration) :
    first = second := by
  have size : maximumSocketSlots = 8 := rfl
  unfold socketWaitKey at same
  omega

/-- A process waits to write to the socket in the slot. -/
def WriterSleeps (sockets : Sockets) (index : Nat) : Prop :=
  ∃ process, sockets.kernel.processes.Asleep process .socketWrite
    (socketWaitKey index (sockets.slots index).generation)

/-- The segment opens the window of a connection that has nothing unacknowledged. -/
def OpensWindow (control : ControlBlock) (arrived : Segment) : Prop :=
  control.Continues arrived.bare ∧ control.sendUnacknowledged = control.sendNext ∧
    control.sendWindow = 0 ∧ arrived.windowSize ≠ 0

/-- The segment resets an established connection. -/
def ResetsEstablished (control : ControlBlock) (arrived : Segment) : Prop :=
  control.Resets arrived.view ∧ hasFlag arrived.flags flagFin = false

/-- The action lets a call through that another process sleeps in: it resets its established
connection or opens its window with one segment, or ends its stream. -/
def LetsThrough (sockets : Sockets) (action : Action) : Prop :=
  ∃ index connection, action.target sockets = some index ∧
    (sockets.slots index).tcp = some connection ∧ connection.status = .established ∧
      sockets.WriterSleeps index ∧
        ((∃ arrived, action = .segment arrived ∧ connection.control.state = .established ∧
            (ResetsEstablished connection.control arrived ∨
              OpensWindow connection.control arrived)) ∨
          ∃ handle fd how, action = .shutdown handle fd how ∧ how.stopsWriting = true ∧
            connection.writeShutdown = false ∧ sockets.takes = true)

/-! ### One step -/

/-- What a block that cannot send does with the next bare segment of its stream. -/
theorem advanced_ready {control : ControlBlock} {segment : SegmentView}
    (state : control.state = .established) (continues : control.Continues segment)
    (empty : segment.payloadLength = 0) (endless : hasFlag segment.flags flagFin = false)
    (notReady : control.applicationSendReady = false)
    (ready : (control.advanced segment).applicationSendReady = true) :
    (control.advanced segment).sendUnacknowledged ≠ control.sendUnacknowledged ∨
      (control.sendUnacknowledged = control.sendNext ∧ control.sendWindow = 0 ∧
        segment.windowSize ≠ 0) := by
  rw [advanced_bare empty endless] at ready ⊢
  by_cases acknowledged : segment.acknowledgementNumber = control.sendUnacknowledged
  · refine .inr ?_
    have all : control.sendUnacknowledged = control.sendNext :=
      acknowledged.symm.trans continues.acknowledges
    simp only [applicationSendReady, acknowledgedBy, state, all,
      Bool.and_eq_true, beq_iff_eq, bne_iff_ne, Bool.and_eq_false_iff, beq_self_eq_true,
      Bool.true_eq_false, false_or, bne_eq_false_iff_eq] at ready notReady
    exact ⟨all, notReady, ready.2⟩
  · exact .inl acknowledged

variable {action : Action} {takes : Bool}

theorem ConnectionMove.blocks {wakes : Bool} {connection after : TcpSocketState}
    {outbound : Option OutboundSegment}
    (move : ConnectionMove action takes connection after wakes outbound) (quiet : wakes = false)
    (blocked : connection.status = .connecting ∨ connection.status = .established ∧
      connection.writeShutdown = false ∧ connection.control.applicationSendReady = false)
    (segments : ∀ arrived, action = .segment arrived → connection.status = .established →
      connection.control.state = .established →
        ¬ ResetsEstablished connection.control arrived ∧ ¬ OpensWindow connection.control arrived)
    (shutdowns : ∀ handle fd how, action = .shutdown handle fd how → how.stopsWriting = true →
      connection.status = .established → connection.writeShutdown = false → takes = false) :
    after.status = .connecting ∨ after.status = .established ∧ after.writeShutdown = false ∧
      after.control.applicationSendReady = false := by
  have waits (established : connection.status = .established) : connection.writeShutdown = false ∧
      connection.control.applicationSendReady = false := by
    rcases blocked with connects | ⟨-, waits⟩
    · cases connects.symm.trans established
    · exact waits
  cases move with
  | send established writable begun =>
    have ready := (beginApplicationSend_cases begun).1
    cases ready.symm.trans (waits established).2
  | shutdownRead established => exact blocked
  | shutdownWrite called stops taken stopsReading established writable =>
    cases taken.symm.trans (shutdowns _ _ _ called stops established writable)
  | connecting served reached connects handled accepted becomes =>
    exact .inl (by simpa using quiet)
  | @deferred arrived control _ served established state handled woken =>
    obtain ⟨writable, notReady⟩ := waits established
    refine .inr ⟨established, writable, ?_⟩
    rcases handled with ⟨ack, noReset, noSyn, rfl⟩ | rfl
    · rcases result : connection.control.handleSegment { arrived.bare with flags := flagAck } with
        ⟨transition, after⟩
      rw [result] at woken
      unfold handleSegment at result
      rw [state] at result
      rcases handleEstablished_cases result with
        ⟨-, rfl⟩ | ⟨resets, -⟩ | ⟨continues, rfl, -⟩
      · exact notReady
      · exact absurd resets.reset (show ¬ hasFlag flagAck flagRst = true by decide)
      · by_contra ready
        rw [Bool.not_eq_false] at ready
        rcases advanced_ready state continues rfl (show hasFlag flagAck flagFin = false by decide)
          notReady ready with moved | ⟨all, closed, opens⟩
        · cases quiet.symm.trans (woken moved ready)
        · exact (segments arrived served established state).2
            ⟨⟨noReset, noSyn, ack, continues.acknowledges, Nat.zero_le _, continues.inOrder⟩, all,
              closed, opens⟩
    · exact notReady
  | @plain arrived transition control status _ served established state empty endless handled accepted
      becomes woken =>
    obtain ⟨writable, notReady⟩ := waits established
    unfold handleSegment at handled
    rw [state] at handled
    rcases handleEstablished_cases handled with
      ⟨refused, -⟩ | ⟨resets, -⟩ | ⟨continues, rfl, after, -⟩
    · cases refused.symm.trans accepted
    · refine absurd ⟨?_, endless⟩ (segments arrived served established state).1
      exact ⟨resets.reset, resets.syn, by simp [Segment.view, empty], resets.inOrder⟩
    · have next : (connection.control.advanced arrived.bare).state = .established := by
        rwa [advanced_bare rfl endless]
      refine .inr ⟨?_, writable, ?_⟩
      · rw [becomes, after, next]
        rfl
      · by_contra ready
        rw [Bool.not_eq_false] at ready
        rcases advanced_ready state continues rfl endless notReady ready with
          moved | ⟨all, closed, opens⟩
        · cases quiet.symm.trans (woken moved ready)
        · exact (segments arrived served established state).2 ⟨continues, all, closed, opens⟩
  | timer connects handled becomes =>
    exact .inl (by simpa using quiet)

variable {slot : SocketSlot} {wakes : Option WaitReason}
  {outbound : Option (Nat × Peer × OutboundSegment)}

/-- A slot in use stays the slot it is. -/
theorem SlotMove.identity {after : SocketSlot}
    (move : SlotMove action takes slot after wakes outbound) :
    after.used = slot.used ∧ after.generation = slot.generation ∧
      after.protocol = slot.protocol := by
  cases move <;> exact ⟨rfl, rfl, rfl⟩

theorem SlotMove.blocks {after : SocketSlot}
    (move : SlotMove action takes slot after wakes outbound) {reason : WaitReason}
    (unwoken : wakes ≠ some reason) (watched : onSocket reason = true) (blocks : Blocks slot reason)
    (segments : ∀ connection arrived, reason = .socketWrite → slot.tcp = some connection →
      action = .segment arrived → connection.status = .established →
        connection.control.state = .established →
          ¬ ResetsEstablished connection.control arrived ∧ ¬ OpensWindow connection.control arrived)
    (shutdowns : ∀ connection handle fd how, reason = .socketWrite → slot.tcp = some connection →
      action = .shutdown handle fd how → how.stopsWriting = true →
        connection.status = .established → connection.writeShutdown = false → takes = false) :
    Blocks after reason := by
  cases reason
  case socketWrite =>
    obtain ⟨connection, held, blocked⟩ := blocks
    cases move with
    | configure port nonblocking => exact ⟨connection, held, blocked⟩
    | listen bounded stream unconnected =>
      rw [unconnected] at held
      cases held
    | connect port peer unconnected =>
      rw [unconnected] at held
      cases held
    | @connection other after wakes outbound same move =>
      cases (held.symm.trans same)
      cases wakes with
      | true => exact absurd rfl unwoken
      | false =>
        exact ⟨after, rfl, move.blocks rfl blocked (fun arrived => segments connection arrived rfl held)
          fun handle fd how => shutdowns connection handle fd how rfl held⟩
    | pending same below move woken => exact ⟨connection, held, blocked⟩
  case socketRead =>
    obtain ⟨listener, held, notReady⟩ := blocks
    cases move with
    | configure port nonblocking => exact ⟨listener, held, notReady⟩
    | listen bounded stream unconnected deaf =>
      rw [deaf] at held
      cases held
    | connect port peer unconnected deaf =>
      rw [deaf] at held
      cases held
    | connection same move => exact ⟨listener, held, notReady⟩
    | @pending other entry pending wakes outbound same below move woken =>
      cases (held.symm.trans same)
      cases wakes with
      | true => exact absurd rfl unwoken
      | false =>
        refine ⟨_, rfl, ?_⟩
        by_contra ready
        rcases woken (by simpa using ready) with earlier | impossible
        · cases earlier.symm.trans notReady
        · cases impossible
  all_goals exact nomatch watched

variable {after before : Sockets}

theorem Move.sleepersBlocked (blocked : SleepersBlocked before)
    (holds : ¬ LetsThrough before action)
    (move : Move action before after) : SleepersBlocked after := by
  intro process reason target watched asleep
  cases move with
  | idle slots calm =>
    rw [slots]
    exact blocked process reason target watched (calm process reason target watched asleep)
  | @change index slot wakes outbound aimed below used move slots calm woken =>
    have slept := calm process reason target watched asleep
    obtain ⟨place, placeBelow, live, key, waits⟩ := blocked process reason target watched slept
    by_cases here : place = index
    · subst here
      obtain ⟨sameUsed, sameGeneration, sameProtocol⟩ := move.identity
      refine ⟨place, below, ?_⟩
      rw [slots, update_self, sameUsed, sameGeneration, sameProtocol]
      refine ⟨live, key, fun stream => ?_⟩
      rw [key] at slept asleep
      have unwoken : wakes ≠ some reason := fun wakes => woken reason wakes process asleep
      refine move.blocks unwoken watched (waits stream) ?_ ?_
      · rintro connection arrived rfl held served established state
        refine ⟨fun resets => holds ?_, fun opens => holds ?_⟩
        · exact ⟨place, connection, aimed, held, established, ⟨process, slept⟩,
            .inl ⟨arrived, served, state, .inl resets⟩⟩
        · exact ⟨place, connection, aimed, held, established, ⟨process, slept⟩,
            .inl ⟨arrived, served, state, .inr opens⟩⟩
      · rintro connection handle fd how rfl held called stops established writable
        by_contra taken
        exact holds ⟨place, connection, aimed, held, established, ⟨process, slept⟩,
          .inr ⟨handle, fd, how, called, stops, writable, by simpa using taken⟩⟩
    · refine ⟨place, placeBelow, ?_⟩
      rw [slots, update_of_ne here]
      exact ⟨live, key, waits⟩
  | @create index slot below unused unconnected deaf slots calm =>
    obtain ⟨place, placeBelow, live, rest⟩ := blocked process reason target watched
      (calm process reason target watched asleep)
    have apart : place ≠ index := by
      rintro rfl
      cases unused.symm.trans live
    refine ⟨place, placeBelow, ?_⟩
    rw [slots, update_of_ne apart]
    exact ⟨live, rest⟩
  | @accept index fresh entry generation listener control aimed below used listens entryBelow pending
      held established freshBelow unused slots calm =>
    obtain ⟨place, placeBelow, live, key, waits⟩ := blocked process reason target watched
      (calm process reason target watched asleep)
    have notFresh : place ≠ fresh := by
      rintro rfl
      cases unused.symm.trans live
    refine ⟨place, placeBelow, ?_⟩
    rw [slots]
    obtain rfl | here := eq_or_ne place index
    · rw [update_self]
      refine ⟨live, key, fun stream => ?_⟩
      cases reason
      case socketWrite => exact waits stream
      case socketRead =>
        obtain ⟨other, same, notReady⟩ := waits stream
        cases (listens.symm.trans same)
        have ready := tcpListenerReady_iff.mpr
          ⟨entry, entryBelow, pending, control, held, established⟩
        cases ready.symm.trans notReady
      all_goals exact nomatch watched
    · rw [update_of_ne here, update_of_ne notFresh]
      exact ⟨live, key, waits⟩

/-! ### Runs -/

theorem SleepersBlocked.fallAsleep (blocked : SleepersBlocked before)
    (falls : FallsAsleep before after) : SleepersBlocked after := by
  intro process reason target watched asleep
  rw [falls.slots]
  rcases falls.sleepers process reason target watched asleep with
    slept | ⟨index, below, used, waits, key⟩
  · exact blocked process reason target watched slept
  · exact ⟨index, below, used, key, waits⟩

theorem SleepersBlocked.outside {before after : Sockets} (blocked : SleepersBlocked before)
    (moved : Outside before after) : SleepersBlocked after := by
  intro process reason target watched asleep
  rw [moved.slots]
  rcases moved.sleepers process reason target watched asleep with
    slept | ⟨index, below, used, datagram, key⟩
  · exact blocked process reason target watched slept
  · refine ⟨index, below, used, key, fun stream => ?_⟩
    cases datagram.symm.trans stream

theorem Run.sleepersBlocked {start : Sockets} {served : List Segment} (fresh : Fresh start)
    (run : Run (fun sockets action => ¬ LetsThrough sockets action) start served after) :
    SleepersBlocked after := by
  induction run with
  | start =>
    intro process reason target watched asleep
    exact absurd asleep (fresh.awake process reason target watched)
  | action run action meets blocked =>
    obtain ⟨middle, move, outcome⟩ := action.moves _
    have moved := move.sleepersBlocked blocked meets
    rcases outcome with same | asleep
    · rwa [same]
    · exact moved.fallAsleep asleep
  | outside run moved blocked => exact blocked.outside moved

/-- Who sleeps on a stream socket: a writer only while its connection is being made or cannot take
anything, an acceptor only while no connection can be accepted. -/
def NoneStranded (sockets : Sockets) : Prop :=
  ∀ process, ∀ index < maximumSocketSlots, (sockets.slots index).used = true →
    (sockets.slots index).protocol = .tcp → (sockets.kernel.processes.Asleep process .socketWrite
        (socketWaitKey index (sockets.slots index).generation) →
          ∃ connection, (sockets.slots index).tcp = some connection ∧
            (connection.status = .connecting ∨ connection.status = .established ∧
              connection.writeShutdown = false ∧ connection.control.applicationSendReady = false)) ∧
      (sockets.kernel.processes.Asleep process .socketRead
        (socketWaitKey index (sockets.slots index).generation) →
          ∀ listener, (sockets.slots index).listener = some listener →
            ∀ entry < listener.backlog, (listener.pending entry).used = true →
              ∀ control, (listener.pending entry).control = some control →
                control.state ≠ .established)

/-- In every run in which no segment resets or opens an established connection, and nobody ends its
stream, while a writer sleeps on it, nobody sleeps whose call could go on. -/
theorem Run.none_stranded {start after : Sockets} {served : List Segment} (fresh : Fresh start)
    (run : Run (fun sockets action => ¬ LetsThrough sockets action) start served after) :
    NoneStranded after := by
  intro process index below used stream
  have blocked := run.sleepersBlocked fresh
  have blocks (reason : WaitReason) (watched : onSocket reason = true)
      (asleep : after.kernel.processes.Asleep process reason
        (socketWaitKey index (after.slots index).generation)) : Blocks (after.slots index) reason := by
    obtain ⟨place, placeBelow, -, key, waits⟩ := blocked process reason _ watched asleep
    obtain rfl := socketWaitKey_index below placeBelow key
    exact waits stream
  refine ⟨fun asleep => blocks .socketWrite rfl asleep, ?_⟩
  intro asleep listener held entry entryBelow pending control controlled established
  obtain ⟨other, same, notReady⟩ := blocks .socketRead rfl asleep
  obtain rfl := Option.some.inj (held.symm.trans same)
  have ready := tcpListenerReady_iff.mpr ⟨entry, entryBelow, pending, control, controlled, established⟩
  exact nomatch ready.symm.trans notReady

theorem not_letsThrough {sockets : Sockets} (noSegment : ∀ arrived, action ≠ .segment arrived)
    (noShutdown : ∀ handle fd how, action ≠ .shutdown handle fd how) :
    ¬ LetsThrough sockets action := by
  rintro ⟨_, _, -, -, -, -, ⟨arrived, served, -⟩ | ⟨handle, fd, how, called, -⟩⟩
  · exact noSegment arrived served
  · exact noShutdown handle fd how called

/-- A process that connects sleeps until it is answered. -/
theorem calling_sleeps :
    (Action.run calling booted).kernel.processes.Asleep 0 .socketWrite (socketWaitKey 0 1) ∧
      NoneStranded (Action.run calling booted) := by
  have run : Run (fun sockets action => ¬ LetsThrough sockets action) booted [] booted := .start
  obtain ⟨served, run⟩ := run.actions calling fun earlier action later split => by
    have member : action ∈ calling := by
      rw [split]
      exact List.mem_append_right _ List.mem_cons_self
    simp only [calling, List.mem_cons, List.not_mem_nil, or_false] at member
    rcases member with rfl | rfl <;> exact not_letsThrough nofun nofun
  exact ⟨⟨by decide, by decide +kernel, by decide +kernel, by decide +kernel, by decide +kernel⟩,
    Run.none_stranded booted_fresh run⟩

/-- The called peer answers with a closed window, the process sleeps in its first send, and the peer
resets the connection. -/
def resetWhileSending : Sockets :=
  (Action.run [.send 0x100000000 3 5 false (fun length => some (List.replicate length 1)) none]
    ((Action.run calling booted).serviceNetwork
      [some (answering (flagSyn ||| flagAck) 100)])).serviceNetwork [some (answering flagRst 101)]

/-- The process sleeps on. -/
theorem resetWhileSending_strands :
    ¬ ∀ start served after, Fresh start → Run (fun _ _ => True) start served after →
      NoneStranded after := by
  intro claim
  have run : Run (fun _ _ => True) booted [] booted := .start
  obtain ⟨_, run⟩ := run.actions calling fun _ _ _ _ => trivial
  obtain ⟨_, run⟩ := run.pass [some (answering (flagSyn ||| flagAck) 100)] fun _ _ => trivial
  obtain ⟨_, run⟩ := run.actions
    [.send 0x100000000 3 5 false (fun length => some (List.replicate length 1)) none]
    fun _ _ _ _ => trivial
  obtain ⟨served, run⟩ := run.pass [some (answering flagRst 101)] fun _ _ => trivial
  obtain ⟨connection, held, blocked⟩ := (claim booted served resetWhileSending booted_fresh run 0 0
    (by decide) (by decide +kernel) (by decide +kernel)).1
      ⟨by decide, by decide +kernel, by decide +kernel, by decide +kernel, by decide +kernel⟩
  have refused : ((resetWhileSending.slots 0).tcp.any fun connection =>
      connection.status == .refused) = true := by decide +kernel
  rw [held, Option.any_some, beq_iff_eq] at refused
  rw [refused] at blocked
  rcases blocked with impossible | ⟨impossible, -⟩ <;> exact nomatch impossible

end Sockets

end ZigOs.RuntimeUser
