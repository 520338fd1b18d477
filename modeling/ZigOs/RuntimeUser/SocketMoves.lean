/-
This file says once what a step can do to the sockets. A step of the system is a
system call, one segment or one timer of the service pass, or the rest of the
system on its own. Each changes at most one slot in one of a few ways, beside
the slot that an accepted connection gets, and wakes or sends what goes with
the change.
-/

import ZigOs.RuntimeProcess.Sleepers
import ZigOs.RuntimeUser.Sockets
import ZigOs.TcpConnection.Accepted

namespace ZigOs.RuntimeUser

open Scan RuntimeProcess RuntimeFd TcpConnection Call Function List Kernel

/-! ### Who sleeps on a socket -/

/-- The reasons that concern sockets. -/
def onSocket : WaitReason → Bool
  | .socketRead | .socketWrite => true
  | _ => false

/-- Whoever sleeps on a socket after the step slept there before it. -/
def SocketCalm (before after : Table) : Prop :=
  ∀ slot reason target, onSocket reason = true → after.Asleep slot reason target →
    before.Asleep slot reason target

instance : Std.Refl SocketCalm where
  refl _ := fun _ _ _ _ asleep => asleep

instance : IsTrans Table SocketCalm where
  trans _ _ _ start finish := fun slot reason target watched asleep =>
    start slot reason target watched (finish slot reason target watched asleep)

theorem setResourceUsage_socketCalm (handle pages descriptors sockets : Nat) :
    Keeps SocketCalm (Table.setResourceUsage handle pages descriptors sockets) := by
  refine keeps_state_bind fun table => keeps_lift_bind fun slot =>
    keeps_failWhen_bind fun _ => keeps_change fun before => ?_
  rintro other reason target watched ⟨bounded, used, blocked, reasonOf, targetOf⟩
  obtain rfl | here := eq_or_ne other slot
  · simp only [Table.modify, update_self] at used blocked reasonOf targetOf
    exact ⟨bounded, used, blocked, reasonOf, targetOf⟩
  · simp only [Table.modify, update_of_ne here] at used blocked reasonOf targetOf
    exact ⟨bounded, used, blocked, reasonOf, targetOf⟩

/-- The processes of the kernel stay off the sockets. -/
def KernelCalm (before after : Kernel) : Prop := SocketCalm before.processes after.processes

instance : Std.Refl KernelCalm where
  refl kernel := refl kernel.processes

instance : IsTrans Kernel KernelCalm where
  trans _ _ _ first second := IsTrans.trans (r := SocketCalm) _ _ _ first second

theorem createExternalDescriptor_kernelCalm (handle : Nat) (kind : DescriptionKind)
    (resource : ExternalResource) (readable writable closeOnExec : Bool) :
    Keeps KernelCalm
      (createExternalDescriptor handle kind resource readable writable closeOnExec) := by
  have system (step : System → System) : Keeps KernelCalm (changeSystem step) :=
    keeps_change fun kernel => refl kernel.processes
  have synced : Keeps KernelCalm (syncDescriptorCount handle) :=
    keeps_state_bind fun _ => keeps_lift_bind fun _ =>
      keeps_lift_bind fun _ => keeps_within
        (setResourceUsage_socketCalm _ _ _ _) fun _ _ calm => calm
  have undone (slot fd index : Nat) (failure : Error) :
      Keeps KernelCalm (rollback slot fd index failure) :=
    keeps_bind (system _) fun _ => keeps_fail _
  have closed (owner held : Nat) : Keeps KernelCalm
      (Call.attempt (inVfs (RuntimeVfs.Vfs.close owner held))) :=
    fun kernel => refl kernel.processes
  refine keeps_failWhen_bind fun _ => keeps_bind (keeps_state_bind fun _ => keeps_lift_bind fun _ =>
      keeps_lift_bind fun _ => keeps_pure _) fun ⟨process, slot⟩ => ?_
  refine keeps_state_bind fun _ => keeps_lift_bind fun _ =>
    keeps_failWhen_bind fun _ => keeps_bind (keeps_state_bind fun _ => keeps_lift_bind fun _ =>
        keeps_lift_bind fun _ => keeps_lift_bind fun _ =>
          keeps_pure _) fun ⟨fd, index⟩ => ?_
  refine keeps_bind (keeps_bind (system _) fun _ =>
    keeps_bind (keeps_attempt synced) fun outcome => ?_) fun _ => keeps_pure _
  match outcome with
  | .ok _ => exact keeps_pure _
  | .error failure =>
    exact keeps_ite (keeps_bind (closed _ _) fun _ => undone _ _ _ _) (undone _ _ _ _)

/-- The segment without its payload. -/
def Segment.bare (segment : Segment) : SegmentView := { segment.view with payloadLength := 0 }

namespace Sockets

/-! ### The system -/

/-- The system calls on sockets, and the single steps that a service pass consists of. -/
inductive Action where
  | socket (handle : Nat) (protocol : SocketProtocol)
  | bind (handle fd : Nat) (address : Option (BitVec 32 × Nat))
  | listen (handle fd backlog : Nat)
  | accept (handle fd : Nat) (copyPeer writable : Bool)
  | connect (handle fd : Nat) (address : Option (BitVec 32 × Nat)) (datagram : Except Errno Nat)
  | send (handle fd length : Nat) (dontWait : Bool) (buffer : Nat → Option Bytes)
      (datagram : Option (Except Errno Nat))
  | shutdown (handle fd : Nat) (how : Shutdown)
  | setNonblocking (handle fd : Nat) (enabled : Bool)
  | segment (arrived : Segment)
  | connectionTimer (index : Fin maximumSocketSlots)
  | pendingTimer (index : Fin maximumSocketSlots) (entry : Fin maximumTcpBacklog)

/-- The state an action leaves behind, whether it succeeds or fails. -/
def Action.next (sockets : Sockets) : Action → Sockets
  | .socket handle protocol => (syscallSocket handle protocol sockets).2
  | .bind handle fd address => (syscallBind handle fd address sockets).2
  | .listen handle fd backlog => (syscallListen handle fd backlog sockets).2
  | .accept handle fd copyPeer writable =>
    (syscallAccept handle fd copyPeer writable sockets).2
  | .connect handle fd address datagram =>
    (syscallConnect handle fd address datagram sockets).2
  | .send handle fd length dontWait buffer datagram =>
    (syscallSend handle fd length dontWait buffer datagram sockets).2
  | .shutdown handle fd how => (syscallSocketShutdown handle fd how sockets).2
  | .setNonblocking handle fd enabled => (syscallSetNonblocking handle fd enabled sockets).2
  | .segment arrived => sockets.serviceSegment arrived
  | .connectionTimer index => sockets.timeConnection index
  | .pendingTimer index entry => sockets.timePending index entry

/-- The slot that an action is for. -/
def Action.target (sockets : Sockets) : Action → Option Nat
  | .socket _ _ => none
  | .bind handle fd _ | .listen handle fd _ | .accept handle fd _ _ | .connect handle fd _ _
  | .send handle fd _ _ _ _ | .shutdown handle fd _ | .setNonblocking handle fd _ =>
    (sockets.socketSlotForDescriptor handle fd).toOption
  | .segment arrived => (sockets.connectionFor arrived).or (sockets.listenerFor arrived)
  | .connectionTimer index | .pendingTimer index _ => some index.val

/-- The segments that an action serves. -/
def Action.served : Action → List Segment
  | .segment arrived => [arrived]
  | _ => []

/-- What the device has sent so far. -/
def transmitted (sockets : Sockets) : List Transmission :=
  sockets.device.elim [] Device.transmitted

/-- The rest of the system moves on: descriptors and processes come and go, time passes, the device
changes its mind, and datagram sockets put processes to sleep. -/
structure Outside (before after : Sockets) : Prop where
  slots : after.slots = before.slots
  transmitted : after.transmitted = before.transmitted
  sleepers : ∀ slot reason target, onSocket reason = true →
    after.kernel.processes.Asleep slot reason target →
      before.kernel.processes.Asleep slot reason target ∨
        ∃ index < maximumSocketSlots, (before.slots index).used = true ∧
          (before.slots index).protocol = .udp ∧
            target = socketWaitKey index (before.slots index).generation

/-- No socket exists, nobody sleeps on one, and nothing has been sent. -/
structure Fresh (sockets : Sockets) : Prop where
  slots : ∀ index, ∃ generation, sockets.slots index = { generation }
  awake : ∀ slot reason target, onSocket reason = true →
    ¬ sockets.kernel.processes.Asleep slot reason target
  transmitted : sockets.transmitted = []

/-- A run of the system whose actions all meet the condition in the states they find, with the
segments it has served, the latest first. -/
inductive Run (condition : Sockets → Action → Prop) (start : Sockets) :
    List Segment → Sockets → Prop
  | start : Run condition start [] start
  | action {served : List Segment} {sockets : Sockets} (run : Run condition start served sockets)
      (action : Action) (meets : condition sockets action) :
      Run condition start (action.served ++ served) (action.next sockets)
  | outside {served : List Segment} {before after : Sockets}
      (run : Run condition start served before) (moved : Outside before after) :
      Run condition start served after

/-- A first process with a child, and a network device, before any socket exists. -/
def booted : Sockets where
  kernel := (bindProcess 0x100000001 true (bindProcess 0x100000000 true
    { processes := (Table.spawn (some 0x100000000) { name := [99] } (Table.initialized 0)).2 }).2).2
  device := some { localIpv4 := 1 }

theorem booted_fresh : Fresh booted := by
  have running : ∀ slot < maximumProcesses,
      (booted.kernel.processes.processes slot).state ≠ .blocked := by decide +kernel
  exact ⟨fun _ => ⟨0, rfl⟩, fun slot _ _ _ asleep => running slot asleep.bounded asleep.blocked, rfl⟩

/-- The first process listens on port 80, with room for one connection. -/
def listening : List Action := [
  .socket 0x100000000 .tcp,
  .bind 0x100000000 3 (some (0, 80)),
  .listen 0x100000000 3 1]

/-- The first process connects to port 80 of a peer. -/
def calling : List Action := [
  .socket 0x100000000 .tcp,
  .connect 0x100000000 3 (some (2, 80)) (.ok 0)]

/-- A segment of the called peer, whose window is closed. -/
def answering (flags : Flags) (sequenceNumber : Sequence) : Segment where
  source := { ipv4 := 2, port := 80 }
  destinationPort := 49152
  sequenceNumber := sequenceNumber
  acknowledgementNumber := 0xc47f79b9
  flags := flags
  windowSize := 0

/-- A peer begins a connection to port 80. -/
def opening : Segment where
  source := { ipv4 := 2, port := 7 }
  destinationPort := 80
  sequenceNumber := 100
  acknowledgementNumber := 0
  flags := flagSyn
  windowSize := 1000

/-- The peer goes on with its next octet. -/
def continuing (flags : Flags) (payload : Bytes) : Segment :=
  { opening with
    sequenceNumber := 101
    acknowledgementNumber := 0xd622b5e8
    flags := flags
    payload := payload }

/-! ### A service pass is a sequence of actions -/

/-- The states that a sequence of actions goes through. -/
def Action.run (actions : List Action) (sockets : Sockets) : Sockets :=
  actions.foldl Action.next sockets

/-- A run goes on with any sequence of actions that meet the condition where they happen. -/
theorem Run.actions {condition : Sockets → Action → Prop} {start sockets : Sockets}
    {served : List Segment} (run : Run condition start served sockets) (actions : List Action)
    (meets : ∀ earlier action later, actions = earlier ++ action :: later →
      condition (Action.run earlier sockets) action) :
    ∃ more, Run condition start more (Action.run actions sockets) := by
  induction actions generalizing sockets served with
  | nil => exact ⟨served, run⟩
  | cons action rest hypothesis =>
    refine hypothesis (run.action action (meets [] action rest rfl)) ?_
    intro earlier other later split
    exact meets (action :: earlier) other later (by rw [split]; rfl)

theorem serviceNetwork_run (sockets : Sockets) (packets : List (Option Segment)) :
    ∃ actions : List Action, sockets.serviceNetwork packets = Action.run actions sockets := by
  unfold serviceNetwork
  split
  · exact ⟨[], rfl⟩
  · refine ⟨((packets.take 8).filterMap id).map .segment ++
      (List.finRange maximumSocketSlots).map .connectionTimer ++
        ((List.finRange maximumSocketSlots).map fun index =>
          (List.finRange maximumTcpBacklog).map (.pendingTimer index)).flatten, ?_⟩
    unfold Action.run serviceTcpConnects
    rw [foldl_append, foldl_append, foldl_map, foldl_map, foldl_flatten, foldl_map]
    simp only [foldl_map, Action.next, ← map_coe_finRange_eq_range]

/-- A run goes on with a service pass all of whose actions would meet the condition. -/
theorem Run.pass {condition : Sockets → Action → Prop} {start sockets : Sockets}
    {served : List Segment} (run : Run condition start served sockets)
    (packets : List (Option Segment))
    (meets : ∀ earlier action, condition (Action.run earlier sockets) action) :
    ∃ more, Run condition start more (sockets.serviceNetwork packets) := by
  obtain ⟨actions, same⟩ := serviceNetwork_run sockets packets
  rw [same]
  exact run.actions actions fun earlier action _ _ => meets earlier action

/-! ### What becomes of a slot -/

/-- The device takes the next segment. -/
def takes (sockets : Sockets) : Bool :=
  sockets.device.any fun device => device.ready && device.answers device.attempts

/-- What an action does to the connection it is for: what becomes of it, whether the writers are
woken, and what may be sent. `takes` says whether the device takes a segment. -/
inductive ConnectionMove (action : Action) (takes : Bool) (connection : TcpSocketState) :
    TcpSocketState → Bool → Option OutboundSegment → Prop
  | send {length : Nat} {outbound : OutboundSegment} {control : ControlBlock}
      (established : connection.status = .established) (writable : connection.writeShutdown = false)
      (begun : connection.control.beginApplicationSend length = some (outbound, control)) :
      ConnectionMove action takes connection { connection with control := control } false (some outbound)
  | shutdownRead (established : connection.status = .established) :
      ConnectionMove action takes connection { connection with readShutdown := true } false none
  | shutdownWrite {handle fd : Nat} {how : Shutdown} {transition : Transition}
      {outbound : OutboundSegment} {control : ControlBlock}
      (called : action = .shutdown handle fd how) (stops : how.stopsWriting = true)
      (taken : takes = true) (stopsReading : Bool) (established : connection.status = .established)
      (writable : connection.writeShutdown = false)
      (closed : connection.control.beginClose = (transition, control))
      (accepted : transition.accepted = true) (sends : transition.outbound = some outbound) :
      ConnectionMove action takes connection
        { connection with control := control, writeShutdown := true, readShutdown := stopsReading }
        false (some outbound)
  | connecting {arrived : Segment} {transition : Transition} {control : ControlBlock}
      {status : TcpConnectStatus} (served : action = .segment arrived)
      (reached : reaches connection arrived = true) (connects : connection.status = .connecting)
      (handled : connection.control.handleSegment arrived.view = (transition, control))
      (accepted : transition.accepted = true)
      (becomes : status = connectedStatus transition.state ∨ status = .ioFailed) :
      ConnectionMove action takes connection { connection with control := control, status := status }
        (status != .connecting) transition.outbound
  | deferred {arrived : Segment} {control : ControlBlock} {wakes : Bool}
      (served : action = .segment arrived) (established : connection.status = .established)
      (state : connection.control.state = .established)
      (handled : hasFlag arrived.flags flagAck = true ∧ hasFlag arrived.flags flagRst = false ∧
        hasFlag arrived.flags flagSyn = false ∧
          control = (connection.control.handleSegment { arrived.bare with flags := flagAck }).2 ∨
            control = connection.control)
      (woken : control.sendUnacknowledged ≠ connection.control.sendUnacknowledged →
        control.applicationSendReady = true → wakes = true) :
      ConnectionMove action takes connection
        { connection with control := control, deferredIngressSeen := true } wakes none
  | plain {arrived : Segment} {transition : Transition} {control : ControlBlock}
      {status : TcpConnectStatus} {wakes : Bool} (served : action = .segment arrived)
      (established : connection.status = .established)
      (state : connection.control.state = .established) (empty : arrived.payload = [])
      (endless : hasFlag arrived.flags flagFin = false)
      (handled : connection.control.handleSegment arrived.bare = (transition, control))
      (accepted : transition.accepted = true)
      (becomes : status = if transition.state = .reset then .refused else .established)
      (woken : control.sendUnacknowledged ≠ connection.control.sendUnacknowledged →
        control.applicationSendReady = true → wakes = true) :
      ConnectionMove action takes connection { connection with control := control, status := status }
        wakes none
  | timer {tick : Nat} {timer : TimerResult} {control : ControlBlock} {status : TcpConnectStatus}
      (connects : connection.status = .connecting)
      (handled : connection.control.onTimer tick = (timer, control))
      (becomes : timer.action = .timedOut ∧ status = .timedOut ∨
        timer.action ≠ .timedOut ∧ (status = .connecting ∨ status = .ioFailed)) :
      ConnectionMove action takes connection { connection with control := control, status := status }
        (status != .connecting) (if timer.action = .retransmitSyn then timer.outbound else none)

/-- What an action does to a pending connection of the listener it is for. -/
inductive PendingMove (action : Action) (listener : TcpListenerState) (entry : Nat) :
    TcpPendingConnection → Option OutboundSegment → Prop
  | opened {arrived : Segment} {initialSequence : Sequence} {tick : Nat} {transition : Transition}
      {control : ControlBlock} (served : action = .segment arrived)
      (port : arrived.destinationPort = listener.localPort)
      (unused : (listener.pending entry).used = false)
      (unknown : ∀ other < listener.backlog, (listener.pending other).used = true →
        (listener.pending other).peer ≠ arrived.source)
      (begun : ControlBlock.beginPassiveOpenAt { receiveWindow := tcpReceiveWindow } initialSequence
        arrived.view tick tcpRetransmissionPolicy = (transition, control))
      (accepted : transition.accepted = true) :
      PendingMove action listener entry
        { used := true, peer := arrived.source, control := some control } transition.outbound
  | handled {arrived : Segment} {transition : Transition} {control after : ControlBlock}
      (served : action = .segment arrived) (port : arrived.destinationPort = listener.localPort)
      (used : (listener.pending entry).used = true)
      (source : (listener.pending entry).peer = arrived.source)
      (held : (listener.pending entry).control = some control)
      (handled : control.handleSegment arrived.view = (transition, after))
      (accepted : transition.accepted = true) (alive : transition.state ≠ .closed ∧
        transition.state ≠ .reset ∧ transition.state ≠ .timedOut) :
      PendingMove action listener entry { listener.pending entry with control := some after }
        transition.outbound
  | waited {tick : Nat} {timer : TimerResult} {control after : ControlBlock}
      (used : (listener.pending entry).used = true)
      (held : (listener.pending entry).control = some control)
      (state : control.state = .synReceived) (handled : control.onTimer tick = (timer, after))
      (alive : timer.action ≠ .timedOut) :
      PendingMove action listener entry { listener.pending entry with control := some after }
        (if timer.action = .retransmitSynAck then timer.outbound else none)
  | freed : PendingMove action listener entry {} none

/-- What an action does to the slot it is for: what becomes of it, whom it wakes, and what it may
send. -/
inductive SlotMove (action : Action) (takes : Bool) (slot : SocketSlot) :
    SocketSlot → Option WaitReason → Option (Nat × Peer × OutboundSegment) → Prop
  | configure (port : Nat) (nonblocking : Bool) :
      SlotMove action takes slot { slot with tcpBoundPort := port, nonblocking := nonblocking } none none
  | listen {backlog : Nat} (bounded : backlog ≤ maximumTcpBacklog) (stream : slot.protocol = .tcp)
      (unconnected : slot.tcp = none) (deaf : slot.listener = none) :
      SlotMove action takes slot
        { slot with listener := some { localPort := slot.tcpBoundPort, backlog } } none none
  | connect (port : Nat) (peer : Peer) {tick : Nat} {initialSequence : Sequence}
      {transition : Transition} {control : ControlBlock} {status : TcpConnectStatus}
      (unconnected : slot.tcp = none)
      (deaf : slot.listener = none)
      (begun : ControlBlock.beginActiveOpenAt { receiveWindow := tcpReceiveWindow } initialSequence
        tick tcpRetransmissionPolicy = (transition, control))
      (becomes : status = .connecting ∨ status = .ioFailed) :
      SlotMove action takes slot { slot with
          tcpBoundPort := port
          tcp := some { localPort := port, peer := peer, control := control, status := status } }
        none (transition.outbound.map (port, peer, ·))
  | connection {connection after : TcpSocketState} {wakes : Bool} {outbound : Option OutboundSegment}
      (held : slot.tcp = some connection) (move : ConnectionMove action takes connection after wakes outbound) :
      SlotMove action takes slot { slot with tcp := some after } (if wakes then some .socketWrite else none)
        (outbound.map (connection.localPort, connection.peer, ·))
  | pending {listener : TcpListenerState} {entry : Nat} {after : TcpPendingConnection} {wakes : Bool}
      {outbound : Option OutboundSegment} (held : slot.listener = some listener)
      (below : entry < listener.backlog) (move : PendingMove action listener entry after outbound)
      (woken : tcpListenerReady (listener.setPending entry after) = true →
        tcpListenerReady listener = true ∨ wakes = true) :
      SlotMove action takes slot { slot with listener := some (listener.setPending entry after) }
        (if wakes then some .socketRead else none)
        (outbound.map (listener.localPort, after.peer, ·))

/-- Nothing is sent, or one segment that the move may send. -/
def Sends (before after : Sockets) (outbound : Option (Nat × Peer × OutboundSegment)) : Prop :=
  after.transmitted = before.transmitted ∨
    ∃ localPort peer segment payload, outbound = some (localPort, peer, segment) ∧
      after.transmitted = { localPort, peer, outbound := segment, payload } :: before.transmitted

/-- What an action does to the sockets. -/
inductive Move (action : Action) : Sockets → Sockets → Prop
  | idle {before after : Sockets} (slots : after.slots = before.slots)
      (calm : KernelCalm before.kernel after.kernel)
      (transmitted : after.transmitted = before.transmitted) : Move action before after
  | change {before after : Sockets} {index : Nat} {slot : SocketSlot} {wakes : Option WaitReason}
      {outbound : Option (Nat × Peer × OutboundSegment)} (target : action.target before = some index)
      (below : index < maximumSocketSlots) (used : (before.slots index).used = true)
      (move : SlotMove action before.takes (before.slots index) slot wakes outbound)
      (slots : after.slots = update before.slots index slot)
      (calm : KernelCalm before.kernel after.kernel)
      (woken : ∀ reason, wakes = some reason → ∀ process, ¬ after.kernel.processes.Asleep process
        reason (socketWaitKey index (before.slots index).generation))
      (sends : Sends before after outbound) : Move action before after
  | create {before after : Sockets} {index : Nat} {slot : SocketSlot}
      (below : index < maximumSocketSlots) (unused : (before.slots index).used = false)
      (unconnected : slot.tcp = none) (deaf : slot.listener = none)
      (slots : after.slots = update before.slots index slot)
      (calm : KernelCalm before.kernel after.kernel)
      (transmitted : after.transmitted = before.transmitted) : Move action before after
  | accept {before after : Sockets} {index fresh entry generation : Nat}
      {listener : TcpListenerState} {control : ControlBlock}
      (target : action.target before = some index) (below : index < maximumSocketSlots)
      (used : (before.slots index).used = true)
      (listens : (before.slots index).listener = some listener) (entryBelow : entry < listener.backlog)
      (pending : (listener.pending entry).used = true)
      (held : (listener.pending entry).control = some control)
      (established : control.state = .established) (freshBelow : fresh < maximumSocketSlots)
      (unused : (before.slots fresh).used = false)
      (slots : after.slots = update (update before.slots fresh
          (acceptedSlot listener (listener.pending entry) control generation)) index
        { before.slots index with listener := some (listener.setPending entry {}) })
      (calm : KernelCalm before.kernel after.kernel)
      (transmitted : after.transmitted = before.transmitted) : Move action before after

/-- The call that a process sleeps in would put it to sleep again. -/
def Blocks (slot : SocketSlot) : WaitReason → Prop
  | .socketWrite => ∃ connection, slot.tcp = some connection ∧
      (connection.status = .connecting ∨ connection.status = .established ∧
        connection.writeShutdown = false ∧ connection.control.applicationSendReady = false)
  | .socketRead => ∃ listener, slot.listener = some listener ∧
      tcpListenerReady listener = false
  | _ => True

/-- A process goes to sleep on a slot in use, on a TCP slot only if its call has to wait. -/
structure FallsAsleep (before after : Sockets) : Prop where
  slots : after.slots = before.slots
  transmitted : after.transmitted = before.transmitted
  sleepers : ∀ slot reason target, onSocket reason = true →
    after.kernel.processes.Asleep slot reason target →
      before.kernel.processes.Asleep slot reason target ∨
        ∃ index < maximumSocketSlots, (before.slots index).used = true ∧
          ((before.slots index).protocol = .tcp → Blocks (before.slots index) reason) ∧
            target = socketWaitKey index (before.slots index).generation

/-- An action is a move, after which its process may go to sleep. -/
def Moves (action : Action) (before after : Sockets) : Prop :=
  ∃ middle, Move action before middle ∧ (after = middle ∨ FallsAsleep middle after)

end Sockets

end ZigOs.RuntimeUser
