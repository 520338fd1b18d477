/-
This file models the TCP sockets of the user runtime: the table of slots with
their connections and listeners, the system calls on them, and the pass that
hands the frames of the network device to the control blocks and runs their
timers. The device is taken as it comes: which frames it delivers and whether a
segment goes out is decided outside. A call that has to wait puts its process to
sleep on the key of the slot and is made again when the process is woken.
-/

import ZigOs.TcpConnection.ControlBlock
import ZigOs.RuntimeFd.System

namespace ZigOs.RuntimeUser

open Scan RuntimeProcess RuntimeFd TcpConnection Call

abbrev maximumIoBytes : Nat := 1024
abbrev maximumSocketSlots : Nat := 8
abbrev maximumTcpBacklog : Nat := 4
abbrev tcpEphemeralPortFirst : Nat := 49152
abbrev tcpEphemeralPortLast : Nat := 65535
abbrev tcpEphemeralPortCount : Nat := tcpEphemeralPortLast - tcpEphemeralPortFirst + 1
abbrev tcpReceiveWindow : Nat := 32768

def tcpRetransmissionPolicy : RetransmissionPolicy :=
  { initialTimeoutTicks := 10, maximumTimeoutTicks := 40, maximumRetries := 3 }

/-! ### The table -/

inductive SocketProtocol where
  | udp | tcp
  deriving DecidableEq, Repr

def SocketProtocol.descriptionKind : SocketProtocol → DescriptionKind
  | .udp => .udpSocket
  | .tcp => .tcpSocket

inductive TcpConnectStatus where
  | connecting | established | refused | timedOut | ioFailed
  deriving DecidableEq, Repr

/-- The other end of a connection. -/
structure Peer where
  ipv4 : BitVec 32 := 0
  mac : BitVec 48 := 0
  port : Nat := 0
  deriving DecidableEq

structure TcpSocketState where
  localPort : Nat
  peer : Peer
  control : ControlBlock
  status : TcpConnectStatus := .connecting
  readShutdown : Bool := false
  writeShutdown : Bool := false
  deferredIngressSeen : Bool := false

/-- A connection that a peer has begun and nobody has accepted. -/
structure TcpPendingConnection where
  used : Bool := false
  peer : Peer := {}
  control : Option ControlBlock := none

structure TcpListenerState where
  localPort : Nat
  backlog : Nat
  pending : Nat → TcpPendingConnection := fun _ => {}

structure SocketSlot where
  used : Bool := false
  generation : Nat := 0
  protocol : SocketProtocol := .udp
  tcp : Option TcpSocketState := none
  tcpBoundPort : Nat := 0
  listener : Option TcpListenerState := none
  nonblocking : Bool := false

/-! ### The network -/

/-- A segment that has come in, as it is parsed from its frame. -/
structure Segment where
  source : Peer
  destinationPort : Nat
  sequenceNumber : Sequence
  acknowledgementNumber : Sequence
  flags : Flags
  windowSize : Nat
  payload : Bytes := []

/-- The whole segment, as the control block sees it. -/
def Segment.view (segment : Segment) : SegmentView :=
  { sequenceNumber := segment.sequenceNumber
    acknowledgementNumber := segment.acknowledgementNumber
    flags := segment.flags
    windowSize := segment.windowSize
    payloadLength := segment.payload.length }

/-- A segment handed to the device for sending. -/
structure Transmission where
  localPort : Nat
  peer : Peer
  outbound : OutboundSegment
  payload : Bytes := []

structure Device where
  localMac : BitVec 48 := 0
  localIpv4 : BitVec 32 := 0
  gatewayMac : BitVec 48 := 0
  ready : Bool := true
  -- Whether the segment of an attempt goes out, and what has gone out so far, the latest first.
  answers : Nat → Bool := fun _ => true
  attempts : Nat := 0
  transmitted : List Transmission := []

/-- The part of the user runtime that sockets live in. -/
structure Sockets where
  kernel : Kernel
  slots : Nat → SocketSlot := fun _ => {}
  nextTcpEphemeralPort : Nat := tcpEphemeralPortFirst
  device : Option Device := none
  currentTick : Nat := 0

/-- The numbers that a failed call returns. -/
inductive Errno where
  | badDescriptor | fault | invalid | noSyscall | notSocket | connectionRefused | addressInUse
  | access | busy | systemFileLimit | notConnected | brokenPipe | io | wouldBlock
  | kernel (failure : Error)
  deriving DecidableEq, Repr

/-- A call returns a value or leaves its process asleep, to be made again. -/
inductive Reply where
  | value (result : Nat)
  | blocked
  deriving DecidableEq, Repr

abbrev SocketCall := Call Errno Sockets

def nextSocketGeneration (current : Nat) : Nat := nextNonzero 32 current

def socketWaitKey (index generation : Nat) : Nat := generation * 2 ^ 16 + index

def TcpListenerState.setPending (listener : TcpListenerState) (entry : Nat)
    (pending : TcpPendingConnection) : TcpListenerState :=
  { listener with pending := Function.update listener.pending entry pending }

namespace Sockets

/-! ### Small steps -/

def modifySlot (sockets : Sockets) (index : Nat) (step : SocketSlot → SocketSlot) : Sockets :=
  { sockets with slots := Function.update sockets.slots index (step (sockets.slots index)) }

def setConnection (sockets : Sockets) (index : Nat) (connection : TcpSocketState) : Sockets :=
  sockets.modifySlot index fun slot => { slot with tcp := some connection }

def setListener (sockets : Sockets) (index : Nat) (listener : TcpListenerState) : Sockets :=
  sockets.modifySlot index fun slot => { slot with listener := some listener }

/-- Hand a segment to the device. -/
def transmit (transmission : Transmission) (sockets : Sockets) : Bool × Sockets :=
  match sockets.device with
  | none => (false, sockets)
  | some device =>
    let sent := device.answers device.attempts
    (sent,
      { sockets with
        device := some
          { device with
            attempts := device.attempts + 1
            transmitted :=
              if sent then transmission :: device.transmitted else device.transmitted } })

/-- Wake every process that sleeps on the slot for the reason. -/
def wakeSlot (sockets : Sockets) (reason : WaitReason) (index : Nat) : Sockets :=
  let key := socketWaitKey index (sockets.slots index).generation
  { sockets with
    kernel := { sockets.kernel with
      processes := (sockets.kernel.processes.wakeMatching reason key true).2 } }

/-! ### Slots and ports -/

def findFreeSocketSlot (sockets : Sockets) : Option Nat :=
  firstIndex maximumSocketSlots fun index => !(sockets.slots index).used

/-- The slot is in use and of this generation. -/
def resolveSocketSlot (sockets : Sockets) (index generation : Nat) : Bool :=
  decide (index < maximumSocketSlots) && (sockets.slots index).used &&
    (sockets.slots index).generation == generation

/-- The slot behind a descriptor of a process. -/
def socketSlotForDescriptor (sockets : Sockets) (handle fd : Nat) : Except Errno Nat := do
  let system := sockets.kernel.system
  let _ ← (sockets.kernel.processes.get handle).mapError Errno.kernel
  let slot ← (system.resolveNamespace handle).mapError Errno.kernel
  let index ← (system.resolveDescriptor slot fd).mapError Errno.kernel
  let description := system.openDescriptions index
  if description.kind ≠ .udpSocket ∧ description.kind ≠ .tcpSocket then .error .notSocket
  else if description.resourceIndex = invalidResource ∨ description.resourceGeneration = 0 then
    .error (.kernel .invalidOperation)
  else if sockets.resolveSocketSlot description.resourceIndex description.resourceGeneration = false then
    .error .notSocket
  else if (description.kind = .udpSocket) ≠
      ((sockets.slots description.resourceIndex).protocol = .udp) then .error .notSocket
  else .ok description.resourceIndex

def tcpPortInUse (sockets : Sockets) (port : Nat) : Bool :=
  (firstIndex maximumSocketSlots fun index =>
    let slot := sockets.slots index
    slot.used && slot.protocol == .tcp && (slot.tcpBoundPort == port ||
      slot.tcp.any fun connection => connection.localPort == port)).isSome

def nextTcpEphemeralPortAfter (port : Nat) : Nat :=
  if port ≥ tcpEphemeralPortLast then tcpEphemeralPortFirst else port + 1

/-- The first port from the candidate on that is not in use, within so many attempts. -/
def unusedPort (sockets : Sockets) : Nat → Nat → Option Nat
  | 0, _ => none
  | attempts + 1, candidate =>
    if sockets.tcpPortInUse candidate = false then some candidate
    else sockets.unusedPort attempts (nextTcpEphemeralPortAfter candidate)

def allocateTcpEphemeralPort : SocketCall Nat := do
  let sockets ← state
  match sockets.unusedPort tcpEphemeralPortCount
      (max sockets.nextTcpEphemeralPort tcpEphemeralPortFirst) with
  | none => fail .addressInUse
  | some port => do
    change fun sockets =>
      { sockets with nextTcpEphemeralPort := nextTcpEphemeralPortAfter port }
    return port

def nonzeroSequence (value : Sequence) : Sequence := if value = 0 then 1 else value

def tcpInitialSequence (sockets : Sockets) (index generation : Nat) : Sequence :=
  nonzeroSequence (BitVec.ofNat 32 sockets.currentTick ^^^
    (BitVec.ofNat 32 generation * 0x9E3779B9) ^^^ (BitVec.ofNat 32 (index + 1) <<< 16) ^^^ 0x5A490001)

def tcpPassiveInitialSequence (index entry generation : Nat) (peerSequence : Sequence) (tick : Nat) :
    Sequence :=
  nonzeroSequence (BitVec.ofNat 32 tick ^^^ peerSequence ^^^
    (BitVec.ofNat 32 generation * 0x9E3779B9) ^^^ (BitVec.ofNat 32 (index + 1) <<< 16) ^^^
      (BitVec.ofNat 32 (entry + 1) * 0x45D9F3B) ^^^ 0x4C495301)

/-! ### System calls -/

def inKernel {Value : Type} (call : KernelCall Value) : SocketCall Value where
  run sockets := ((call sockets.kernel).1.mapError Errno.kernel,
    { sockets with kernel := (call sockets.kernel).2 })

def activeDevice : SocketCall Device := do
  let sockets ← state
  match sockets.device with
  | some device => return device
  | none => fail .connectionRefused

/-- Send a segment; the result says whether the device took it. -/
def send (transmission : Transmission) : SocketCall Bool where
  run sockets := (.ok (transmit transmission sockets).1, (transmit transmission sockets).2)

/-- Put the caller to sleep on the slot; it makes the call again when it is woken. -/
def blockOn (handle : Nat) (reason : WaitReason) (index : Nat) : SocketCall Reply := do
  let sockets ← state
  inKernel (Kernel.inProcesses (Table.block handle reason
    (socketWaitKey index (sockets.slots index).generation)))
  return .blocked

def blockSocketWriter (handle index : Nat) (dontWait : Bool) : SocketCall Reply := do
  let sockets ← state
  failWhen ((sockets.slots index).nonblocking ∨ dontWait) .wouldBlock
  blockOn handle .socketWrite index

/-- Give a fresh slot to the caller under a new descriptor, or free it again. -/
def installSocket (handle index : Nat) (slot : SocketSlot) : SocketCall Nat := do
  change fun sockets => sockets.modifySlot index fun _ => slot
  let created ← Call.attempt (inKernel (Kernel.createExternalDescriptor handle
    slot.protocol.descriptionKind { index := index, generation := slot.generation } true true true))
  match created with
  | .ok fd => return fd
  | .error failure => do
    change fun sockets => sockets.modifySlot index fun _ => { generation := slot.generation }
    fail failure

def syscallSocket (handle : Nat) (protocol : SocketProtocol) : SocketCall Reply := do
  let _ ← activeDevice
  let sockets ← state
  match sockets.findFreeSocketSlot with
  | none => fail .systemFileLimit
  | some index => do
    let fd ← installSocket handle index
      { used := true
        generation := nextSocketGeneration (sockets.slots index).generation
        protocol := protocol }
    return .value fd

/-- Bind a TCP socket to a port of the device, chosen here when none is given. -/
def syscallBind (handle fd : Nat) (address : Option (BitVec 32 × Nat)) : SocketCall Reply := do
  match address with
  | none => fail .fault
  | some (ipv4, requestedPort) => do
    let sockets ← state
    let index ← lift (sockets.socketSlotForDescriptor handle fd)
    let slot := sockets.slots index
    let device ← activeDevice
    failWhen (ipv4 ≠ 0 ∧ ipv4 ≠ device.localIpv4) .access
    if slot.protocol = .udp then return .value 0
    else do
      failWhen (slot.tcp.isSome ∨ slot.listener.isSome ∨ slot.tcpBoundPort ≠ 0) .busy
      let localPort ←
        if requestedPort = 0 then allocateTcpEphemeralPort
        else do
          failWhen (sockets.tcpPortInUse requestedPort) .addressInUse
          pure requestedPort
      change fun sockets => sockets.modifySlot index fun slot =>
        { slot with tcpBoundPort := localPort }
      return .value 0

def syscallListen (handle fd backlog : Nat) : SocketCall Reply := do
  failWhen (backlog = 0 ∨ backlog > maximumTcpBacklog) .invalid
  let sockets ← state
  let index ← lift (sockets.socketSlotForDescriptor handle fd)
  let slot := sockets.slots index
  failWhen (slot.protocol ≠ .tcp) .noSyscall
  failWhen (slot.tcp.isSome ∨ slot.listener.isSome) .busy
  failWhen (slot.tcpBoundPort = 0) .invalid
  change fun sockets => sockets.setListener index { localPort := slot.tcpBoundPort, backlog }
  return .value 0

/-- The first pending connection that can be accepted. -/
def tcpListenerEstablishedIndex (listener : TcpListenerState) : Option Nat :=
  firstIndex listener.backlog fun entry =>
    (listener.pending entry).used &&
      (listener.pending entry).control.any fun control => control.state == .established

def tcpListenerReady (listener : TcpListenerState) : Bool :=
  (tcpListenerEstablishedIndex listener).isSome

/-- The socket that a pending connection becomes. -/
def acceptedSlot (listener : TcpListenerState) (pending : TcpPendingConnection)
    (control : ControlBlock) (generation : Nat) : SocketSlot :=
  { used := true
    generation := generation
    protocol := .tcp
    tcpBoundPort := listener.localPort
    tcp := some
      { localPort := listener.localPort
        peer := pending.peer
        control := control
        status := .established } }

/-- Whether the caller gave a place for the address of the peer, and whether it may be written:
that is checked before anything is taken, so the copy at the end does not fail. -/
def syscallAccept (handle fd : Nat) (copyPeer writable : Bool) : SocketCall Reply := do
  failWhen (copyPeer ∧ writable = false) .fault
  let sockets ← state
  let index ← lift (sockets.socketSlotForDescriptor handle fd)
  let slot := sockets.slots index
  failWhen (slot.protocol ≠ .tcp) .noSyscall
  match slot.listener with
  | none => fail .invalid
  | some listener =>
    match tcpListenerEstablishedIndex listener with
    | none => do
      failWhen (slot.nonblocking = true) .wouldBlock
      blockOn handle .socketRead index
    | some entry =>
      match (listener.pending entry).control with
      | none => fail .io
      | some control =>
        match sockets.findFreeSocketSlot with
        | none => fail .systemFileLimit
        | some fresh => do
          let fd ← installSocket handle fresh (acceptedSlot listener (listener.pending entry) control
            (nextSocketGeneration (sockets.slots fresh).generation))
          change fun sockets => sockets.setListener index (listener.setPending entry {})
          return .value fd

inductive Shutdown where
  | read | write | both
  deriving DecidableEq, Repr

def Shutdown.stopsReading : Shutdown → Bool
  | .write => false
  | _ => true

def Shutdown.stopsWriting : Shutdown → Bool
  | .read => false
  | _ => true

/-- End the stream to the peer. When the segment does not go out, the connection is as before. -/
def shutdownWrite (index : Nat) (connection : TcpSocketState) : SocketCall TcpSocketState := do
  let device ← activeDevice
  failWhen (device.ready = false) .io
  let (transition, control) := connection.control.beginClose
  match (if transition.accepted then transition.outbound else none) with
  | none => fail .io
  | some outbound => do
    let sent ← send { localPort := connection.localPort, peer := connection.peer, outbound }
    failWhen (sent = false) .io
    let shut := { connection with control := control, writeShutdown := true }
    change fun sockets => sockets.setConnection index shut
    return shut

def syscallSocketShutdown (handle fd : Nat) (how : Shutdown) : SocketCall Reply := do
  let sockets ← state
  let index ← lift (sockets.socketSlotForDescriptor handle fd)
  let slot := sockets.slots index
  failWhen (slot.protocol ≠ .tcp) .noSyscall
  failWhen slot.listener.isSome .notConnected
  match slot.tcp with
  | none => fail .notConnected
  | some connection => do
    failWhen (connection.status ≠ .established) .notConnected
    let connection ←
      if how.stopsWriting ∧ connection.writeShutdown = false then shutdownWrite index connection
      else pure connection
    change fun sockets =>
      if how.stopsReading then sockets.setConnection index { connection with readShutdown := true }
      else sockets
    return .value 0

def tcpPeerForAddress (device : Device) (address : BitVec 32 × Nat) : Option Peer :=
  if address.2 = 0 ∨ address.1 = 0 then none
  else some
    { ipv4 := address.1
      mac := if address.1 = device.localIpv4 then device.localMac else device.gatewayMac
      port := address.2 }

def tcpPeerMatches (connection : TcpSocketState) (peer : Peer) : Bool :=
  connection.peer.port == peer.port && connection.peer.ipv4 == peer.ipv4

/-- Begin a connection from a port. A first segment that does not go out leaves it failed. -/
def beginConnection (index localPort : Nat) (peer : Peer) : SocketCall TcpSocketState := do
  change fun sockets => sockets.modifySlot index fun slot =>
    { slot with tcpBoundPort := localPort }
  let sockets ← state
  let (transition, control) := ControlBlock.beginActiveOpenAt { receiveWindow := tcpReceiveWindow }
    (sockets.tcpInitialSequence index (sockets.slots index).generation) sockets.currentTick
      tcpRetransmissionPolicy
  match transition.outbound with
  | none => fail .io
  | some outbound => do
    let sent ← send { localPort, peer, outbound }
    let connection : TcpSocketState :=
      { localPort, peer, control, status := if sent then .connecting else .ioFailed }
    change fun sockets => sockets.setConnection index connection
    failWhen (sent = false) .io
    return connection

def openConnection (index : Nat) (device : Device) (peer : Peer) : SocketCall TcpSocketState := do
  failWhen (device.ready = false) .io
  let sockets ← state
  let bound := (sockets.slots index).tcpBoundPort
  let localPort ← if bound ≠ 0 then pure bound else allocateTcpEphemeralPort
  beginConnection index localPort peer

/-- What a caller that connects is told about the connection. -/
def answerConnect (handle index : Nat) (peer : Peer) (nonblocking : Bool)
    (connection : TcpSocketState) : SocketCall Reply := do
  failWhen (tcpPeerMatches connection peer = false) .busy
  match connection.status with
  | .established => return .value 0
  | .refused => fail .connectionRefused
  | .timedOut | .ioFailed => fail .io
  | .connecting => do
    failWhen (nonblocking = true) .wouldBlock
    blockOn handle .socketWrite index

/-- For a datagram socket, `datagram` is what the device answers. -/
def syscallConnect (handle fd : Nat) (address : Option (BitVec 32 × Nat))
    (datagram : Except Errno Nat) : SocketCall Reply := do
  match address with
  | none => fail .fault
  | some address => do
    let sockets ← state
    let index ← lift (sockets.socketSlotForDescriptor handle fd)
    let slot := sockets.slots index
    let device ← activeDevice
    if slot.protocol = .udp then do
      let result ← lift datagram
      return .value result
    else match tcpPeerForAddress device address with
      | none => fail .invalid
      | some peer => do
        failWhen slot.listener.isSome .busy
        let connection ← match slot.tcp with
          | some connection => pure connection
          | none => openConnection index device peer
        answerConnect handle index peer slot.nonblocking connection

/-- Send the first bytes of the caller's buffer that one segment may carry. -/
def sendStream (handle index : Nat) (connection : TcpSocketState) (length : Nat) (dontWait : Bool)
    (buffer : Nat → Option Bytes) : SocketCall Reply := do
  let sendLength := min length (min maximumIoBytes connection.control.sendWindow)
  match buffer sendLength with
  | none => fail .fault
  | some bytes => do
    let device ← activeDevice
    failWhen (device.ready = false) .io
    match connection.control.beginApplicationSend sendLength with
    | none => blockSocketWriter handle index dontWait
    | some (outbound, control) => do
      let sent ← send
        { localPort := connection.localPort, peer := connection.peer, outbound, payload := bytes }
      failWhen (sent = false) .io
      change fun sockets => sockets.setConnection index { connection with control := control }
      return .value sendLength

/-- `buffer` is the caller's memory: so many bytes of it, or a fault. For a datagram socket,
`datagram` is what the device answers, and nothing when it has no room. -/
def syscallSend (handle fd length : Nat) (dontWait : Bool) (buffer : Nat → Option Bytes)
    (datagram : Option (Except Errno Nat)) : SocketCall Reply := do
  let sockets ← state
  let index ← lift (sockets.socketSlotForDescriptor handle fd)
  let slot := sockets.slots index
  if slot.protocol = .udp then
    match datagram with
    | none => blockSocketWriter handle index dontWait
    | some answer => do
      let result ← lift answer
      return .value result
  else do
    failWhen slot.listener.isSome .notConnected
    match slot.tcp with
    | none => fail .notConnected
    | some connection =>
      match connection.status with
      | .connecting => blockSocketWriter handle index dontWait
      | .refused => fail .connectionRefused
      | .timedOut | .ioFailed => fail .io
      | .established => do
        failWhen (connection.writeShutdown = true) .brokenPipe
        if length = 0 then return .value 0
        else if connection.control.applicationSendReady = false then
          blockSocketWriter handle index dontWait
        else sendStream handle index connection length dontWait buffer

def syscallSetNonblocking (handle fd : Nat) (enabled : Bool) : SocketCall Reply := do
  let sockets ← state
  let index ← lift (sockets.socketSlotForDescriptor handle fd)
  change fun sockets => sockets.modifySlot index fun slot => { slot with nonblocking := enabled }
  return .value 0

/-! ### The service pass -/

/-- The segment comes from the peer of the connection. -/
def reaches (connection : TcpSocketState) (segment : Segment) : Bool :=
  connection.localPort == segment.destinationPort && connection.peer == segment.source

/-- The connection that takes a segment: the first one with this peer that is connecting or
established. -/
def connectionFor (sockets : Sockets) (segment : Segment) : Option Nat :=
  firstIndex maximumSocketSlots fun index =>
    let slot := sockets.slots index
    slot.used && slot.protocol == .tcp && slot.tcp.any fun connection =>
      reaches connection segment &&
        (connection.status == .connecting || connection.status == .established)

def listenerFor (sockets : Sockets) (segment : Segment) : Option Nat :=
  firstIndex maximumSocketSlots fun index =>
    let slot := sockets.slots index
    slot.used && slot.protocol == .tcp &&
      slot.listener.any fun listener => listener.localPort == segment.destinationPort

/-- Send a segment if there is one to send; the result is false when it did not go out. -/
def transmitIfAny (localPort : Nat) (peer : Peer) (outbound : Option OutboundSegment)
    (sockets : Sockets) : Bool × Sockets :=
  match outbound with
  | none => (true, sockets)
  | some outbound => sockets.transmit { localPort, peer, outbound }

def connectedStatus : TcpConnection.State → TcpConnectStatus
  | .established => .established
  | .reset => .refused
  | .timedOut => .timedOut
  | _ => .connecting

/-- A segment for a connection that is being made. -/
def serviceConnecting (sockets : Sockets) (index : Nat) (connection : TcpSocketState)
    (segment : Segment) : Sockets :=
  let (transition, control) := connection.control.handleSegment segment.view
  if transition.accepted = false then sockets.setConnection index { connection with control := control }
  else
    let (sent, after) := sockets.transmitIfAny connection.localPort connection.peer transition.outbound
    let status := if sent then connectedStatus transition.state else .ioFailed
    let moved := after.setConnection index { connection with control := control, status := status }
    if status ≠ .connecting then moved.wakeSlot .socketWrite index else moved

/-- Wake the writers when the segment acknowledged something and there is room again. -/
def wakeWriters (sockets : Sockets) (index : Nat) (before after : ControlBlock) : Sockets :=
  if after.sendUnacknowledged ≠ before.sendUnacknowledged ∧ after.applicationSendReady then
    sockets.wakeSlot .socketWrite index
  else sockets

/-- A segment for an established connection. Payload and the end of the stream are neither taken
nor acknowledged; of a segment that carries them only the acknowledgement counts. -/
def serviceEstablished (sockets : Sockets) (index : Nat) (connection : TcpSocketState)
    (segment : Segment) : Sockets :=
  let bare : SegmentView := { segment.view with payloadLength := 0 }
  if connection.control.state ≠ .established ∨ hasFlag segment.flags flagSyn then sockets
  else if segment.payload ≠ [] ∨ hasFlag segment.flags flagFin then
    let control := if hasFlag segment.flags flagAck ∧ hasFlag segment.flags flagRst = false then
      (connection.control.handleSegment { bare with flags := flagAck }).2 else connection.control
    (sockets.setConnection index
      { connection with control := control, deferredIngressSeen := true }).wakeWriters index
        connection.control control
  else
    let (transition, control) := connection.control.handleSegment bare
    if transition.accepted = false then
      sockets.setConnection index { connection with control := control }
    else
      let (sent, after) := sockets.transmitIfAny connection.localPort connection.peer transition.outbound
      let status := if sent = false then .ioFailed
        else if transition.state = .reset then .refused else connection.status
      (after.setConnection index { connection with control := control, status := status }).wakeWriters
        index connection.control control

/-- A segment for a pending connection. -/
def servicePending (sockets : Sockets) (index : Nat) (listener : TcpListenerState) (entry : Nat)
    (segment : Segment) : Sockets :=
  let pending := listener.pending entry
  match pending.control with
  | none => sockets.setListener index (listener.setPending entry {})
  | some control =>
    let (transition, control) := control.handleSegment segment.view
    let kept := listener.setPending entry { pending with control := some control }
    if transition.accepted = false then sockets.setListener index kept
    else
      let (sent, after) := sockets.transmitIfAny listener.localPort pending.peer transition.outbound
      if sent = false ∨ transition.state = .closed ∨ transition.state = .reset ∨
          transition.state = .timedOut then after.setListener index (listener.setPending entry {})
      else after.setListener index kept

/-- A first segment from a new peer. -/
def openPending (sockets : Sockets) (index : Nat) (listener : TcpListenerState) (entry : Nat)
    (segment : Segment) : Sockets :=
  let (transition, control) := ControlBlock.beginPassiveOpenAt { receiveWindow := tcpReceiveWindow }
    (tcpPassiveInitialSequence index entry (sockets.slots index).generation segment.sequenceNumber
      sockets.currentTick) segment.view sockets.currentTick tcpRetransmissionPolicy
  if transition.accepted = false then sockets
  else
    let (sent, after) := sockets.transmitIfAny listener.localPort segment.source transition.outbound
    after.setListener index (listener.setPending entry
      (if sent then { used := true, peer := segment.source, control := some control } else {}))

/-- The pending connection of the peer that sent the segment. -/
def pendingFor (listener : TcpListenerState) (segment : Segment) : Option Nat :=
  firstIndex listener.backlog fun entry =>
    (listener.pending entry).used && (listener.pending entry).peer == segment.source

def freePending (listener : TcpListenerState) : Option Nat :=
  firstIndex listener.backlog fun entry => !(listener.pending entry).used

def serviceTcpListenerSegment (sockets : Sockets) (index : Nat) (listener : TcpListenerState)
    (segment : Segment) : Sockets :=
  match pendingFor listener segment with
  | some entry => sockets.servicePending index listener entry segment
  | none =>
    if segment.flags ≠ flagSyn ∨ segment.payload ≠ [] then sockets
    else match freePending listener with
      | none => sockets
      | some entry => sockets.openPending index listener entry segment

/-- Wake whoever waits for a connection when there is one. -/
def wakeAcceptors (sockets : Sockets) (index : Nat) : Sockets :=
  if (sockets.slots index).listener.any tcpListenerReady then sockets.wakeSlot .socketRead index
  else sockets

/-- One segment of the service pass. -/
def serviceSegment (sockets : Sockets) (segment : Segment) : Sockets :=
  match sockets.connectionFor segment with
  | some index =>
    match (sockets.slots index).tcp with
    | none => sockets
    | some connection =>
      if connection.status = .connecting then sockets.serviceConnecting index connection segment
      else sockets.serviceEstablished index connection segment
  | none =>
    match sockets.listenerFor segment with
    | none => sockets
    | some index =>
      match (sockets.slots index).listener with
      | none => sockets
      | some listener =>
        (sockets.serviceTcpListenerSegment index listener segment).wakeAcceptors index

/-- The timer of a connection that is being made. -/
def timeConnection (sockets : Sockets) (index : Nat) : Sockets :=
  let slot := sockets.slots index
  match slot.tcp with
  | none => sockets
  | some connection =>
    if slot.used = false ∨ slot.protocol ≠ .tcp ∨ connection.status ≠ .connecting then sockets
    else
      let (timer, control) := connection.control.onTimer sockets.currentTick
      let (sent, after) := sockets.transmitIfAny connection.localPort connection.peer
        (if timer.action = .retransmitSyn then timer.outbound else none)
      let status := if timer.action = .timedOut then .timedOut
        else if sent then connection.status else .ioFailed
      let moved := after.setConnection index { connection with control := control, status := status }
      if status ≠ .connecting then moved.wakeSlot .socketWrite index else moved

/-- The timer of a pending connection. -/
def timePending (sockets : Sockets) (index entry : Nat) : Sockets :=
  let slot := sockets.slots index
  match slot.listener with
  | none => sockets
  | some listener =>
    let pending := listener.pending entry
    if slot.used = false ∨ slot.protocol ≠ .tcp ∨ entry ≥ listener.backlog ∨ pending.used = false then
      sockets
    else match pending.control with
      | none => sockets.setListener index (listener.setPending entry {})
      | some control =>
        if control.state ≠ .synReceived then sockets
        else
          let (timer, control) := control.onTimer sockets.currentTick
          let kept := listener.setPending entry { pending with control := some control }
          let (sent, after) := sockets.transmitIfAny listener.localPort pending.peer
            (if timer.action = .retransmitSynAck then timer.outbound else none)
          if sent = false ∨ timer.action = .timedOut then
            after.setListener index (listener.setPending entry {})
          else after.setListener index kept

/-- The pass over the segments that have come in, at most eight frames, of which those that do not
parse are dropped, and then over all timers. -/
def serviceTcpConnects (sockets : Sockets) (packets : List (Option Segment)) : Sockets :=
  let served := ((packets.take 8).filterMap id).foldl serviceSegment sockets
  let timed := (List.range maximumSocketSlots).foldl timeConnection served
  (List.range maximumSocketSlots).foldl (fun timed index =>
    (List.range maximumTcpBacklog).foldl (fun timed entry => timed.timePending index entry) timed) timed

/-- The part of the network pass that serves TCP. -/
def serviceNetwork (sockets : Sockets) (packets : List (Option Segment)) : Sockets :=
  if sockets.device.isNone then sockets else sockets.serviceTcpConnects packets

end Sockets

end ZigOs.RuntimeUser
