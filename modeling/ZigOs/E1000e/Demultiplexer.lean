/-
This file models how the network driver hands received frames on. A frame waits
in one queue until it is dispatched: it is classified, checked, and put into the
queue of its protocol or of the UDP endpoint on its port, or it is counted as
dropped. Endpoints come and go, and may be connected to a peer, whose datagrams
alone they then take.
-/

import ZigOs.E1000e.Frames
import ZigOs.E1000e.PacketQueue

namespace ZigOs.E1000e

open Scan Function

abbrev udpEndpointCapacity : Nat := 4
abbrev ephemeralUdpPortFirst : Nat := 49152
abbrev ephemeralUdpPortLast : Nat := 65535
abbrev ephemeralUdpPortCount : Nat := ephemeralUdpPortLast - ephemeralUdpPortFirst + 1

structure UdpPeer where
  mac : Bytes
  ipv4 : Bytes
  port : Nat
  deriving DecidableEq, Repr

structure UdpEndpoint where
  active : Bool := false
  port : Nat := 0
  generation : Nat := 0
  peer : Option UdpPeer := none
  queue : SoftwarePacketQueue := {}

structure UdpSocket where
  endpointIndex : Nat
  generation : Nat
  localPort : Nat
  deriving DecidableEq, Repr

/-- The queues that dispatched packets go to. -/
inductive Route where
  | arp | icmp | tcp
  | endpoint (index : Nat)
  deriving DecidableEq, Repr

/-- The reasons to drop a packet that are counted beside the queues. -/
inductive Drop where
  | invalidTcp | invalidUdp | unmatchedUdp | peerMismatchUdp | unknown
  deriving DecidableEq, Repr

inductive PacketDispatchResult where
  | empty | routed | dropped
  deriving DecidableEq, Repr

structure PacketDispatchBatch where
  examined : Nat := 0
  routed : Nat := 0
  dropped : Nat := 0
  remaining : Nat
  deriving DecidableEq, Repr

structure Device where
  localMac : Bytes
  localIpv4 : Bytes
  softwareRxQueue : SoftwarePacketQueue := {}
  arpRxQueue : SoftwarePacketQueue := {}
  icmpRxQueue : SoftwarePacketQueue := {}
  tcpRxQueue : SoftwarePacketQueue := {}
  udpEndpoints : Nat → UdpEndpoint := fun _ => {}
  udpEndpointCount : Nat := 0
  nextUdpGeneration : Nat := 1
  nextEphemeralUdpPort : Nat := ephemeralUdpPortFirst
  packetsDropped : Drop → Nat := fun _ => 0
  packetsDispatched : Nat := 0
  kindDispatched : PacketKind → Nat := fun _ => 0

def Route.kind : Route → PacketKind
  | .arp => .arp
  | .icmp => .icmp
  | .tcp => .tcp
  | .endpoint _ => .udp

/-- The headers are those of a datagram from the peer. -/
def UdpPeer.sent (peer : UdpPeer) (headers : Headers) : Bool :=
  headers.sourceMac == peer.mac && headers.sourceIpv4 == peer.ipv4 && headers.sourcePort == peer.port

structure UdpEphemeralSocketAllocationPreview where
  socket : UdpSocket
  nextEphemeralPort : Nat
  nextGeneration : Nat
  deriving DecidableEq, Repr

structure UdpReceiveIntoResult where
  headers : Headers
  udpChecksumPresent : Bool
  payloadLength : Nat
  -- What was copied, and whether more did not fit.
  copied : Bytes
  truncated : Bool
  deriving DecidableEq, Repr

structure ReceivedUdpDatagram where
  packet : Packet
  headers : Headers
  udpChecksumPresent : Bool
  payloadOffset : Nat
  payloadLength : Nat
  deriving DecidableEq, Repr

structure UdpDiscardCloseResult where
  localPort : Nat
  generation : Nat
  wasConnected : Bool
  peerPort : Nat
  discardedPackets : Nat
  queueEnqueued : Nat
  queueDequeued : Nat
  queueHighWater : Nat
  queueDropped : Nat
  deriving DecidableEq, Repr

def validUdpPeer (peer : UdpPeer) : Bool :=
  peer.port != 0 && peer.mac.any (· != 0) && peer.ipv4.any (· != 0)

def nextEphemeralUdpPort (port : Nat) : Nat :=
  if port ≥ ephemeralUdpPortLast then ephemeralUdpPortFirst else port + 1

/-- Take packets out until none comes; a ring holds less than its capacity. -/
def SoftwarePacketQueue.discard : Nat → SoftwarePacketQueue → Nat × SoftwarePacketQueue
  | 0, queue => (0, queue)
  | rounds + 1, queue =>
    match queue.dequeueQueuedPacket with
    | none => (0, queue)
    | some (_, rest) => ((rest.discard rounds).1 + 1, (rest.discard rounds).2)

namespace Device

variable (device : Device)

/-! ### Parts -/

def setEndpoint (index : Nat) (endpoint : UdpEndpoint) : Device :=
  { device with udpEndpoints := update device.udpEndpoints index endpoint }

def queueOf : Route → SoftwarePacketQueue
  | .arp => device.arpRxQueue
  | .icmp => device.icmpRxQueue
  | .tcp => device.tcpRxQueue
  | .endpoint index => (device.udpEndpoints index).queue

def setQueue (route : Route) (queue : SoftwarePacketQueue) : Device :=
  match route with
  | .arp => { device with arpRxQueue := queue }
  | .icmp => { device with icmpRxQueue := queue }
  | .tcp => { device with tcpRxQueue := queue }
  | .endpoint index => device.setEndpoint index { device.udpEndpoints index with queue }

/-- Every frame has to be for this device. -/
def localOptions : ParseOptions :=
  { destinationMac := device.localMac, destinationIpv4 := device.localIpv4 }

/-- What the endpoint asks for: its port, and its peer if it has one. -/
def endpointOptions (endpoint : UdpEndpoint) : ParseOptions :=
  { destinationMac := device.localMac
    sourceMac := endpoint.peer.map UdpPeer.mac
    destinationIpv4 := device.localIpv4
    sourceIpv4 := endpoint.peer.map UdpPeer.ipv4
    destinationPort := some endpoint.port
    sourcePort := endpoint.peer.map UdpPeer.port }

def findUdpEndpoint (port : Nat) : Option Nat :=
  firstIndex udpEndpointCapacity fun index =>
    (device.udpEndpoints index).active && (device.udpEndpoints index).port == port

/-! ### Dispatching -/

/-- Where a packet belongs. -/
def route (packet : Packet) : Except Drop Route :=
  match classifyPacket packet.bytes with
  | .arp => .ok .arp
  | .icmp => .ok .icmp
  | .tcp =>
    match Tcp.parseFrame packet.bytes device.localOptions with
    | none => .error .invalidTcp
    | some _ => .ok .tcp
  | .udp =>
    match Udp.parseFrame packet.bytes device.localOptions with
    | none => .error .invalidUdp
    | some datagram =>
      match device.findUdpEndpoint datagram.headers.destinationPort with
      | none => .error .unmatchedUdp
      | some index =>
        if (device.udpEndpoints index).peer.any fun peer => !peer.sent datagram.headers then
          .error .peerMismatchUdp
        else .ok (.endpoint index)
  | .unknown => .error .unknown

def countDrop (reason : Drop) : Device :=
  { device with
    packetsDropped := update device.packetsDropped reason
      (countUp (device.packetsDropped reason)) }

def countDispatched (kind : PacketKind) : Device :=
  { device with
    packetsDispatched := countUp device.packetsDispatched
    kindDispatched := update device.kindDispatched kind
      (countUp (device.kindDispatched kind)) }

/-- Put a packet where it belongs. -/
def place (packet : Packet) : PacketDispatchResult × Device :=
  match device.route packet with
  | .error reason => (.dropped, device.countDrop reason)
  | .ok route =>
    let (placed, queue) := (device.queueOf route).enqueueQueuedPacket packet
    if placed = false then (.dropped, device.setQueue route queue)
    else (.routed, (device.setQueue route queue).countDispatched route.kind)

def dispatchNextPacketResult : PacketDispatchResult × Device :=
  match device.softwareRxQueue.dequeueQueuedPacket with
  | none => (.empty, device)
  | some (packet, queue) => place { device with softwareRxQueue := queue } packet

def dispatchWithin : Nat → PacketDispatchBatch → Device → PacketDispatchBatch × Device
  | 0, batch, device => (batch, device)
  | budget + 1, batch, device =>
    match device.dispatchNextPacketResult with
    | (.empty, after) => (batch, after)
    | (.routed, after) =>
      dispatchWithin budget
        { batch with examined := batch.examined + 1, routed := batch.routed + 1 } after
    | (.dropped, after) =>
      dispatchWithin budget
        { batch with examined := batch.examined + 1, dropped := batch.dropped + 1 } after

def dispatchPacketBatch (budget : Nat) : PacketDispatchBatch × Device :=
  let (batch, after) := dispatchWithin budget { remaining := device.softwareRxQueue.queueDepth } device
  ({ batch with remaining := after.softwareRxQueue.queueDepth }, after)

/-- A frame arrives. -/
def receiveFrame (frame : Packet) : Bool × Device :=
  let (enqueued, queue) := device.softwareRxQueue.enqueueSoftwarePacket frame
  (enqueued, { device with softwareRxQueue := queue })

/-- Take the next packet of a protocol. -/
def dequeuePacketOf (route : Route) : Option Packet × Device :=
  match (device.queueOf route).dequeueQueuedPacket with
  | none => (none, device)
  | some (packet, queue) => (some packet, device.setQueue route queue)

/-! ### Endpoints -/

/-- Generations skip zero, also where they wrap. -/
def nextGeneration : Nat := if device.nextUdpGeneration = 0 then 1 else device.nextUdpGeneration

/-- An endpoint that has just been opened. -/
def opened (index port : Nat) : Device :=
  { device.setEndpoint index { active := true, port, generation := device.nextGeneration } with
    udpEndpointCount := device.udpEndpointCount + 1
    nextUdpGeneration := nextNonzero 32 device.nextGeneration }

def registerUdpEndpoint (port : Nat) : Option Nat × Device :=
  if port = 0 then (none, device)
  else
    match device.findUdpEndpoint port with
    | some index => (some index, device)
    | none =>
      match firstIndex udpEndpointCapacity fun index => !(device.udpEndpoints index).active with
      | none => (none, device)
      | some index => (some index, device.opened index port)

def unregisterUdpEndpoint (index : Nat) : Bool × Device :=
  let endpoint := device.udpEndpoints index
  if index ≥ udpEndpointCapacity ∨ endpoint.active = false ∨
      endpoint.queue.head ≠ endpoint.queue.tail then (false, device)
  else (true, { device.setEndpoint index {} with udpEndpointCount := device.udpEndpointCount - 1 })

def openUdpSocket (port : Nat) : Option UdpSocket × Device :=
  match device.registerUdpEndpoint port with
  | (none, after) => (none, after)
  | (some index, after) =>
    let endpoint := after.udpEndpoints index
    if endpoint.active = false ∨ endpoint.port ≠ port ∨ endpoint.generation = 0 then (none, after)
    else
      (some { endpointIndex := index, generation := endpoint.generation, localPort := port }, after)

def portOccupied (port : Nat) : Bool := (device.findUdpEndpoint port).isSome

/-- The first port from the candidate on that no endpoint has, within so many attempts. -/
def unoccupiedPort : Nat → Nat → Option Nat
  | 0, _ => none
  | attempts + 1, candidate =>
    if device.portOccupied candidate = false then some candidate
    else unoccupiedPort attempts (E1000e.nextEphemeralUdpPort candidate)

def previewEphemeralUdpSocketAllocation : Option UdpEphemeralSocketAllocationPreview :=
  if device.udpEndpointCount ≥ udpEndpointCapacity then none
  else
    match firstIndex udpEndpointCapacity fun index => !(device.udpEndpoints index).active with
    | none => none
    | some index =>
      match device.unoccupiedPort ephemeralUdpPortCount
          (max device.nextEphemeralUdpPort ephemeralUdpPortFirst) with
      | none => none
      | some port =>
        some
          { socket :=
              { endpointIndex := index, generation := device.nextGeneration, localPort := port }
            nextEphemeralPort := E1000e.nextEphemeralUdpPort port
            nextGeneration := nextNonzero 32 device.nextGeneration }

def openEphemeralUdpSocketFromPreview (preview : UdpEphemeralSocketAllocationPreview) :
    Option UdpSocket × Device :=
  let socket := preview.socket
  if device.previewEphemeralUdpSocketAllocation ≠ some preview then (none, device)
  else if socket.endpointIndex ≥ udpEndpointCapacity ∨ socket.localPort = 0 then (none, device)
  else if (device.udpEndpoints socket.endpointIndex).active then (none, device)
  else
    (some socket,
      { device.setEndpoint socket.endpointIndex
          { active := true, port := socket.localPort, generation := socket.generation } with
        udpEndpointCount := device.udpEndpointCount + 1
        nextEphemeralUdpPort := preview.nextEphemeralPort
        nextUdpGeneration := preview.nextGeneration })

def openEphemeralUdpSocket : Option UdpSocket × Device :=
  match device.previewEphemeralUdpSocketAllocation with
  | none => (none, device)
  | some preview => device.openEphemeralUdpSocketFromPreview preview

/-! ### Sockets -/

/-- The index of the endpoint that a socket names. -/
def udpSocketEndpoint (socket : UdpSocket) : Option Nat :=
  let endpoint := device.udpEndpoints socket.endpointIndex
  if socket.endpointIndex ≥ udpEndpointCapacity ∨ socket.generation = 0 ∨ socket.localPort = 0 then none
  else if endpoint.active = false ∨ endpoint.port ≠ socket.localPort ∨
      endpoint.generation ≠ socket.generation then none
  else some socket.endpointIndex

def udpSocketReadable (socket : UdpSocket) : Bool :=
  match device.udpSocketEndpoint socket with
  | none => false
  | some index => (device.udpEndpoints index).queue.queueDepth != 0

def queuedUdpDatagram (endpoint : UdpEndpoint) : Option Datagram :=
  let queue := endpoint.queue
  if queue.tail = queue.head then none
  else Udp.parseFrame (queue.entries queue.tail).bytes (device.endpointOptions endpoint)

/-- The datagram as it is copied into a buffer. -/
def copyInto (capacity : Nat) (datagram : Datagram) : UdpReceiveIntoResult where
  headers := datagram.headers
  udpChecksumPresent := datagram.udpChecksumPresent
  payloadLength := datagram.payload.length
  copied := datagram.payload.take capacity
  truncated := min capacity datagram.payload.length != datagram.payload.length

def receiveUdpInto (socket : UdpSocket) (capacity : Nat) : Option UdpReceiveIntoResult × Device :=
  match device.udpSocketEndpoint socket with
  | none => (none, device)
  | some index =>
    let endpoint := device.udpEndpoints index
    match device.queuedUdpDatagram endpoint with
    | none => (none, device)
    | some datagram =>
      (some (copyInto capacity datagram),
        device.setQueue (.endpoint index) endpoint.queue.advance)

/-- The datagram with the packet it came in. -/
def withPacket (packet : Packet) (datagram : Datagram) : ReceivedUdpDatagram where
  packet := packet
  headers := datagram.headers
  udpChecksumPresent := datagram.udpChecksumPresent
  payloadOffset := datagram.payloadOffset
  payloadLength := datagram.payload.length

def receiveUdpDatagram (socket : UdpSocket) : Option ReceivedUdpDatagram × Device :=
  match device.udpSocketEndpoint socket with
  | none => (none, device)
  | some index =>
    let endpoint := device.udpEndpoints index
    match endpoint.queue.dequeueQueuedPacket with
    | none => (none, device)
    | some (packet, queue) =>
      let after := device.setQueue (.endpoint index) queue
      match Udp.parseFrame packet.bytes (device.endpointOptions endpoint) with
      | none => (none, after)
      | some datagram =>
        if datagram.payloadOffset > packet.bytes.length ∨
            datagram.payload.length > packet.bytes.length - datagram.payloadOffset then (none, after)
        else (some (withPacket packet datagram), after)

def connectUdpSocket (socket : UdpSocket) (peer : UdpPeer) : Bool × Device :=
  match device.udpSocketEndpoint socket with
  | none => (false, device)
  | some index =>
    let endpoint := device.udpEndpoints index
    if validUdpPeer peer = false ∨ endpoint.queue.head ≠ endpoint.queue.tail then (false, device)
    else
      match endpoint.peer with
      | some bound => (bound == peer, device)
      | none => (true, device.setEndpoint index { endpoint with peer := some peer })

def disconnectUdpSocket (socket : UdpSocket) : Bool × Device :=
  match device.udpSocketEndpoint socket with
  | none => (false, device)
  | some index =>
    let endpoint := device.udpEndpoints index
    if endpoint.peer = none ∨ endpoint.queue.head ≠ endpoint.queue.tail then (false, device)
    else (true, device.setEndpoint index { endpoint with peer := none })

def closeUdpSocket (socket : UdpSocket) : Bool × Device :=
  match device.udpSocketEndpoint socket with
  | none => (false, device)
  | some _ => device.unregisterUdpEndpoint socket.endpointIndex

def closeUdpSocketDiscarding (socket : UdpSocket) : Option UdpDiscardCloseResult × Device :=
  match device.udpSocketEndpoint socket with
  | none => (none, device)
  | some index =>
    let endpoint := device.udpEndpoints index
    let (discardedPackets, queue) := endpoint.queue.discard softwarePacketQueueCapacity
    let emptied := device.setQueue (.endpoint index) queue
    match emptied.unregisterUdpEndpoint socket.endpointIndex with
    | (false, after) => (none, after)
    | (true, after) =>
      (some
        { localPort := endpoint.port
          generation := endpoint.generation
          wasConnected := endpoint.peer.isSome
          peerPort := endpoint.peer.elim 0 UdpPeer.port
          discardedPackets
          queueEnqueued := endpoint.queue.enqueued
          queueDequeued := queue.dequeued
          queueHighWater := endpoint.queue.highWater
          queueDropped := endpoint.queue.dropped }, after)

end Device

end ZigOs.E1000e
