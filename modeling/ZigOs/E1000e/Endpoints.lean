/-
This file shows what calls do to a device. A call leaves the endpoints and their
terms alone and changes queues only, or it opens, closes, connects or
disconnects one endpoint. In the second case the endpoint holds nothing before
and after, so what waits in a queue always fits the terms of its endpoint.
-/

import ZigOs.E1000e.Routing

namespace ZigOs.E1000e

open Scan Function SoftwarePacketQueue

/-- The calls on a device. -/
inductive Operation where
  | receiveFrame (frame : Packet)
  | dispatchPacketBatch (budget : Nat)
  | dequeueArpPacket
  | dequeueIcmpPacket
  | dequeueTcpPacket
  | registerUdpEndpoint (port : Nat)
  | unregisterUdpEndpoint (index : Nat)
  | openUdpSocket (port : Nat)
  | openEphemeralUdpSocket
  | connectUdpSocket (socket : UdpSocket) (peer : UdpPeer)
  | disconnectUdpSocket (socket : UdpSocket)
  | closeUdpSocket (socket : UdpSocket)
  | closeUdpSocketDiscarding (socket : UdpSocket)
  | receiveUdpInto (socket : UdpSocket) (capacity : Nat)
  | receiveUdpDatagram (socket : UdpSocket)

def Operation.next (operation : Operation) (device : Device) : Device :=
  match operation with
  | .receiveFrame frame => (device.receiveFrame frame).2
  | .dispatchPacketBatch budget => (device.dispatchPacketBatch budget).2
  | .dequeueArpPacket => (device.dequeuePacketOf .arp).2
  | .dequeueIcmpPacket => (device.dequeuePacketOf .icmp).2
  | .dequeueTcpPacket => (device.dequeuePacketOf .tcp).2
  | .registerUdpEndpoint port => (device.registerUdpEndpoint port).2
  | .unregisterUdpEndpoint index => (device.unregisterUdpEndpoint index).2
  | .openUdpSocket port => (device.openUdpSocket port).2
  | .openEphemeralUdpSocket => device.openEphemeralUdpSocket.2
  | .connectUdpSocket socket peer => (device.connectUdpSocket socket peer).2
  | .disconnectUdpSocket socket => (device.disconnectUdpSocket socket).2
  | .closeUdpSocket socket => (device.closeUdpSocket socket).2
  | .closeUdpSocketDiscarding socket => (device.closeUdpSocketDiscarding socket).2
  | .receiveUdpInto socket capacity => (device.receiveUdpInto socket capacity).2
  | .receiveUdpDatagram socket => (device.receiveUdpDatagram socket).2

namespace Device

variable {device : Device}

/-! ### One endpoint changes its terms -/

/-- Nothing but one endpoint differs, as far as packets are concerned. -/
structure Replaced (before : Device) (index : Nat) (endpoint : UdpEndpoint) (after : Device) : Prop where
  endpoints : after.udpEndpoints = update before.udpEndpoints index endpoint
  localMac : after.localMac = before.localMac
  localIpv4 : after.localIpv4 = before.localIpv4
  software : after.softwareRxQueue = before.softwareRxQueue
  arp : after.arpRxQueue = before.arpRxQueue
  icmp : after.icmpRxQueue = before.icmpRxQueue
  tcp : after.tcpRxQueue = before.tcpRxQueue
  packetsDropped : after.packetsDropped = before.packetsDropped

variable {after : Device} {index : Nat} {endpoint : UdpEndpoint}

theorem Replaced.self
    (replaced : Replaced device index endpoint after) : after.udpEndpoints index = endpoint := by
  rw [replaced.endpoints, update_self]

theorem Replaced.other {other : Nat} (replaced : Replaced device index endpoint after)
    (different : other ≠ index) : after.udpEndpoints other = device.udpEndpoints other := by
  rw [replaced.endpoints, update_of_ne different]

theorem Replaced.queueOf (replaced : Replaced device index endpoint after) {route : Route}
    (different : route ≠ .endpoint index) : after.queueOf route = device.queueOf route := by
  cases route with
  | arp => exact replaced.arp
  | icmp => exact replaced.icmp
  | tcp => exact replaced.tcp
  | endpoint other =>
    exact congrArg UdpEndpoint.queue (replaced.other fun same => different (congrArg Route.endpoint same))

/-- The port is not that of another endpoint. -/
def FreePort (device : Device) (index port : Nat) : Prop :=
  ∀ other < udpEndpointCapacity, other ≠ index → (device.udpEndpoints other).active = true →
    (device.udpEndpoints other).port ≠ port

theorem Replaced.sound (replaced : Replaced device index endpoint after) (sound : device.Sound)
    (range : endpoint.queue.InRange) (empty : endpoint.queue.packets = [])
    (free : endpoint.active = true → device.FreePort index endpoint.port) : after.Sound := by
  refine ⟨by rw [replaced.software]; exact sound.software, fun route => ?_, ?_, ?_, ?_⟩
  · by_cases here : route = .endpoint index
    · rw [here]
      show (after.udpEndpoints index).queue.InRange
      rwa [replaced.self]
    · rw [replaced.queueOf here]
      exact sound.queues route
  · intro first belowFirst second belowSecond
    by_cases hereFirst : first = index
    · by_cases hereSecond : second = index
      · intros
        exact hereFirst.trans hereSecond.symm
      · rw [hereFirst, replaced.self, replaced.other hereSecond]
        intro active activeSecond same
        exact absurd same.symm (free active second belowSecond hereSecond activeSecond)
    · by_cases hereSecond : second = index
      · rw [hereSecond, replaced.self, replaced.other hereFirst]
        intro activeFirst active same
        exact absurd same (free active first belowFirst hereFirst activeFirst)
      · rw [replaced.other hereFirst, replaced.other hereSecond]
        exact sound.apart first belowFirst second belowSecond
  · intro other
    by_cases here : other = index
    · rw [here, replaced.self, empty]
      intro _ packet member
      cases member
    · intro active packet member
      have before := replaced.other here
      rw [before] at active member
      have wanted := sound.fits other active packet member
      unfold wants localOptions at wanted ⊢
      rwa [replaced.localMac, replaced.localIpv4, before]
  · intro other
    by_cases here : other = index
    · rw [here, replaced.self]
      intro _
      exact empty
    · rw [replaced.other here]
      exact sound.idle other

/-- Opening, closing, connecting and disconnecting: at most one endpoint changes. It holds nothing,
and it is new or keeps its queue, unless it is gone. -/
inductive Rearranged (before : Device) : Device → Prop
  | same : Rearranged before before
  | one {after : Device} (index : Nat) (endpoint : UdpEndpoint)
    (replaced : Replaced before index endpoint after) (range : endpoint.queue.InRange)
    (empty : endpoint.queue.packets = [])
    (free : endpoint.active = true → before.FreePort index endpoint.port)
    (queue : endpoint.active = true →
      (before.udpEndpoints index).active = true ∧ endpoint.queue = (before.udpEndpoints index).queue ∨
        (before.udpEndpoints index).active = false ∧ endpoint.queue = {}) :
    Rearranged before after

theorem Rearranged.sound (rearranged : Rearranged device after) (sound : device.Sound) :
    after.Sound := by
  cases rearranged with
  | same => exact sound
  | one index endpoint replaced range empty free => exact replaced.sound sound range empty free

variable {port : Nat}

/-- A fresh endpoint on a free port. -/
theorem rearranged_open {generation : Nat}
    (replaced : Replaced device index { active := true, port, generation } after)
    (inactive : (device.udpEndpoints index).active = false) (free : device.FreePort index port) :
    Rearranged device after :=
  .one index _ replaced fresh_range fresh_packets (fun _ => free)
    fun _ => .inr ⟨inactive, rfl⟩

theorem rearranged_closed (replaced : Replaced device index {} after) : Rearranged device after :=
  .one index _ replaced fresh_range fresh_packets
    (fun active => nomatch active) (fun active => nomatch active)

theorem freePort_of_findUdpEndpoint (missing : device.findUdpEndpoint port = none)
    (index : Nat) : device.FreePort index port := by
  intro other below _ active same
  have unmatched := firstIndex_eq_none.mp missing other below
  rw [active, same] at unmatched
  simp at unmatched

theorem registerUdpEndpoint_rearranged (device : Device) (port : Nat) :
    Rearranged device (device.registerUdpEndpoint port).2 := by
  unfold registerUdpEndpoint
  split
  · exact .same
  · split
    · exact .same
    · rename_i missing
      split
      · exact .same
      · rename_i index vacant
        have inactive : (device.udpEndpoints index).active = false := by
          simpa using firstIndex_test vacant
        exact rearranged_open ⟨rfl, rfl, rfl, rfl, rfl, rfl, rfl, rfl⟩ inactive
          (freePort_of_findUdpEndpoint missing index)

theorem unregisterUdpEndpoint_rearranged (device : Device) (index : Nat) :
    Rearranged device (device.unregisterUdpEndpoint index).2 := by
  unfold unregisterUdpEndpoint
  dsimp only
  split
  · exact .same
  · exact rearranged_closed ⟨rfl, rfl, rfl, rfl, rfl, rfl, rfl, rfl⟩

theorem openUdpSocket_rearranged (device : Device) (port : Nat) :
    Rearranged device (device.openUdpSocket port).2 := by
  have registered := registerUdpEndpoint_rearranged device port
  unfold openUdpSocket
  split
  · rename_i after result
    rwa [result] at registered
  · rename_i after result
    rw [result] at registered
    dsimp only
    split
    · exact registered
    · exact registered

theorem unoccupiedPort_free {attempts candidate : Nat}
    (found : device.unoccupiedPort attempts candidate = some port) :
    device.findUdpEndpoint port = none := by
  induction attempts generalizing candidate with
  | zero => cases found
  | succ attempts hypothesis =>
    unfold unoccupiedPort at found
    split at found
    · rename_i unoccupied
      cases found
      exact Option.isNone_iff_eq_none.mp (by simpa [portOccupied] using unoccupied)
    · exact hypothesis found

/-- What the preview promises. -/
theorem previewEphemeralUdpSocketAllocation_free {preview : UdpEphemeralSocketAllocationPreview}
    (previewed : device.previewEphemeralUdpSocketAllocation = some preview) :
    preview.socket.endpointIndex < udpEndpointCapacity ∧
      (device.udpEndpoints preview.socket.endpointIndex).active = false ∧
        device.findUdpEndpoint preview.socket.localPort = none := by
  unfold previewEphemeralUdpSocketAllocation at previewed
  split at previewed
  · cases previewed
  · split at previewed
    · cases previewed
    · rename_i index vacant
      split at previewed
      · cases previewed
      · rename_i port unoccupied
        cases previewed
        exact ⟨firstIndex_lt vacant, by simpa using firstIndex_test vacant,
          unoccupiedPort_free unoccupied⟩

theorem openEphemeralUdpSocket_rearranged (device : Device) :
    Rearranged device device.openEphemeralUdpSocket.2 := by
  unfold openEphemeralUdpSocket
  split
  · exact .same
  · rename_i preview previewed
    obtain ⟨-, inactive, missing⟩ := previewEphemeralUdpSocketAllocation_free previewed
    unfold openEphemeralUdpSocketFromPreview
    dsimp only
    split
    · exact .same
    · split
      · exact .same
      · split
        · exact .same
        · exact rearranged_open ⟨rfl, rfl, rfl, rfl, rfl, rfl, rfl, rfl⟩ inactive
            (freePort_of_findUdpEndpoint missing _)

/-! ### Sockets -/

/-- A socket names an active endpoint with its port and generation. -/
theorem udpSocketEndpoint_eq_some {socket : UdpSocket} :
    device.udpSocketEndpoint socket = some index ↔
      socket.endpointIndex = index ∧ index < udpEndpointCapacity ∧ socket.generation ≠ 0 ∧
        socket.localPort ≠ 0 ∧ (device.udpEndpoints index).active = true ∧
          (device.udpEndpoints index).port = socket.localPort ∧
            (device.udpEndpoints index).generation = socket.generation := by
  unfold udpSocketEndpoint
  simp only [Option.ite_none_left_eq_some, Option.some.injEq, not_or, not_not, Nat.not_le,
    Bool.not_eq_false]
  constructor
  · rintro ⟨⟨below, generation, port⟩, ⟨active, samePort, sameGeneration⟩, rfl⟩
    exact ⟨rfl, below, generation, port, active, samePort, sameGeneration⟩
  · rintro ⟨rfl, below, generation, port, active, samePort, sameGeneration⟩
    exact ⟨⟨below, generation, port⟩, ⟨active, samePort, sameGeneration⟩, rfl⟩

/-- An endpoint that holds nothing may change its peer. -/
theorem Sound.rearranged_peer (sound : device.Sound) (below : index < udpEndpointCapacity)
    (active : (device.udpEndpoints index).active = true)
    (level : ¬ (device.udpEndpoints index).queue.head ≠ (device.udpEndpoints index).queue.tail)
    (peer : Option UdpPeer) :
    Rearranged device (device.setEndpoint index { device.udpEndpoints index with peer }) := by
  have range := sound.queues (.endpoint index)
  refine .one index _ ⟨rfl, rfl, rfl, rfl, rfl, rfl, rfl, rfl⟩ range ?_ (fun _ => ?_)
    fun _ => .inl ⟨active, rfl⟩
  · exact (empty_iff range).mp (not_not.mp level).symm
  · intro other belowOther different activeOther same
    exact different (sound.apart other belowOther index below activeOther active same)

theorem Sound.connectUdpSocket_rearranged (sound : device.Sound) (socket : UdpSocket) (peer : UdpPeer) :
    Rearranged device (device.connectUdpSocket socket peer).2 := by
  unfold connectUdpSocket
  split
  · exact .same
  · rename_i index located
    obtain ⟨-, below, -, -, active, -⟩ := udpSocketEndpoint_eq_some.mp located
    dsimp only
    split
    · exact .same
    · rename_i accepted
      split
      · exact .same
      · exact sound.rearranged_peer below active (not_or.mp accepted).2 (some peer)

theorem Sound.disconnectUdpSocket_rearranged (sound : device.Sound) (socket : UdpSocket) :
    Rearranged device (device.disconnectUdpSocket socket).2 := by
  unfold disconnectUdpSocket
  split
  · exact .same
  · rename_i index located
    obtain ⟨-, below, -, -, active, -⟩ := udpSocketEndpoint_eq_some.mp located
    dsimp only
    split
    · exact .same
    · rename_i accepted
      exact sound.rearranged_peer below active (not_or.mp accepted).2 none

theorem closeUdpSocket_rearranged (device : Device) (socket : UdpSocket) :
    Rearranged device (device.closeUdpSocket socket).2 := by
  unfold closeUdpSocket
  split
  · exact .same
  · exact unregisterUdpEndpoint_rearranged device _

end Device

/-- As many rounds as there are packets empty the queue. -/
theorem SoftwarePacketQueue.discard_empties {rounds : Nat} {queue : SoftwarePacketQueue}
    (range : queue.InRange) (enough : queue.packets.length ≤ rounds) :
    (queue.discard rounds).2.InRange ∧ (queue.discard rounds).2.packets = [] := by
  induction rounds generalizing queue with
  | zero => exact ⟨range, List.length_eq_zero_iff.mp (Nat.le_zero.mp enough)⟩
  | succ rounds hypothesis =>
    unfold discard
    by_cases empty : queue.packets = []
    · rw [dequeueQueuedPacket_empty range empty]
      exact ⟨range, empty⟩
    · rw [dequeueQueuedPacket_occupied range empty]
      refine hypothesis (advance_range range) ?_
      rw [packets_advance range empty] at enough
      exact Nat.le_of_succ_le_succ enough

namespace Device

variable {device : Device}

/-- Closing with what waits discarded always goes through. -/
theorem Sound.closeUdpSocketDiscarding_some (sound : device.Sound) {socket : UdpSocket} {index : Nat}
    (located : device.udpSocketEndpoint socket = some index) :
    (device.closeUdpSocketDiscarding socket).1.isSome = true ∧
      Replaced device index {} (device.closeUdpSocketDiscarding socket).2 := by
  obtain ⟨same, below, -, -, active, -⟩ := udpSocketEndpoint_eq_some.mp located
  have range : (device.udpEndpoints index).queue.InRange := sound.queues (.endpoint index)
  have short : (device.udpEndpoints index).queue.packets.length ≤ softwarePacketQueueCapacity := by
    rw [packets_length]
    exact Nat.le_of_lt (depth_lt _)
  obtain ⟨emptyRange, empty⟩ := discard_empties range short
  have level := (empty_iff emptyRange).mpr empty
  unfold closeUdpSocketDiscarding
  rw [located]
  dsimp only
  have queue : (device.setQueue (.endpoint index)
      ((device.udpEndpoints index).queue.discard softwarePacketQueueCapacity).2).udpEndpoints index =
      { device.udpEndpoints index with
        queue := ((device.udpEndpoints index).queue.discard softwarePacketQueueCapacity).2 } :=
    update_self ..
  have succeeds : ¬ (socket.endpointIndex ≥ udpEndpointCapacity ∨
      ((device.setQueue (.endpoint index) ((device.udpEndpoints index).queue.discard
        softwarePacketQueueCapacity).2).udpEndpoints socket.endpointIndex).active = false ∨
      ((device.setQueue (.endpoint index) ((device.udpEndpoints index).queue.discard
        softwarePacketQueueCapacity).2).udpEndpoints socket.endpointIndex).queue.head ≠
      ((device.setQueue (.endpoint index) ((device.udpEndpoints index).queue.discard
        softwarePacketQueueCapacity).2).udpEndpoints socket.endpointIndex).queue.tail) := by
    rw [same, queue, active]
    simp [below, level]
  unfold unregisterUdpEndpoint
  dsimp only
  rw [if_neg succeeds, same]
  refine ⟨rfl, ⟨?_, rfl, rfl, rfl, rfl, rfl, rfl, rfl⟩⟩
  exact update_idem ..

theorem Sound.closeUdpSocketDiscarding_rearranged (sound : device.Sound) (socket : UdpSocket) :
    Rearranged device (device.closeUdpSocketDiscarding socket).2 := by
  cases located : device.udpSocketEndpoint socket with
  | none =>
    unfold closeUdpSocketDiscarding
    rw [located]
    exact .same
  | some index => exact rearranged_closed (sound.closeUdpSocketDiscarding_some located).2

end Device

end ZigOs.E1000e
