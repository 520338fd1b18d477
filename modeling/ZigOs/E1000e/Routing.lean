/-
This file shows where dispatching puts a packet. Each packet ends in one queue or
in one counter. A datagram reaches an endpoint exactly when it is valid, has the
endpoint's port and comes from its peer if it has one. So everything that waits in
the queue of an endpoint still parses when it is received, as long as an endpoint
changes its peer only while it holds nothing.
-/

import ZigOs.E1000e.Demultiplexer

namespace ZigOs.E1000e

open Scan Function

/-- What becomes of a dispatched packet: it goes into a queue, finds it full, or is counted. -/
inductive Fate where
  | placed (route : Route)
  | full (route : Route)
  | dropped (reason : Drop)
  deriving DecidableEq

namespace Device

variable {device : Device}

/-! ### Queues -/

@[simp] theorem queueOf_setQueue_self (device : Device) (route : Route) (queue : SoftwarePacketQueue) :
    (device.setQueue route queue).queueOf route = queue := by
  cases route with
  | arp => rfl
  | icmp => rfl
  | tcp => rfl
  | endpoint index =>
    show (update device.udpEndpoints index _ index).queue = queue
    rw [update_self]

variable {route : Route}

theorem queueOf_setQueue_other (device : Device) {other : Route} (queue : SoftwarePacketQueue)
    (different : other ≠ route) : (device.setQueue route queue).queueOf other = device.queueOf other := by
  cases route with
  | endpoint index =>
    cases other with
    | endpoint second =>
      have apart : second ≠ index := fun same => different (congrArg Route.endpoint same)
      show (update device.udpEndpoints index _ second).queue = _
      rw [update_of_ne apart]
      rfl
    | _ => rfl
  | _ =>
    cases other with
    | endpoint second => rfl
    | _ => first | rfl | exact absurd rfl different

@[simp] theorem queueOf_countDrop (device : Device) (reason : Drop) (route : Route) :
    (device.countDrop reason).queueOf route = device.queueOf route := by
  cases route <;> rfl

@[simp] theorem queueOf_countDispatched (device : Device) (kind : PacketKind) (route : Route) :
    (device.countDispatched kind).queueOf route = device.queueOf route := by
  cases route <;> rfl

@[simp] theorem setQueue_packetsDropped (device : Device) (route : Route) (queue : SoftwarePacketQueue) :
    (device.setQueue route queue).packetsDropped = device.packetsDropped := by
  cases route <;> rfl

@[simp] theorem setQueue_softwareRxQueue (device : Device) (route : Route)
    (queue : SoftwarePacketQueue) :
    (device.setQueue route queue).softwareRxQueue = device.softwareRxQueue := by
  cases route <;> rfl

/-- The addresses, and for each endpoint everything but its queue. -/
structure SameTerms (before after : Device) : Prop where
  localMac : after.localMac = before.localMac
  localIpv4 : after.localIpv4 = before.localIpv4
  active : ∀ index, (after.udpEndpoints index).active = (before.udpEndpoints index).active
  port : ∀ index, (after.udpEndpoints index).port = (before.udpEndpoints index).port
  generation : ∀ index, (after.udpEndpoints index).generation = (before.udpEndpoints index).generation
  peer : ∀ index, (after.udpEndpoints index).peer = (before.udpEndpoints index).peer

variable {before after : Device}

theorem sameTerms_of (localMac : after.localMac = before.localMac)
    (localIpv4 : after.localIpv4 = before.localIpv4)
    (udpEndpoints : after.udpEndpoints = before.udpEndpoints) : SameTerms before after := by
  refine ⟨localMac, localIpv4, ?_, ?_, ?_, ?_⟩
  all_goals
    intro index
    rw [udpEndpoints]

theorem SameTerms.trans {before middle after : Device} (first : SameTerms before middle)
    (second : SameTerms middle after) : SameTerms before after where
  localMac := second.localMac.trans first.localMac
  localIpv4 := second.localIpv4.trans first.localIpv4
  active index := (second.active index).trans (first.active index)
  port index := (second.port index).trans (first.port index)
  generation index := (second.generation index).trans (first.generation index)
  peer index := (second.peer index).trans (first.peer index)

theorem sameTerms_setQueue (device : Device) (route : Route) (queue : SoftwarePacketQueue) :
    SameTerms device (device.setQueue route queue) := by
  cases route with
  | endpoint index =>
    have each {Value : Type} (part : UdpEndpoint → Value)
        (same : part { device.udpEndpoints index with queue } = part (device.udpEndpoints index))
        (other : Nat) : part ((device.setQueue (.endpoint index) queue).udpEndpoints other) =
          part (device.udpEndpoints other) := by
      show part (update device.udpEndpoints index _ other) = _
      by_cases here : other = index
      · rwa [here, update_self]
      · rw [update_of_ne here]
    exact ⟨rfl, rfl, each UdpEndpoint.active rfl, each UdpEndpoint.port rfl,
      each UdpEndpoint.generation rfl, each UdpEndpoint.peer rfl⟩
  | _ => exact sameTerms_of rfl rfl rfl

/-! ### What an endpoint takes -/

/-- The packet is a valid datagram for the endpoint, and from its peer if it has one. -/
def wants (device : Device) (index : Nat) (packet : Packet) : Bool :=
  (device.udpEndpoints index).active &&
    (Udp.parseFrame packet.bytes device.localOptions).any fun datagram =>
      datagram.headers.destinationPort == (device.udpEndpoints index).port &&
        (device.udpEndpoints index).peer.all fun peer => peer.sent datagram.headers

theorem SameTerms.wants (same : SameTerms before after) (index : Nat)
    (packet : Packet) : after.wants index packet = before.wants index packet := by
  unfold Device.wants localOptions
  rw [same.localMac, same.localIpv4, same.active, same.port, same.peer]

theorem endpointOptions_admits (device : Device) (endpoint : UdpEndpoint) (headers : Headers) :
    (device.endpointOptions endpoint).Admits headers ↔ headers.destinationPort = endpoint.port ∧
        endpoint.peer.all (fun peer => peer.sent headers) = true := by
  unfold ParseOptions.Admits endpointOptions refused UdpPeer.sent
  cases endpoint.peer with
  | none =>
    simp only [Option.map_none, Option.any_none, Option.any_some, Option.all_none, true_and, and_true,
      bne_eq_false_iff_eq]
    exact eq_comm
  | some peer =>
    simp only [Option.map_some, Option.any_some, Option.all_some, bne_eq_false_iff_eq,
      Bool.and_eq_true, beq_iff_eq]
    tauto

variable {index : Nat} {packet : Packet}

/-- What an endpoint takes is what parses with everything the endpoint asks for. -/
theorem wants_iff : device.wants index packet = true ↔ (device.udpEndpoints index).active = true ∧
      ∃ datagram, Udp.parseFrame packet.bytes device.localOptions = some datagram ∧
        Udp.parseFrame packet.bytes (device.endpointOptions (device.udpEndpoints index)) =
          some datagram := by
  unfold wants
  simp only [Bool.and_eq_true, Option.any_eq_true_iff_get, beq_iff_eq]
  constructor
  · rintro ⟨active, found, port, peer⟩
    obtain ⟨datagram, parsed⟩ := Option.isSome_iff_exists.mp found
    simp only [parsed, Option.get_some] at port peer
    refine ⟨active, datagram, parsed, Udp.parseFrame_iff.mpr ⟨parsed, ?_⟩⟩
    exact (endpointOptions_admits device _ _).mpr ⟨port, peer⟩
  · rintro ⟨active, datagram, parsed, full⟩
    obtain ⟨-, admits⟩ := Udp.parseFrame_iff.mp full
    obtain ⟨port, peer⟩ := (endpointOptions_admits device _ _).mp admits
    refine ⟨active, by rw [parsed]; rfl, ?_, ?_⟩
    · simp only [parsed, Option.get_some]
      exact port
    · simp only [parsed, Option.get_some]
      exact peer

/-! ### Well-formed devices -/

/-- The cursors are inside the rings, no two endpoints share a port, and what waits in the queue of
an endpoint is what the endpoint takes. -/
structure Sound (device : Device) : Prop where
  software : device.softwareRxQueue.InRange
  queues : ∀ route, (device.queueOf route).InRange
  apart : ∀ first < udpEndpointCapacity, ∀ second < udpEndpointCapacity,
    (device.udpEndpoints first).active = true → (device.udpEndpoints second).active = true →
      (device.udpEndpoints first).port = (device.udpEndpoints second).port → first = second
  fits : ∀ index, (device.udpEndpoints index).active = true →
    ∀ packet ∈ (device.udpEndpoints index).queue.packets, device.wants index packet = true
  idle : ∀ index, (device.udpEndpoints index).active = false →
    (device.udpEndpoints index).queue.packets = []

/-- The endpoint on a port is the one that is found. -/
theorem Sound.findUdpEndpoint (sound : device.Sound) (below : index < udpEndpointCapacity)
    (active : (device.udpEndpoints index).active = true) :
    device.findUdpEndpoint (device.udpEndpoints index).port = some index := by
  obtain ⟨first, found⟩ : ∃ first,
      device.findUdpEndpoint (device.udpEndpoints index).port = some first :=
    exists_firstIndex below (by simp [active])
  have inside := firstIndex_lt found
  have matches' := firstIndex_test found
  simp only [Bool.and_eq_true, beq_iff_eq] at matches'
  rw [found, sound.apart first inside index below matches'.1 active matches'.2]

/-- A packet is for an endpoint exactly when the endpoint takes it. -/
theorem Sound.route_endpoint (sound : device.Sound) : device.route packet = .ok (.endpoint index) ↔
      index < udpEndpointCapacity ∧ device.wants index packet = true := by
  constructor
  · intro routed
    unfold route at routed
    split at routed
    · cases routed
    · cases routed
    · split at routed
      · cases routed
      · cases routed
    · split at routed
      · cases routed
      · rename_i datagram parsed
        split at routed
        · cases routed
        · rename_i found located
          split at routed
          · cases routed
          · rename_i friendly
            obtain rfl : found = index := Route.endpoint.inj (Except.ok.inj routed)
            have matches' := firstIndex_test located
            simp only [Bool.and_eq_true, beq_iff_eq] at matches'
            refine ⟨firstIndex_lt located, ?_⟩
            unfold wants
            rw [matches'.1, parsed, Bool.true_and, Option.any_some, Bool.and_eq_true, beq_iff_eq]
            refine ⟨matches'.2.symm, ?_⟩
            cases peer : (device.udpEndpoints found).peer with
            | none => rfl
            | some bound =>
              rw [peer] at friendly
              simpa using friendly
    · cases routed
  · rintro ⟨below, wanted⟩
    obtain ⟨active, datagram, parsed, full⟩ := wants_iff.mp wanted
    obtain ⟨port, peer⟩ := (endpointOptions_admits device _ _).mp (Udp.parseFrame_iff.mp full).2
    have friendly : (device.udpEndpoints index).peer.any
        (fun peer => !peer.sent datagram.headers) = false := by
      cases bound : (device.udpEndpoints index).peer with
      | none => rfl
      | some other =>
        rw [bound] at peer
        simpa using peer
    unfold route
    simp only [Udp.classifyPacket_of_parseFrame parsed, parsed, port,
      sound.findUdpEndpoint below active, friendly]
    rfl

/-! ### One packet, one fate -/

def fate (device : Device) (packet : Packet) : Fate :=
  match device.route packet with
  | .error reason => .dropped reason
  | .ok route =>
    if (device.queueOf route).packets.length + 1 = softwarePacketQueueCapacity then .full route
    else .placed route

/-- The packet is in the one queue of its fate or in the one counter, and nothing else has changed. -/
structure Settled (before : Device) (packet : Packet) (fate : Fate) (after : Device) : Prop where
  placed : ∀ route, (after.queueOf route).packets =
    (before.queueOf route).packets ++ if fate = .placed route then [packet] else []
  full : ∀ route, (after.queueOf route).dropped =
    if fate = .full route then countUp (before.queueOf route).dropped
    else (before.queueOf route).dropped
  dropped : ∀ reason, after.packetsDropped reason =
    if fate = .dropped reason then countUp (before.packetsDropped reason)
    else before.packetsDropped reason
  waiting : after.softwareRxQueue = before.softwareRxQueue
  terms : SameTerms before after

variable {queue : SoftwarePacketQueue}

/-- A packet went to its queue, which had room for it or not. -/
theorem settled_setQueue (device : Device) (packet : Packet) {fate : Fate}
    (fates : fate = .placed route ∧ queue.packets = (device.queueOf route).packets ++ [packet] ∧
        queue.dropped = (device.queueOf route).dropped ∨
      fate = .full route ∧ queue.packets = (device.queueOf route).packets ∧
        queue.dropped = countUp (device.queueOf route).dropped) :
    Settled device packet fate (device.setQueue route queue) := by
  refine ⟨fun other => ?_, fun other => ?_, fun reason => ?_, setQueue_softwareRxQueue _ _ _,
    sameTerms_setQueue _ _ _⟩
  · by_cases here : other = route
    · rw [here, queueOf_setQueue_self]
      rcases fates with ⟨rfl, packets, -⟩ | ⟨rfl, packets, -⟩
      · rw [packets, if_pos rfl]
      · rw [packets, if_neg (by intro same; cases same), List.append_nil]
    · rw [queueOf_setQueue_other _ _ here, if_neg ?_, List.append_nil]
      rintro rfl
      rcases fates with ⟨same, -⟩ | ⟨same, -⟩
      · exact here (Fate.placed.inj same)
      · cases same
  · by_cases here : other = route
    · rw [here, queueOf_setQueue_self]
      rcases fates with ⟨rfl, -, dropped⟩ | ⟨rfl, -, dropped⟩
      · rw [dropped, if_neg (by intro same; cases same)]
      · rw [dropped, if_pos rfl]
    · rw [queueOf_setQueue_other _ _ here, if_neg ?_]
      rintro rfl
      rcases fates with ⟨same, -⟩ | ⟨same, -⟩
      · cases same
      · exact here (Fate.full.inj same)
  · rw [setQueue_packetsDropped, if_neg ?_]
    rintro rfl
    rcases fates with ⟨same, -⟩ | ⟨same, -⟩
    · cases same
    · cases same

theorem settled_dropped (device : Device) (packet : Packet) (reason : Drop) :
    Settled device packet (.dropped reason) (device.countDrop reason) := by
  refine ⟨fun route => ?_, fun route => ?_, fun other => ?_, rfl, sameTerms_of rfl rfl rfl⟩
  · rw [queueOf_countDrop, if_neg (by intro same; cases same), List.append_nil]
  · rw [queueOf_countDrop, if_neg (by intro same; cases same)]
  · show update device.packetsDropped reason _ other = _
    by_cases here : other = reason
    · rw [here, update_self, if_pos rfl]
    · rw [update_of_ne here, if_neg fun same => here (Fate.dropped.inj same).symm]

theorem Settled.countDispatched {fate : Fate} (settled : Settled device packet fate after)
    (kind : PacketKind) : Settled device packet fate (after.countDispatched kind) where
  placed route := by rw [queueOf_countDispatched, settled.placed]
  full route := by rw [queueOf_countDispatched, settled.full]
  dropped := settled.dropped
  waiting := settled.waiting
  terms := settled.terms.trans (sameTerms_of rfl rfl rfl)

theorem inRange_setQueue (queues : ∀ route, (device.queueOf route).InRange) (range : queue.InRange)
    (other : Route) : ((device.setQueue route queue).queueOf other).InRange := by
  by_cases here : other = route
  · rwa [here, queueOf_setQueue_self]
  · rw [queueOf_setQueue_other _ _ here]
    exact queues other

/-- Placing a packet settles it. -/
theorem place_settled (queues : ∀ route, (device.queueOf route).InRange) (packet : Packet) :
    Settled device packet (device.fate packet) (device.place packet).2 ∧
      (∀ route, ((device.place packet).2.queueOf route).InRange) ∧
        (device.place packet).1 ≠ .empty := by
  unfold place fate
  cases device.route packet with
  | error reason =>
    refine ⟨settled_dropped device packet reason, fun route => ?_, by rintro ⟨⟩⟩
    rw [queueOf_countDrop]
    exact queues route
  | ok route =>
    dsimp only
    by_cases full : (device.queueOf route).packets.length + 1 = softwarePacketQueueCapacity
    · rw [if_pos full, SoftwarePacketQueue.enqueueQueuedPacket_full (queues route) full]
      refine ⟨settled_setQueue device packet (.inr ⟨rfl, rfl, rfl⟩), ?_, by rintro ⟨⟩⟩
      exact inRange_setQueue queues ⟨(queues route).head, (queues route).tail⟩
    · obtain ⟨queue, placed, accepts⟩ :=
        SoftwarePacketQueue.enqueueQueuedPacket_room (queues route) full packet
      rw [if_neg full, placed]
      refine ⟨(settled_setQueue device packet
        (.inl ⟨rfl, accepts.packets, accepts.dropped⟩)).countDispatched _, fun other => ?_,
        by rintro ⟨⟩⟩
      show ((_ : Device).queueOf other).InRange
      rw [if_neg (by rintro ⟨⟩), queueOf_countDispatched]
      exact inRange_setQueue queues accepts.range other

end Device

end ZigOs.E1000e
