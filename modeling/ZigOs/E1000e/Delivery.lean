/-
This file follows every frame from its arrival to its end. Beside the device a
ledger records which frames were accepted, what became of each, which of them an
endpoint was to get since it was opened, and what was handed out for them. The
queues and counters of the device agree with the ledger after any calls in any
order.
-/

import ZigOs.E1000e.Endpoints

namespace ZigOs.E1000e

open Scan Function List SoftwarePacketQueue

/-- What a call that receives a datagram returns. -/
inductive Answer where
  | into (capacity : Nat) (result : UdpReceiveIntoResult)
  | datagram (result : ReceivedUdpDatagram)

/-- The answer hands out the datagram of the packet. -/
def Answer.Hands (options : ParseOptions) (answer : Answer) (packet : Packet) : Prop :=
  ∃ datagram, Udp.parseFrame packet.bytes options = some datagram ∧
    match answer with
    | .into capacity result => result = Device.copyInto capacity datagram
    | .datagram result => result = Device.withPacket packet datagram

structure Ledger where
  accepted : List Packet := []
  settled : List (Packet × Fate) := []
  taken : Route → List Packet := fun _ => []
  -- Since the endpoint was opened: what was for it, with whether it had room, and what it returned.
  wanted : Nat → List (Packet × Bool) := fun _ => []
  answers : Nat → List Answer := fun _ => []

/-- The queue takes one more packet. -/
def SoftwarePacketQueue.room (queue : SoftwarePacketQueue) : Bool :=
  queue.packets.length + 1 != softwarePacketQueueCapacity

namespace Ledger

variable (ledger : Ledger)

/-- The packet is dispatched. -/
def settle (device : Device) (packet : Packet) : Ledger :=
  { ledger with
    settled := ledger.settled ++ [(packet, device.fate packet)]
    wanted := fun index => ledger.wanted index ++
      if device.wants index packet then [(packet, (device.udpEndpoints index).queue.room)] else [] }

def settleWithin : Nat → Device → Ledger → Ledger
  | 0, _, ledger => ledger
  | budget + 1, device, ledger =>
    match device.softwareRxQueue.dequeueQueuedPacket with
    | none => ledger
    | some (packet, _) =>
      settleWithin budget device.dispatchNextPacketResult.2 (ledger.settle device packet)

def accept (frame : Packet) (enqueued : Bool) : Ledger :=
  { ledger with accepted := ledger.accepted ++ if enqueued then [frame] else [] }

def take (route : Route) (packet : Option Packet) : Ledger :=
  { ledger with taken := update ledger.taken route (ledger.taken route ++ packet.toList) }

def answer (index : Nat) (answer : Option Answer) : Ledger :=
  { ledger with
    answers := update ledger.answers index (ledger.answers index ++ answer.toList) }

/-- What was opened or closed starts anew. -/
def reset (before after : Device) : Ledger :=
  { ledger with
    wanted := fun index =>
      if (before.udpEndpoints index).active = (after.udpEndpoints index).active then
        ledger.wanted index
      else []
    answers := fun index =>
      if (before.udpEndpoints index).active = (after.udpEndpoints index).active then
        ledger.answers index
      else [] }

/-- What went into a queue. -/
def placed (route : Route) : List Packet :=
  ledger.settled.filterMap fun entry => if entry.2 = .placed route then some entry.1 else none

/-- How many packets met a fate, as far as a counter goes. -/
def met (fate : Fate) : Nat :=
  min (ledger.settled.countP fun entry => entry.2 = fate) (2 ^ 64 - 1)

/-- What was for an endpoint and had room. -/
def kept (index : Nat) : List Packet :=
  (ledger.wanted index).filterMap fun entry => if entry.2 then some entry.1 else none

/-- How many packets were for an endpoint and had no room, as far as a counter goes. -/
def lost (index : Nat) : Nat :=
  min ((ledger.wanted index).countP fun entry => !entry.2) (2 ^ 64 - 1)

end Ledger

/-- What the ledger records of a call. -/
def Operation.note (operation : Operation) (device : Device) (ledger : Ledger) : Ledger :=
  match operation with
  | .receiveFrame frame => ledger.accept frame (device.receiveFrame frame).1
  | .dispatchPacketBatch budget => ledger.settleWithin budget device
  | .dequeueArpPacket => ledger.take .arp (device.dequeuePacketOf .arp).1
  | .dequeueIcmpPacket => ledger.take .icmp (device.dequeuePacketOf .icmp).1
  | .dequeueTcpPacket => ledger.take .tcp (device.dequeuePacketOf .tcp).1
  | .receiveUdpInto socket capacity =>
    ledger.answer socket.endpointIndex
      ((device.receiveUdpInto socket capacity).1.map (Answer.into capacity))
  | .receiveUdpDatagram socket =>
    ledger.answer socket.endpointIndex ((device.receiveUdpDatagram socket).1.map Answer.datagram)
  | _ => ledger.reset device (operation.next device)

namespace Device

/-- The device and the ledger agree. -/
structure Accounts (device : Device) (ledger : Ledger) : Prop where
  waiting : ledger.accepted = ledger.settled.map Prod.fst ++ device.softwareRxQueue.packets
  dropped : ∀ reason, device.packetsDropped reason = ledger.met (.dropped reason)
  placed : ∀ route, (∀ index, route ≠ .endpoint index) →
    ledger.placed route = ledger.taken route ++ (device.queueOf route).packets
  full : ∀ route, (∀ index, route ≠ .endpoint index) →
    (device.queueOf route).dropped = ledger.met (.full route)
  delivered : ∀ index < udpEndpointCapacity, (device.udpEndpoints index).active = true →
    ∃ read, ledger.kept index = read ++ (device.udpEndpoints index).queue.packets ∧
      List.Forall₂ (Answer.Hands device.localOptions) (ledger.answers index) read
  lost : ∀ index < udpEndpointCapacity, (device.udpEndpoints index).active = true →
    (device.udpEndpoints index).queue.dropped = ledger.lost index

variable {device : Device} {ledger : Ledger}

/-! ### Dispatching -/

theorem SameTerms.localOptions {before after : Device} (same : SameTerms before after) :
    after.localOptions = before.localOptions := by
  unfold Device.localOptions
  rw [same.localMac, same.localIpv4]

/-- A packet has its fate at an endpoint when the endpoint takes it. -/
theorem Sound.fate_endpoint (sound : device.Sound) (index : Nat) (packet : Packet) :
    (device.fate packet = .placed (.endpoint index) ↔
      (index < udpEndpointCapacity ∧ device.wants index packet = true) ∧
        (device.udpEndpoints index).queue.room = true) ∧
    (device.fate packet = .full (.endpoint index) ↔
      (index < udpEndpointCapacity ∧ device.wants index packet = true) ∧
        (device.udpEndpoints index).queue.room = false) := by
  rw [← sound.route_endpoint]
  unfold fate SoftwarePacketQueue.room
  cases routed : device.route packet with
  | error reason => simp
  | ok route =>
    dsimp only
    obtain rfl | here := eq_or_ne route (.endpoint index)
    · by_cases full : ((device.udpEndpoints index).queue.packets.length + 1 =
          softwarePacketQueueCapacity)
      · simp [queueOf, full]
      · simp [queueOf, full]
    · have elsewhere : Except.ok (ε := Drop) route ≠ .ok (.endpoint index) := fun same =>
        here (Except.ok.inj same)
      split
      · simp [here]
      · simp [here]

/-- Settling a packet keeps the device well formed. -/
theorem Settled.sound {packet : Packet} {after : Device} (sound : device.Sound)
    (settled : Settled device packet (device.fate packet) after)
    (queues : ∀ route, (after.queueOf route).InRange) : after.Sound := by
  have packets (index : Nat) : (after.udpEndpoints index).queue.packets =
      (device.udpEndpoints index).queue.packets ++
        if device.fate packet = .placed (.endpoint index) then [packet] else [] :=
    settled.placed (.endpoint index)
  refine ⟨by rw [settled.waiting]; exact sound.software, queues, ?_, ?_, ?_⟩
  · intro first belowFirst second belowSecond
    rw [settled.terms.active, settled.terms.active, settled.terms.port, settled.terms.port]
    exact sound.apart first belowFirst second belowSecond
  · intro index active other member
    rw [settled.terms.active] at active
    rw [settled.terms.wants]
    rw [packets] at member
    rcases mem_append.mp member with old | new
    · exact sound.fits index active other old
    · split at new
      · rename_i placed
        obtain rfl := mem_singleton.mp new
        exact ((sound.fate_endpoint index other).1.mp placed).1.2
      · cases new
  · intro index inactive
    rw [settled.terms.active] at inactive
    rw [packets, sound.idle index inactive, if_neg ?_]
    · rfl
    · intro placed
      have wanted := ((sound.fate_endpoint index packet).1.mp placed).1.2
      rw [(wants_iff.mp wanted).1] at inactive
      cases inactive

end Device

namespace Ledger

variable {ledger : Ledger} {device : Device}

variable (packet : Packet)

theorem placed_settle (route : Route) : (ledger.settle device packet).placed route =
      ledger.placed route ++ if device.fate packet = .placed route then [packet] else [] := by
  unfold placed settle
  rw [filterMap_append]
  congr 1
  by_cases here : device.fate packet = .placed route
  · simp [here]
  · simp [here]

theorem met_settle (fate : Fate) : (ledger.settle device packet).met fate =
    if device.fate packet = fate then countUp (ledger.met fate) else ledger.met fate := by
  unfold met settle
  rw [countP_append]
  by_cases here : device.fate packet = fate
  · rw [if_pos here, countUp_min]
    simp [here]
  · rw [if_neg here]
    simp [here]

variable (index : Nat)

theorem kept_settle : (ledger.settle device packet).kept index =
    ledger.kept index ++
      if device.wants index packet = true ∧ (device.udpEndpoints index).queue.room = true then [packet]
      else [] := by
  unfold kept settle
  rw [filterMap_append]
  congr 1
  by_cases wanted : device.wants index packet = true
  · cases room : (device.udpEndpoints index).queue.room <;> simp [wanted]
  · simp [wanted]

theorem lost_settle : (ledger.settle device packet).lost index =
    if device.wants index packet = true ∧ (device.udpEndpoints index).queue.room = false then
      countUp (ledger.lost index)
    else ledger.lost index := by
  unfold lost settle
  rw [countP_append]
  by_cases wanted : device.wants index packet = true
  · cases room : (device.udpEndpoints index).queue.room
    · rw [if_pos (And.intro wanted (Eq.refl false)), countUp_min]
      simp [wanted]
    · simp [wanted]
  · simp [wanted]

end Ledger

namespace Device

variable {device : Device} {ledger : Ledger}

/-- The device and the ledger agree after a dispatch. -/
theorem Settled.accounts {packet : Packet} {rest after : Device} (sound : device.Sound)
    (accounts : Accounts device ledger)
    (taken : device.softwareRxQueue.packets = packet :: rest.softwareRxQueue.packets)
    (same : rest = { device with softwareRxQueue := rest.softwareRxQueue })
    (settled : Settled rest packet (device.fate packet) after) :
    Accounts after (ledger.settle device packet) := by
  have queues (route : Route) : rest.queueOf route = device.queueOf route := by
    rw [same]
    cases route <;> rfl
  have endpoints : rest.udpEndpoints = device.udpEndpoints := by rw [same]
  have drops : rest.packetsDropped = device.packetsDropped := by rw [same]
  have options : after.localOptions = device.localOptions := by
    rw [settled.terms.localOptions, same]
    rfl
  refine ⟨?_, fun reason => ?_, fun route protocol => ?_, fun route protocol => ?_, ?_, ?_⟩
  · show ledger.accepted = (ledger.settled ++ [(packet, device.fate packet)]).map Prod.fst ++ _
    rw [accounts.waiting, taken, settled.waiting, map_append, append_assoc]
    rfl
  · rw [settled.dropped, Ledger.met_settle, drops, accounts.dropped]
  · rw [settled.placed, Ledger.placed_settle, queues, accounts.placed route protocol, append_assoc]
    rfl
  · rw [settled.full, Ledger.met_settle, queues, accounts.full route protocol]
  · intro index below active
    rw [settled.terms.active, endpoints] at active
    obtain ⟨read, kept, handed⟩ := accounts.delivered index below active
    refine ⟨read, ?_, by rw [options]; exact handed⟩
    have packets := settled.placed (.endpoint index)
    rw [queues] at packets
    show (ledger.settle device packet).kept index = read ++ (after.queueOf (.endpoint index)).packets
    rw [packets, Ledger.kept_settle, kept, append_assoc]
    congr 2
    have fate := (sound.fate_endpoint index packet).1
    by_cases placed : device.fate packet = .placed (.endpoint index)
    · rw [if_pos placed, if_pos ⟨(fate.mp placed).1.2, (fate.mp placed).2⟩]
    · rw [if_neg placed, if_neg fun both => placed (fate.mpr ⟨⟨below, both.1⟩, both.2⟩)]
  · intro index below active
    rw [settled.terms.active, endpoints] at active
    have dropped := settled.full (.endpoint index)
    rw [queues] at dropped
    show (after.queueOf (.endpoint index)).dropped = _
    rw [dropped, Ledger.lost_settle]
    have before : (device.queueOf (.endpoint index)).dropped = ledger.lost index :=
      accounts.lost index below active
    rw [before]
    have fate := (sound.fate_endpoint index packet).2
    by_cases full : device.fate packet = .full (.endpoint index)
    · rw [if_pos full, if_pos ⟨(fate.mp full).1.2, (fate.mp full).2⟩]
    · rw [if_neg full, if_neg fun both => full (fate.mpr ⟨⟨below, both.1⟩, both.2⟩)]

/-- One dispatch takes the first packet and settles it. -/
theorem Sound.dispatchNext (sound : device.Sound) :
    (device.softwareRxQueue.packets = [] ∧ device.softwareRxQueue.dequeueQueuedPacket = none ∧
      device.dispatchNextPacketResult = (.empty, device)) ∨
    ∃ packet rest, device.softwareRxQueue.dequeueQueuedPacket = some (packet, rest) ∧
      device.softwareRxQueue.packets = packet :: rest.packets ∧
        device.dispatchNextPacketResult.1 ≠ .empty ∧
        Settled { device with softwareRxQueue := rest } packet (device.fate packet)
          device.dispatchNextPacketResult.2 ∧
        device.dispatchNextPacketResult.2.Sound := by
  by_cases empty : device.softwareRxQueue.packets = []
  · have none := dequeueQueuedPacket_empty sound.software empty
    refine .inl ⟨empty, none, ?_⟩
    unfold dispatchNextPacketResult
    rw [none]
  · have taken := dequeueQueuedPacket_occupied sound.software empty
    refine .inr ⟨_, _, taken, packets_advance sound.software empty, ?_⟩
    let rest : Device := { device with softwareRxQueue := device.softwareRxQueue.advance }
    have restSound : rest.Sound :=
      ⟨advance_range sound.software, sound.queues, sound.apart, sound.fits,
        sound.idle⟩
    obtain ⟨settled, queues, answered⟩ := place_settled restSound.queues
      (device.softwareRxQueue.entries device.softwareRxQueue.tail)
    unfold dispatchNextPacketResult
    rw [taken]
    exact ⟨answered, settled, settled.sound restSound queues⟩

variable (budget : Nat)

/-- A batch takes one packet after the other. -/
theorem dispatchWithin_keeps (batch : PacketDispatchBatch) (sound : device.Sound)
    (accounts : Accounts device ledger) : (dispatchWithin budget batch device).2.Sound ∧
      Accounts (dispatchWithin budget batch device).2 (Ledger.settleWithin budget device ledger) := by
  induction budget generalizing batch device ledger with
  | zero => exact ⟨sound, accounts⟩
  | succ budget hypothesis =>
    unfold dispatchWithin Ledger.settleWithin
    rcases sound.dispatchNext with ⟨-, none, unchanged⟩ | ⟨packet, rest, some, taken, answered, settled, after⟩
    · rw [none, unchanged]
      exact ⟨sound, accounts⟩
    · have agree : Accounts device.dispatchNextPacketResult.2 (ledger.settle device packet) :=
        settled.accounts sound accounts taken rfl
      rw [some]
      rcases result : device.dispatchNextPacketResult with ⟨outcome, next⟩
      rw [result] at answered after agree
      cases outcome with
      | empty => exact absurd rfl answered
      | routed => exact hypothesis _ after agree
      | dropped => exact hypothesis _ after agree

theorem dispatchPacketBatch_keeps (sound : device.Sound)
    (accounts : Accounts device ledger) : (device.dispatchPacketBatch budget).2.Sound ∧
      Accounts (device.dispatchPacketBatch budget).2 (ledger.settleWithin budget device) :=
  dispatchWithin_keeps budget _ sound accounts

/-! ### Arrivals -/

theorem receiveFrame_keeps (frame : Packet) (sound : device.Sound) (accounts : Accounts device ledger) :
    (device.receiveFrame frame).2.Sound ∧
      Accounts (device.receiveFrame frame).2 (ledger.accept frame (device.receiveFrame frame).1) := by
  have outcome : ∃ enqueued queue,
      device.softwareRxQueue.enqueueSoftwarePacket frame = (enqueued, queue) ∧ queue.InRange ∧
        queue.packets = device.softwareRxQueue.packets ++ if enqueued then [frame] else [] := by
    unfold enqueueSoftwarePacket
    split
    · exact ⟨false, _, rfl, ⟨sound.software.head, sound.software.tail⟩, (append_nil _).symm⟩
    · by_cases full : device.softwareRxQueue.packets.length + 1 = softwarePacketQueueCapacity
      · exact ⟨false, _, enqueueQueuedPacket_full sound.software full frame,
          ⟨sound.software.head, sound.software.tail⟩, (append_nil _).symm⟩
      · obtain ⟨queue, placed, accepts⟩ :=
          enqueueQueuedPacket_room sound.software full frame
        exact ⟨true, queue, placed, accepts.range, accepts.packets⟩
  obtain ⟨enqueued, queue, result, range, packets⟩ := outcome
  unfold receiveFrame
  rw [result]
  refine ⟨⟨range, sound.queues, sound.apart, sound.fits, sound.idle⟩, ⟨?_, accounts.dropped,
    accounts.placed, accounts.full, accounts.delivered, accounts.lost⟩⟩
  show ledger.accepted ++ _ = ledger.settled.map Prod.fst ++ queue.packets
  rw [accounts.waiting, packets, append_assoc]

/-! ### Taking packets out -/

/-- A queue gives away its first packet. -/
theorem Sound.advance (sound : device.Sound) (route : Route)
    (occupied : (device.queueOf route).packets ≠ []) :
    (device.setQueue route (device.queueOf route).advance).Sound := by
  have range := sound.queues route
  have terms := sameTerms_setQueue device route (device.queueOf route).advance
  have fewer (other : Route) (packet : Packet)
      (member : packet ∈ ((device.setQueue route (device.queueOf route).advance).queueOf other).packets) :
      packet ∈ (device.queueOf other).packets := by
    by_cases here : other = route
    · rw [here, queueOf_setQueue_self] at member
      rw [here, packets_advance range occupied]
      exact mem_cons_of_mem _ member
    · rwa [queueOf_setQueue_other _ _ here] at member
  refine ⟨by rw [setQueue_softwareRxQueue]; exact sound.software,
    inRange_setQueue sound.queues (advance_range range), ?_, ?_, ?_⟩
  · intro first belowFirst second belowSecond
    rw [terms.active, terms.active, terms.port, terms.port]
    exact sound.apart first belowFirst second belowSecond
  · intro index active packet member
    rw [terms.active] at active
    rw [terms.wants]
    exact sound.fits index active packet (fewer (.endpoint index) packet member)
  · intro index inactive
    rw [terms.active] at inactive
    refine eq_nil_iff_forall_not_mem.mpr fun packet member => ?_
    have before := fewer (.endpoint index) packet member
    rw [show (device.queueOf (.endpoint index)).packets = [] from sound.idle index inactive] at before
    cases before

/-- What stays as it is when a queue gives away its first packet. -/
theorem Accounts.advance (accounts : Accounts device ledger) (route : Route) {noted : Ledger}
    (accepted : noted.accepted = ledger.accepted) (settled : noted.settled = ledger.settled)
    (wanted : noted.wanted = ledger.wanted)
    (placed : ∀ other, (∀ index, other ≠ .endpoint index) → noted.placed other = noted.taken other ++
      ((device.setQueue route (device.queueOf route).advance).queueOf other).packets)
    (delivered : ∀ index < udpEndpointCapacity, (device.udpEndpoints index).active = true →
      ∃ read, ledger.kept index = read ++
          ((device.setQueue route (device.queueOf route).advance).queueOf (.endpoint index)).packets ∧
        List.Forall₂ (Answer.Hands device.localOptions) (noted.answers index) read) :
    Accounts (device.setQueue route (device.queueOf route).advance) noted := by
  have terms := sameTerms_setQueue device route (device.queueOf route).advance
  have dropped (other : Route) :
      ((device.setQueue route (device.queueOf route).advance).queueOf other).dropped =
        (device.queueOf other).dropped := by
    by_cases here : other = route
    · rw [here, queueOf_setQueue_self]
      rfl
    · rw [queueOf_setQueue_other _ _ here]
  refine ⟨?_, fun reason => ?_, placed, fun other protocol => ?_, fun index below active => ?_,
    fun index below active => ?_⟩
  · rw [accepted, settled, setQueue_softwareRxQueue]
    exact accounts.waiting
  · rw [setQueue_packetsDropped, accounts.dropped]
    unfold Ledger.met
    rw [settled]
  · rw [dropped, accounts.full other protocol]
    unfold Ledger.met
    rw [settled]
  · rw [terms.active] at active
    obtain ⟨read, kept, handed⟩ := delivered index below active
    refine ⟨read, ?_, by rw [terms.localOptions]; exact handed⟩
    unfold Ledger.kept at kept ⊢
    rwa [wanted]
  · rw [terms.active] at active
    have same := dropped (.endpoint index)
    show ((device.setQueue route (device.queueOf route).advance).queueOf (.endpoint index)).dropped = _
    rw [same]
    unfold Ledger.lost
    rw [wanted]
    exact accounts.lost index below active

theorem dequeuePacketOf_keeps {route : Route} (protocol : ∀ index, route ≠ .endpoint index)
    (sound : device.Sound) (accounts : Accounts device ledger) :
    (device.dequeuePacketOf route).2.Sound ∧ Accounts (device.dequeuePacketOf route).2
      (ledger.take route (device.dequeuePacketOf route).1) := by
  have range := sound.queues route
  unfold dequeuePacketOf
  by_cases empty : (device.queueOf route).packets = []
  · rw [dequeueQueuedPacket_empty range empty]
    refine ⟨sound, ⟨accounts.waiting, accounts.dropped, fun other apart => ?_, accounts.full,
      accounts.delivered, accounts.lost⟩⟩
    have same : (ledger.take route none).taken = ledger.taken := by
      show update ledger.taken route (ledger.taken route ++ []) = ledger.taken
      rw [append_nil, update_eq_self]
    rw [same]
    exact accounts.placed other apart
  · rw [dequeueQueuedPacket_occupied range empty]
    refine ⟨sound.advance route empty, accounts.advance route rfl rfl rfl (fun other apart => ?_)
      fun index below active => ?_⟩
    · show ledger.placed other = update ledger.taken route _ other ++ _
      rw [accounts.placed other apart]
      by_cases here : other = route
      · rw [here, update_self, queueOf_setQueue_self,
          packets_advance range empty, append_assoc]
        rfl
      · rw [update_of_ne here, queueOf_setQueue_other _ _ here]
    · obtain ⟨read, kept, handed⟩ := accounts.delivered index below active
      refine ⟨read, ?_, handed⟩
      rwa [queueOf_setQueue_other _ _ (protocol index).symm]

/-- What waits first in the queue of an active endpoint still parses. -/
theorem Sound.queuedUdpDatagram (sound : device.Sound) {index : Nat}
    (active : (device.udpEndpoints index).active = true)
    (occupied : (device.udpEndpoints index).queue.packets ≠ []) :
    ∃ datagram, device.queuedUdpDatagram (device.udpEndpoints index) = some datagram ∧
      Udp.parseFrame ((device.udpEndpoints index).queue.entries
          (device.udpEndpoints index).queue.tail).bytes
        (device.endpointOptions (device.udpEndpoints index)) = some datagram ∧
      Udp.parseFrame ((device.udpEndpoints index).queue.entries
          (device.udpEndpoints index).queue.tail).bytes device.localOptions = some datagram := by
  have range : (device.udpEndpoints index).queue.InRange := sound.queues (.endpoint index)
  have packets := packets_advance range occupied
  have first : (device.udpEndpoints index).queue.entries (device.udpEndpoints index).queue.tail ∈
      (device.udpEndpoints index).queue.packets := packets ▸ mem_cons_self
  obtain ⟨-, datagram, parsed, full⟩ := wants_iff.mp (sound.fits index active _ first)
  refine ⟨datagram, ?_, full, parsed⟩
  unfold Device.queuedUdpDatagram
  dsimp only
  rw [if_neg fun level => occupied ((empty_iff range).mp level), full]

/-- An endpoint hands out the datagram of its first packet. -/
theorem Accounts.hand (accounts : Accounts device ledger) (sound : device.Sound) {index : Nat}
    (occupied : (device.udpEndpoints index).queue.packets ≠ []) {answer : Answer}
    (hands : answer.Hands device.localOptions
      ((device.udpEndpoints index).queue.entries (device.udpEndpoints index).queue.tail)) :
    Accounts (device.setQueue (.endpoint index) (device.udpEndpoints index).queue.advance)
      (ledger.answer index (some answer)) := by
  have range : (device.udpEndpoints index).queue.InRange := sound.queues (.endpoint index)
  refine accounts.advance (.endpoint index) rfl rfl rfl (fun other protocol => ?_)
    fun other below active => ?_
  · rw [queueOf_setQueue_other _ _ (protocol index)]
    exact accounts.placed other protocol
  · obtain ⟨read, kept, handed⟩ := accounts.delivered other below active
    show ∃ read, _ ∧ List.Forall₂ _ (update ledger.answers index _ other) read
    obtain rfl | here := eq_or_ne other index
    · refine ⟨read ++ [(device.udpEndpoints other).queue.entries (device.udpEndpoints other).queue.tail],
        ?_, ?_⟩
      · rw [queueOf_setQueue_self, kept, packets_advance range occupied,
          append_assoc]
        rfl
      · rw [update_self]
        exact rel_append handed (List.Forall₂.cons hands List.Forall₂.nil)
    · refine ⟨read, ?_, by rw [update_of_ne here]; exact handed⟩
      rwa [queueOf_setQueue_other _ _ fun same => here (Route.endpoint.inj same)]

theorem answer_none (ledger : Ledger) (index : Nat) : ledger.answer index none = ledger := by
  unfold Ledger.answer
  rw [Option.toList_none, append_nil, update_eq_self]

variable (socket : UdpSocket)

theorem receiveUdpInto_keeps (capacity : Nat) (sound : device.Sound)
    (accounts : Accounts device ledger) : (device.receiveUdpInto socket capacity).2.Sound ∧
      Accounts (device.receiveUdpInto socket capacity).2 (ledger.answer socket.endpointIndex
        ((device.receiveUdpInto socket capacity).1.map (Answer.into capacity))) := by
  unfold receiveUdpInto
  cases located : device.udpSocketEndpoint socket with
  | none =>
    dsimp only
    rw [Option.map_none, answer_none]
    exact ⟨sound, accounts⟩
  | some index =>
    obtain ⟨rfl, -, -, -, active, -⟩ := udpSocketEndpoint_eq_some.mp located
    have range : (device.udpEndpoints socket.endpointIndex).queue.InRange := sound.queues (.endpoint _)
    dsimp only
    by_cases empty : (device.udpEndpoints socket.endpointIndex).queue.packets = []
    · have nothing : device.queuedUdpDatagram (device.udpEndpoints socket.endpointIndex) = none := by
        unfold Device.queuedUdpDatagram
        dsimp only
        rw [if_pos ((empty_iff range).mpr empty)]
      rw [nothing]
      dsimp only
      rw [Option.map_none, answer_none]
      exact ⟨sound, accounts⟩
    · obtain ⟨datagram, queued, -, parsed⟩ := sound.queuedUdpDatagram active empty
      rw [queued]
      exact ⟨sound.advance (.endpoint _) empty, accounts.hand sound empty ⟨datagram, parsed, rfl⟩⟩

theorem receiveUdpDatagram_keeps (sound : device.Sound)
    (accounts : Accounts device ledger) : (device.receiveUdpDatagram socket).2.Sound ∧
      Accounts (device.receiveUdpDatagram socket).2 (ledger.answer socket.endpointIndex
        ((device.receiveUdpDatagram socket).1.map Answer.datagram)) := by
  unfold receiveUdpDatagram
  cases located : device.udpSocketEndpoint socket with
  | none =>
    dsimp only
    rw [Option.map_none, answer_none]
    exact ⟨sound, accounts⟩
  | some index =>
    obtain ⟨rfl, -, -, -, active, -⟩ := udpSocketEndpoint_eq_some.mp located
    have range : (device.udpEndpoints socket.endpointIndex).queue.InRange := sound.queues (.endpoint _)
    dsimp only
    by_cases empty : (device.udpEndpoints socket.endpointIndex).queue.packets = []
    · rw [dequeueQueuedPacket_empty range empty]
      dsimp only
      rw [Option.map_none, answer_none]
      exact ⟨sound, accounts⟩
    · obtain ⟨datagram, -, full, parsed⟩ := sound.queuedUdpDatagram active empty
      obtain ⟨offset, length⟩ := Udp.payload_inside full
      rw [dequeueQueuedPacket_occupied range empty]
      dsimp only
      rw [full]
      dsimp only
      rw [if_neg (not_or.mpr ⟨Nat.not_lt.mpr offset, Nat.not_lt.mpr length⟩)]
      exact ⟨sound.advance (.endpoint _) empty, accounts.hand sound empty ⟨datagram, parsed, rfl⟩⟩

/-! ### Opening and closing -/

/-- The page of an endpoint that stays open, or stays closed, is kept. -/
theorem reset_same {after : Device} {index : Nat}
    (same : (device.udpEndpoints index).active = (after.udpEndpoints index).active) :
    (ledger.reset device after).wanted index = ledger.wanted index ∧
      (ledger.reset device after).answers index = ledger.answers index :=
  ⟨if_pos same, if_pos same⟩

/-- The page of an endpoint that is opened or closed is empty. -/
theorem reset_apart {after : Device} {index : Nat}
    (apart : (device.udpEndpoints index).active ≠ (after.udpEndpoints index).active) :
    (ledger.reset device after).wanted index = [] ∧ (ledger.reset device after).answers index = [] :=
  ⟨if_neg apart, if_neg apart⟩

/-- An endpoint whose queue and page stay as they are. -/
theorem Accounts.unmoved {after : Device} (accounts : Accounts device ledger) {index : Nat}
    (options : after.localOptions = device.localOptions) (below : index < udpEndpointCapacity)
    (activeBefore : (device.udpEndpoints index).active = true)
    (active : (after.udpEndpoints index).active = true)
    (queue : (after.udpEndpoints index).queue = (device.udpEndpoints index).queue) :
    (∃ read, (ledger.reset device after).kept index = read ++ (after.udpEndpoints index).queue.packets ∧
      List.Forall₂ (Answer.Hands after.localOptions) ((ledger.reset device after).answers index) read) ∧
    (after.udpEndpoints index).queue.dropped = (ledger.reset device after).lost index := by
  obtain ⟨wanted, answers⟩ := @reset_same device ledger after index (activeBefore.trans active.symm)
  unfold Ledger.kept Ledger.lost
  rw [wanted, answers, queue, options]
  exact ⟨accounts.delivered index below activeBefore, accounts.lost index below activeBefore⟩

/-- An endpoint that is opened or closed starts a new page; the others keep theirs. -/
theorem Rearranged.accounts {after : Device} (rearranged : Rearranged device after)
    (accounts : Accounts device ledger) : Accounts after (ledger.reset device after) := by
  cases rearranged with
  | same =>
    have unchanged : ledger.reset device device = ledger := by
      unfold Ledger.reset
      simp only [if_true]
    rwa [unchanged]
  | one index endpoint replaced range empty free queue =>
    have options : after.localOptions = device.localOptions := by
      unfold localOptions
      rw [replaced.localMac, replaced.localIpv4]
    have page (other : Nat) (below : other < udpEndpointCapacity)
        (active : (after.udpEndpoints other).active = true) :
        (∃ read, (ledger.reset device after).kept other =
            read ++ (after.udpEndpoints other).queue.packets ∧
          List.Forall₂ (Answer.Hands after.localOptions) ((ledger.reset device after).answers other)
            read) ∧
        (after.udpEndpoints other).queue.dropped = (ledger.reset device after).lost other := by
      obtain rfl | here := eq_or_ne other index
      · have self := replaced.self
        rcases queue (self ▸ active) with ⟨activeBefore, same⟩ | ⟨inactive, fresh⟩
        · exact accounts.unmoved options below activeBefore active (self ▸ same)
        · obtain ⟨wanted, answers⟩ := @reset_apart device ledger after other
            (by rw [inactive, active]; exact Bool.false_ne_true)
          unfold Ledger.kept Ledger.lost
          rw [wanted, answers, self, fresh]
          exact ⟨⟨[], rfl, List.Forall₂.nil⟩, rfl⟩
      · have same := replaced.other here
        exact accounts.unmoved options below (same ▸ active) active (by rw [same])
    refine ⟨?_, fun reason => ?_, fun route protocol => ?_, fun route protocol => ?_,
      fun other below active => (page other below active).1,
      fun other below active => (page other below active).2⟩
    · rw [replaced.software]
      exact accounts.waiting
    · rw [replaced.packetsDropped]
      exact accounts.dropped reason
    · rw [replaced.queueOf (protocol index)]
      exact accounts.placed route protocol
    · rw [replaced.queueOf (protocol index)]
      exact accounts.full route protocol

end Device

/-! ### Every run -/

/-- The device and the ledger after some calls in a row. -/
def follow (operations : List Operation) (device : Device) (ledger : Ledger) : Device × Ledger :=
  operations.foldl (fun state operation =>
    (operation.next state.1, operation.note state.1 state.2)) (device, ledger)

open Device in
theorem Operation.keeps (operation : Operation) {device : Device} {ledger : Ledger}
    (sound : device.Sound) (accounts : Accounts device ledger) :
    (operation.next device).Sound ∧ Accounts (operation.next device) (operation.note device ledger) := by
  have rearranges {after : Device} (rearranged : Rearranged device after) :
      after.Sound ∧ Accounts after (ledger.reset device after) :=
    ⟨rearranged.sound sound, rearranged.accounts accounts⟩
  cases operation with
  | receiveFrame frame => exact receiveFrame_keeps frame sound accounts
  | dispatchPacketBatch budget => exact dispatchPacketBatch_keeps budget sound accounts
  | dequeueArpPacket => exact dequeuePacketOf_keeps (by simp) sound accounts
  | dequeueIcmpPacket => exact dequeuePacketOf_keeps (by simp) sound accounts
  | dequeueTcpPacket => exact dequeuePacketOf_keeps (by simp) sound accounts
  | registerUdpEndpoint port => exact rearranges (registerUdpEndpoint_rearranged device port)
  | unregisterUdpEndpoint index => exact rearranges (unregisterUdpEndpoint_rearranged device index)
  | openUdpSocket port => exact rearranges (openUdpSocket_rearranged device port)
  | openEphemeralUdpSocket => exact rearranges (openEphemeralUdpSocket_rearranged device)
  | connectUdpSocket socket peer => exact rearranges (sound.connectUdpSocket_rearranged socket peer)
  | disconnectUdpSocket socket => exact rearranges (sound.disconnectUdpSocket_rearranged socket)
  | closeUdpSocket socket => exact rearranges (closeUdpSocket_rearranged device socket)
  | closeUdpSocketDiscarding socket =>
    exact rearranges (sound.closeUdpSocketDiscarding_rearranged socket)
  | receiveUdpInto socket capacity => exact receiveUdpInto_keeps socket capacity sound accounts
  | receiveUdpDatagram socket => exact receiveUdpDatagram_keeps socket sound accounts

/-- Nothing has come in and no endpoint is open. -/
def freshDevice (localMac localIpv4 : Bytes) : Device := { localMac, localIpv4 }

variable (localMac localIpv4 : Bytes)

theorem freshDevice_sound : (freshDevice localMac localIpv4).Sound := by
  have fresh := fresh_range
  refine ⟨fresh, fun route => ?_, ?_, ?_, fun _ _ => fresh_packets⟩
  · cases route <;> exact fresh
  · intro first _ second _ active
    cases active
  · intro index active
    cases active

theorem freshDevice_accounts : (freshDevice localMac localIpv4).Accounts {} := by
  have software : (freshDevice localMac localIpv4).softwareRxQueue = {} := rfl
  have queues (route : Route) : (freshDevice localMac localIpv4).queueOf route = {} := by
    cases route <;> rfl
  refine ⟨?_, fun _ => rfl, fun route _ => ?_, fun route _ => ?_, ?_, ?_⟩
  · rw [software, fresh_packets]
    rfl
  · rw [queues, fresh_packets]
    rfl
  · rw [queues]
    rfl
  · intro index _ active
    cases active
  · intro index _ active
    cases active

theorem follow_keeps (operations : List Operation) {device : Device} {ledger : Ledger}
    (sound : device.Sound) (accounts : device.Accounts ledger) :
    (follow operations device ledger).1.Sound ∧
      (follow operations device ledger).1.Accounts (follow operations device ledger).2 := by
  induction operations generalizing device ledger with
  | nil => exact ⟨sound, accounts⟩
  | cons operation rest hypothesis =>
    obtain ⟨nextSound, nextAccounts⟩ := operation.keeps sound accounts
    exact hypothesis nextSound nextAccounts

/-- Frames are dispatched in order and each ends in one place; an endpoint hands out what was for it
and had room, in order; what waits fits its endpoint, so readable endpoints deliver. -/
structure Demultiplexed (device : Device) (ledger : Ledger) : Prop where
  accounts : device.Accounts ledger
  settles : ∀ packet rest, device.softwareRxQueue.packets = packet :: rest →
    device.dispatchNextPacketResult.2.softwareRxQueue.packets = rest ∧ Device.Settled { device with
          softwareRxQueue := device.dispatchNextPacketResult.2.softwareRxQueue }
        packet (device.fate packet) device.dispatchNextPacketResult.2
  fits : ∀ index < udpEndpointCapacity, (device.udpEndpoints index).active = true →
    ∀ packet ∈ (device.udpEndpoints index).queue.packets, ∃ datagram,
      Udp.parseFrame packet.bytes (device.endpointOptions (device.udpEndpoints index)) = some datagram
  readable : ∀ socket capacity, device.udpSocketReadable socket = true ↔
    (device.receiveUdpInto socket capacity).1.isSome = true
  ranges : device.softwareRxQueue.InRange ∧ ∀ route, (device.queueOf route).InRange

/-- A socket is readable exactly when receiving returns a datagram. -/
theorem Device.Sound.readable {device : Device} (sound : device.Sound) (socket : UdpSocket)
    (capacity : Nat) : device.udpSocketReadable socket = true ↔
      (device.receiveUdpInto socket capacity).1.isSome = true := by
  unfold Device.udpSocketReadable Device.receiveUdpInto
  cases located : device.udpSocketEndpoint socket with
  | none => simp
  | some index =>
    obtain ⟨-, -, -, -, active, -⟩ := Device.udpSocketEndpoint_eq_some.mp located
    have range : (device.udpEndpoints index).queue.InRange := sound.queues (.endpoint index)
    dsimp only
    rw [bne_iff_ne, ← packets_length, Ne, length_eq_zero_iff]
    by_cases empty : (device.udpEndpoints index).queue.packets = []
    · have nothing : device.queuedUdpDatagram (device.udpEndpoints index) = none := by
        unfold Device.queuedUdpDatagram
        dsimp only
        rw [if_pos ((empty_iff range).mpr empty)]
      rw [nothing]
      exact iff_of_false (not_not_intro empty) Bool.false_ne_true
    · obtain ⟨datagram, queued, -⟩ := sound.queuedUdpDatagram active empty
      rw [queued]
      exact iff_of_true empty rfl

end ZigOs.E1000e
