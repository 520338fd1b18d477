/-
This file reads frames. The UDP and the TCP module check the same Ethernet and
Internet headers and the same two ports before each goes its own way, so these
checks stand here once. A caller may ask for certain addresses and ports; asking
for more never changes what is read, it only refuses frames.
-/

import ZigOs.Error

namespace ZigOs.E1000e

abbrev ethernetHeaderBytes : Nat := 14
abbrev ipv4MinimumHeaderBytes : Nat := 20
abbrev etherTypeArp : Nat := 0x0806
abbrev etherTypeIpv4 : Nat := 0x0800
abbrev ipv4ProtocolIcmp : Nat := 1
abbrev ipv4ProtocolTcp : Nat := 6
abbrev ipv4ProtocolUdp : Nat := 17

/-! ### Bytes and checksums -/

def byteAt (bytes : Bytes) (offset : Nat) : Nat := (bytes.getD offset 0).toNat

def readNetwork16 (bytes : Bytes) (offset : Nat) : Nat :=
  byteAt bytes offset * 2 ^ 8 + byteAt bytes (offset + 1)

def readNetwork32 (bytes : Bytes) (offset : Nat) : Nat :=
  readNetwork16 bytes offset * 2 ^ 16 + readNetwork16 bytes (offset + 2)

/-- The bytes from one offset up to another. -/
def slice (bytes : Bytes) (first last : Nat) : Bytes := (bytes.drop first).take (last - first)

def addChecksumBytes (sum : Nat) : Bytes → Nat
  | high :: low :: rest =>
    let added := sum + (high.toNat * 2 ^ 8 + low.toNat)
    addChecksumBytes (added % 2 ^ 16 + added / 2 ^ 16) rest
  | [last] => sum + last.toNat * 2 ^ 8
  | [] => sum

/-- Add the carries back in until none is left; three rounds are enough for a 32-bit sum. -/
def foldCarries : Nat → Nat → Nat
  | 0, sum => sum
  | rounds + 1, sum =>
    if sum / 2 ^ 16 = 0 then sum else foldCarries rounds (sum % 2 ^ 16 + sum / 2 ^ 16)

theorem foldCarries_lt {sum : Nat} (fits : sum < 2 ^ 32) : foldCarries 3 sum < 2 ^ 16 := by
  unfold foldCarries foldCarries foldCarries foldCarries
  split
  · omega
  · split
    · omega
    · split <;> omega

def finalizeChecksum (sum : Nat) : Nat := 2 ^ 16 - 1 - foldCarries 3 sum

def internetChecksum (bytes : Bytes) : Nat := finalizeChecksum (addChecksumBytes 0 bytes)

/-- The checksum of a datagram or a segment, which covers the addresses too. -/
def transportChecksum (protocol : Nat) (source destination packet : Bytes) : Nat :=
  finalizeChecksum (addChecksumBytes
    (addChecksumBytes (addChecksumBytes 0 source) destination + protocol + packet.length) packet)

/-! ### Headers -/

structure ParseOptions where
  destinationMac : Bytes
  sourceMac : Option Bytes := none
  destinationIpv4 : Bytes
  sourceIpv4 : Option Bytes := none
  destinationPort : Option Nat := none
  sourcePort : Option Nat := none

/-- What the frames of both protocols begin with. -/
structure Headers where
  sourceMac : Bytes
  destinationMac : Bytes
  sourceIpv4 : Bytes
  destinationIpv4 : Bytes
  sourcePort : Nat
  destinationPort : Nat
  ttl : Nat
  identification : Nat
  -- Where the datagram or segment is in the frame, and how long it is.
  offset : Nat
  length : Nat
  deriving DecidableEq, Repr

/-- The value is not the one that was asked for. -/
def refused {Value : Type} [DecidableEq Value] (expected : Option Value) (value : Value) : Bool :=
  expected.any fun wanted => wanted != value

def parseHeaders (protocol minimumHeaderBytes : Nat) (frame : Bytes) (options : ParseOptions) :
    Option Headers :=
  let ihlBytes := byteAt frame 14 % 2 ^ 4 * 4
  let totalLength := readNetwork16 frame 16
  let offset := ethernetHeaderBytes + ihlBytes
  let headers : Headers :=
    { sourceMac := slice frame 6 12
      destinationMac := slice frame 0 6
      sourceIpv4 := slice frame 26 30
      destinationIpv4 := slice frame 30 34
      sourcePort := readNetwork16 frame offset
      destinationPort := readNetwork16 frame (offset + 2)
      ttl := byteAt frame 22
      identification := readNetwork16 frame 18
      offset
      length := totalLength - ihlBytes }
  if frame.length < ethernetHeaderBytes + ipv4MinimumHeaderBytes + minimumHeaderBytes then none
  else if headers.destinationMac ≠ options.destinationMac then none
  else if refused options.sourceMac headers.sourceMac then none
  else if readNetwork16 frame 12 ≠ etherTypeIpv4 then none
  else if byteAt frame 14 / 2 ^ 4 ≠ 4 then none
  else if ihlBytes < ipv4MinimumHeaderBytes ∨ offset > frame.length then none
  else if totalLength < ihlBytes + minimumHeaderBytes ∨
      ethernetHeaderBytes + totalLength > frame.length then none
  else if byteAt frame 23 ≠ protocol ∨ headers.ttl = 0 then none
  else if readNetwork16 frame 20 % 2 ^ 14 ≠ 0 then none
  else if internetChecksum (slice frame ethernetHeaderBytes offset) ≠ 0 then none
  else if refused options.sourceIpv4 headers.sourceIpv4 then none
  else if headers.destinationIpv4 ≠ options.destinationIpv4 then none
  else if headers.sourcePort = 0 ∨ headers.destinationPort = 0 then none
  else if refused options.destinationPort headers.destinationPort then none
  else if refused options.sourcePort headers.sourcePort then none
  else some headers

/-! ### Datagrams and segments -/

structure Datagram where
  headers : Headers
  udpChecksumPresent : Bool
  frameLength : Nat
  payloadOffset : Nat
  payload : Bytes
  deriving DecidableEq, Repr

abbrev udpHeaderBytes : Nat := 8

/-- What follows the headers of a datagram. -/
def Udp.readDatagram (frame : Bytes) (headers : Headers) : Option Datagram :=
  let udpLength := readNetwork16 frame (headers.offset + 4)
  let checksum := readNetwork16 frame (headers.offset + 6)
  let packet := slice frame headers.offset (headers.offset + udpLength)
  if udpLength < udpHeaderBytes ∨ udpLength ≠ headers.length then none
  else if checksum ≠ 0 ∧
      transportChecksum ipv4ProtocolUdp headers.sourceIpv4 headers.destinationIpv4 packet ≠ 0 then none
  else
    some
      { headers
        udpChecksumPresent := checksum ≠ 0
        frameLength := frame.length
        payloadOffset := headers.offset + udpHeaderBytes
        payload := slice frame (headers.offset + udpHeaderBytes) (headers.offset + udpLength) }

def Udp.parseFrame (frame : Bytes) (options : ParseOptions) : Option Datagram :=
  (parseHeaders ipv4ProtocolUdp udpHeaderBytes frame options).bind (Udp.readDatagram frame)

structure Segment where
  headers : Headers
  sequenceNumber : Nat
  acknowledgementNumber : Nat
  flags : Nat
  windowSize : Nat
  checksum : Nat
  urgentPointer : Nat
  headerLength : Nat
  frameLength : Nat
  options : Bytes
  payload : Bytes

abbrev tcpMinimumHeaderBytes : Nat := 20

/-- What follows the headers of a segment. -/
def Tcp.readSegment (frame : Bytes) (headers : Headers) : Option Segment :=
  let word := byteAt frame (headers.offset + 12)
  let headerLength := word / 2 ^ 4 * 4
  let checksum := readNetwork16 frame (headers.offset + 16)
  let flags := word % 2 * 2 ^ 8 + byteAt frame (headers.offset + 13)
  let urgentPointer := readNetwork16 frame (headers.offset + 18)
  let packet := slice frame headers.offset (headers.offset + headers.length)
  if headerLength < tcpMinimumHeaderBytes ∨ headerLength > headers.length then none
  else if word / 2 % 2 ^ 3 ≠ 0 then none
  else if checksum = 0 ∨
      transportChecksum ipv4ProtocolTcp headers.sourceIpv4 headers.destinationIpv4 packet ≠ 0 then none
  else if flags / 2 ^ 5 % 2 = 0 ∧ urgentPointer ≠ 0 then none
  else
    some
      { headers
        sequenceNumber := readNetwork32 frame (headers.offset + 4)
        acknowledgementNumber := readNetwork32 frame (headers.offset + 8)
        flags
        windowSize := readNetwork16 frame (headers.offset + 14)
        checksum
        urgentPointer
        headerLength
        frameLength := frame.length
        options := slice frame (headers.offset + tcpMinimumHeaderBytes) (headers.offset + headerLength)
        payload := slice frame (headers.offset + headerLength) (headers.offset + headers.length) }

def Tcp.parseFrame (frame : Bytes) (options : ParseOptions) : Option Segment :=
  (parseHeaders ipv4ProtocolTcp tcpMinimumHeaderBytes frame options).bind (Tcp.readSegment frame)

/-! ### Kinds of packets -/

inductive PacketKind where
  | arp | icmp | tcp | udp | unknown
  deriving DecidableEq, Repr

def classifyPacket (frame : Bytes) : PacketKind :=
  let ihlBytes := byteAt frame 14 % 2 ^ 4 * 4
  let totalLength := readNetwork16 frame 16
  if frame.length < ethernetHeaderBytes then .unknown
  else if readNetwork16 frame 12 = etherTypeArp then .arp
  else if readNetwork16 frame 12 ≠ etherTypeIpv4 ∨
      frame.length < ethernetHeaderBytes + ipv4MinimumHeaderBytes then .unknown
  else if byteAt frame 14 / 2 ^ 4 ≠ 4 then .unknown
  else if ihlBytes < ipv4MinimumHeaderBytes ∨ ethernetHeaderBytes + ihlBytes > frame.length then .unknown
  else if totalLength < ihlBytes ∨ ethernetHeaderBytes + totalLength > frame.length then .unknown
  else if readNetwork16 frame 20 % 2 ^ 14 ≠ 0 then .unknown
  else if byteAt frame 23 = ipv4ProtocolIcmp then .icmp
  else if byteAt frame 23 = ipv4ProtocolTcp then .tcp
  else if byteAt frame 23 = ipv4ProtocolUdp then .udp
  else .unknown

/-! ### Asking for more -/

/-- The same question for the frames of anyone. -/
def ParseOptions.anyone (options : ParseOptions) : ParseOptions :=
  { destinationMac := options.destinationMac, destinationIpv4 := options.destinationIpv4 }

/-- The headers are among those asked for. -/
def ParseOptions.Admits (options : ParseOptions) (headers : Headers) : Prop :=
  refused options.sourceMac headers.sourceMac = false ∧
    refused options.sourceIpv4 headers.sourceIpv4 = false ∧
      refused options.destinationPort headers.destinationPort = false ∧
        refused options.sourcePort headers.sourcePort = false

theorem parseHeaders_iff {protocol minimumHeaderBytes : Nat} {frame : Bytes} {options : ParseOptions}
    {headers : Headers} :
    parseHeaders protocol minimumHeaderBytes frame options = some headers ↔
      parseHeaders protocol minimumHeaderBytes frame options.anyone = some headers ∧
        options.Admits headers := by
  have all {Value : Type} [DecidableEq Value] (value : Value) : refused none value = false := rfl
  unfold parseHeaders ParseOptions.anyone ParseOptions.Admits
  simp only [Option.ite_none_left_eq_some, Option.some.injEq, all, Bool.false_eq_true,
    not_false_eq_true, true_and, Bool.not_eq_true]
  constructor
  · rintro ⟨long, mac, macs, ether, version, header, total, protocol, whole, sum, addresses, address,
      ports, destinations, sources, rfl⟩
    exact ⟨⟨long, mac, ether, version, header, total, protocol, whole, sum, address, ports, rfl⟩,
      macs, addresses, destinations, sources⟩
  · rintro ⟨⟨long, mac, ether, version, header, total, protocol, whole, sum, address, ports, rfl⟩,
      macs, addresses, destinations, sources⟩
    exact ⟨long, mac, macs, ether, version, header, total, protocol, whole, sum, addresses, address,
      ports, destinations, sources, rfl⟩

namespace Udp

variable {frame : Bytes} {datagram : Datagram}

theorem readDatagram_headers {headers : Headers}
    (read : readDatagram frame headers = some datagram) : datagram.headers = headers := by
  unfold readDatagram at read
  simp only [Option.ite_none_left_eq_some, Option.some.injEq] at read
  rw [← read.2.2]

variable {options : ParseOptions}

/-- A caller that asks for more gets the same datagram, or none. -/
theorem parseFrame_iff : parseFrame frame options = some datagram ↔
      parseFrame frame options.anyone = some datagram ∧ options.Admits datagram.headers := by
  unfold parseFrame
  simp only [Option.bind_eq_some_iff]
  constructor
  · rintro ⟨headers, parsed, read⟩
    obtain ⟨anyone, admits⟩ := parseHeaders_iff.mp parsed
    rw [readDatagram_headers read]
    exact ⟨⟨headers, anyone, read⟩, admits⟩
  · rintro ⟨⟨headers, anyone, read⟩, admits⟩
    rw [readDatagram_headers read] at admits
    exact ⟨headers, parseHeaders_iff.mpr ⟨anyone, admits⟩, read⟩

/-- The payload lies inside the frame. -/
theorem payload_inside (parsed : parseFrame frame options = some datagram) :
    datagram.payloadOffset ≤ frame.length ∧
      datagram.payload.length ≤ frame.length - datagram.payloadOffset := by
  obtain ⟨headers, parsed, read⟩ := Option.bind_eq_some_iff.mp parsed
  unfold parseHeaders at parsed
  unfold readDatagram at read
  simp only [Option.ite_none_left_eq_some, Option.some.injEq, not_or, not_not, Nat.not_lt] at parsed read
  obtain ⟨-, -, -, -, -, -, total, -, -, -, -, -, -, -, -, rfl⟩ := parsed
  obtain ⟨length, -, rfl⟩ := read
  dsimp only at length ⊢
  refine ⟨by omega, ?_⟩
  unfold slice
  rw [List.length_take, List.length_drop]
  exact Nat.min_le_right _ _

/-- What parses as a datagram is classified as one. -/
theorem classifyPacket_of_parseFrame
    (parsed : parseFrame frame options = some datagram) : classifyPacket frame = .udp := by
  obtain ⟨headers, parsed, -⟩ := Option.bind_eq_some_iff.mp parsed
  unfold parseHeaders at parsed
  simp only [Option.ite_none_left_eq_some, not_or, not_not, Nat.not_lt] at parsed
  obtain ⟨long, -, -, ether, version, header, total, protocol, whole, -⟩ := parsed
  have wide : ethernetHeaderBytes ≤ frame.length := by omega
  have whole' : ethernetHeaderBytes + ipv4MinimumHeaderBytes ≤ frame.length := by omega
  have covered : byteAt frame 14 % 2 ^ 4 * 4 ≤ readNetwork16 frame 16 := by omega
  unfold classifyPacket
  simp only [ether, version, whole, protocol.1, Nat.not_lt.mpr wide, Nat.not_lt.mpr whole',
    Nat.not_lt.mpr covered, Nat.not_lt.mpr header.1, Nat.not_lt.mpr header.2, Nat.not_lt.mpr total.2,
    if_false, or_self, ne_eq, not_true_eq_false]
  rfl

end Udp

end ZigOs.E1000e
