/-
This file builds frames and reads them back. The UDP and the TCP module write the same
Ethernet and Internet headers around their own packet, so these stand here once. Every frame
that is built is read as what it was built from, whatever stands behind it.
-/

import ZigOs.E1000e.Checksum

namespace ZigOs.E1000e

open WordSum List

abbrev ethernetMinimumFrameBytes : Nat := 60
abbrev ipv4DontFragment : Nat := 2 ^ 14
abbrev maximumLength : Nat := 2 ^ 16 - 1

structure MacAddress where
  first : UInt8
  second : UInt8
  third : UInt8
  fourth : UInt8
  fifth : UInt8
  sixth : UInt8

def MacAddress.bytes (address : MacAddress) : Bytes :=
  [address.first, address.second, address.third, address.fourth, address.fifth, address.sixth]

structure Ipv4Address where
  first : UInt8
  second : UInt8
  third : UInt8
  fourth : UInt8

def Ipv4Address.bytes (address : Ipv4Address) : Bytes :=
  [address.first, address.second, address.third, address.fourth]

/-- What the frames of both protocols are built from. -/
structure FrameOptions where
  sourceMac : MacAddress
  destinationMac : MacAddress
  sourceIpv4 : Ipv4Address
  destinationIpv4 : Ipv4Address
  sourcePort : UInt16
  destinationPort : UInt16
  identification : UInt16
  ttl : UInt8 := 64

structure Udp.BuildOptions extends FrameOptions where
  payload : Bytes

structure Tcp.BuildOptions extends FrameOptions where
  sequenceNumber : UInt32
  acknowledgementNumber : UInt32 := 0
  flags : BitVec 9
  windowSize : UInt16
  urgentPointer : UInt16 := 0
  options : Bytes := []
  payload : Bytes := []

/-! ### Building -/

def network16 (value : Nat) : Bytes := [UInt8.ofNat (value / 2 ^ 8), UInt8.ofNat value]

def network32 (value : Nat) : Bytes := network16 (value / 2 ^ 16) ++ network16 value

@[simp]
theorem network16_length (value : Nat) : (network16 value).length = 2 := rfl

@[simp]
theorem network32_length (value : Nat) : (network32 value).length = 4 := rfl

@[simp]
theorem MacAddress.bytes_length (address : MacAddress) : address.bytes.length = 6 := rfl

@[simp]
theorem Ipv4Address.bytes_length (address : Ipv4Address) : address.bytes.length = 4 := rfl

namespace FrameOptions

variable (options : FrameOptions)

def ethernetHeader : Bytes :=
  options.destinationMac.bytes ++ options.sourceMac.bytes ++ network16 etherTypeIpv4

def ipv4Header (protocol packetLength checksum : Nat) : Bytes :=
  [0x45, 0] ++ network16 (ipv4MinimumHeaderBytes + packetLength) ++
    network16 options.identification.toNat ++ network16 ipv4DontFragment ++
    [options.ttl, UInt8.ofNat protocol] ++ network16 checksum ++ options.sourceIpv4.bytes ++
    options.destinationIpv4.bytes

/-- What comes before the packet. -/
def buildHeaders (protocol packetLength : Nat) : Bytes :=
  options.ethernetHeader ++ options.ipv4Header protocol packetLength
    (internetChecksum (options.ipv4Header protocol packetLength 0))

def refusesPorts : Prop :=
  options.sourcePort = 0 ∨ options.destinationPort = 0 ∨ options.ttl = 0

instance : Decidable options.refusesPorts := inferInstanceAs (Decidable (_ ∨ _))

/-- The checksum of a packet; zero is written as its other name. -/
def packetChecksum (protocol : Nat) (packet : Bytes) : Nat :=
  let checksum :=
    transportChecksum protocol options.sourceIpv4.bytes options.destinationIpv4.bytes packet
  if checksum = 0 then 0xFFFF else checksum

end FrameOptions

/-- The length of the frame around a packet, if it has one and the buffer holds it. -/
def frameLengthFor (capacity packetLength : Nat) : Option Nat :=
  let totalLength := ipv4MinimumHeaderBytes + packetLength
  let frameLength := max (ethernetHeaderBytes + totalLength) ethernetMinimumFrameBytes
  if maximumLength < packetLength then none
  else if maximumLength < totalLength then none
  else if capacity < frameLength ∨ maximumLength < frameLength then none
  else some frameLength

/-- The bytes with zeros behind them up to a length. -/
def padTo (length : Nat) (bytes : Bytes) : Bytes := bytes ++ List.replicate (length - bytes.length) 0

namespace Udp

def BuildOptions.packet (options : BuildOptions) (checksum : Nat) : Bytes :=
  network16 options.sourcePort.toNat ++ network16 options.destinationPort.toNat ++
    network16 (udpHeaderBytes + options.payload.length) ++ network16 checksum ++ options.payload

def BuildOptions.checksum (options : BuildOptions) : Nat :=
  options.packetChecksum ipv4ProtocolUdp (options.packet 0)

def buildFrame (capacity : Nat) (options : BuildOptions) : Option Bytes :=
  if options.refusesPorts then none
  else do
    let udpLength := udpHeaderBytes + options.payload.length
    let frameLength ← frameLengthFor capacity udpLength
    some (padTo frameLength (options.buildHeaders ipv4ProtocolUdp udpLength ++
      options.packet options.checksum))

end Udp

namespace Tcp

abbrev maximumOptionsBytes : Nat := 40

def BuildOptions.headerLength (options : BuildOptions) : Nat :=
  tcpMinimumHeaderBytes + options.options.length

def BuildOptions.packet (options : BuildOptions) (checksum : Nat) : Bytes :=
  network16 options.sourcePort.toNat ++ network16 options.destinationPort.toNat ++
    network32 options.sequenceNumber.toNat ++ network32 options.acknowledgementNumber.toNat ++
    [UInt8.ofNat (options.headerLength / 4 * 2 ^ 4 + options.flags.toNat / 2 ^ 8),
      UInt8.ofNat options.flags.toNat] ++ network16 options.windowSize.toNat ++
    network16 checksum ++ network16 options.urgentPointer.toNat ++ options.options ++
    options.payload

def BuildOptions.checksum (options : BuildOptions) : Nat :=
  options.packetChecksum ipv4ProtocolTcp (options.packet 0)

def buildFrame (capacity : Nat) (options : BuildOptions) : Option Bytes :=
  if options.refusesPorts then none
  else if maximumOptionsBytes < options.options.length ∨ options.options.length % 4 ≠ 0 then none
  else if options.flags.toNat / 2 ^ 5 % 2 = 0 ∧ options.urgentPointer ≠ 0 then none
  else do
    let tcpLength := options.headerLength + options.payload.length
    let frameLength ← frameLengthFor capacity tcpLength
    some (padTo frameLength (options.buildHeaders ipv4ProtocolTcp tcpLength ++
      options.packet options.checksum))

end Tcp

/-! ### Reading back -/

/-- The question is for frames with these addresses and ports. -/
structure FrameOptions.Asked (options : FrameOptions) (question : ParseOptions) : Prop where
  destinationMac : question.destinationMac = options.destinationMac.bytes
  destinationIpv4 : question.destinationIpv4 = options.destinationIpv4.bytes
  sourceMac : ∀ wanted ∈ question.sourceMac, wanted = options.sourceMac.bytes
  sourceIpv4 : ∀ wanted ∈ question.sourceIpv4, wanted = options.sourceIpv4.bytes
  destinationPort : ∀ wanted ∈ question.destinationPort, wanted = options.destinationPort.toNat
  sourcePort : ∀ wanted ∈ question.sourcePort, wanted = options.sourcePort.toNat

/-- The headers of a frame around a packet. -/
def FrameOptions.headers (options : FrameOptions) (packetLength : Nat) : Headers where
  sourceMac := options.sourceMac.bytes
  destinationMac := options.destinationMac.bytes
  sourceIpv4 := options.sourceIpv4.bytes
  destinationIpv4 := options.destinationIpv4.bytes
  sourcePort := options.sourcePort.toNat
  destinationPort := options.destinationPort.toNat
  ttl := options.ttl.toNat
  identification := options.identification.toNat
  offset := ethernetHeaderBytes + ipv4MinimumHeaderBytes
  length := packetLength

/-- What a built datagram is read as. -/
def Udp.BuildOptions.datagram (options : BuildOptions) (frameLength : Nat) : Datagram where
  headers := options.headers (udpHeaderBytes + options.payload.length)
  udpChecksumPresent := true
  frameLength
  payloadOffset := ethernetHeaderBytes + ipv4MinimumHeaderBytes + udpHeaderBytes
  payload := options.payload

/-- What a built segment is read as. -/
def Tcp.BuildOptions.segment (options : BuildOptions) (frameLength : Nat) : Segment where
  headers := options.headers (options.headerLength + options.payload.length)
  sequenceNumber := options.sequenceNumber.toNat
  acknowledgementNumber := options.acknowledgementNumber.toNat
  flags := options.flags.toNat
  windowSize := options.windowSize.toNat
  checksum := options.checksum
  urgentPointer := options.urgentPointer.toNat
  headerLength := options.headerLength
  frameLength
  options := options.options
  payload := options.payload

section Headers

variable {options : FrameOptions} {question : ParseOptions}

theorem network16_value {value : Nat} (fits : value < 2 ^ 16) :
    (UInt8.ofNat (value / 2 ^ 8)).toNat * 2 ^ 8 + (UInt8.ofNat value).toNat = value := by
  rw [UInt8.toNat_ofNat', UInt8.toNat_ofNat']
  omega

theorem network32_value {value : Nat} (fits : value < 2 ^ 32) :
    ((UInt8.ofNat (value / 2 ^ 16 / 2 ^ 8)).toNat * 2 ^ 8 + (UInt8.ofNat (value / 2 ^ 16)).toNat) *
        2 ^ 16 + ((UInt8.ofNat (value / 2 ^ 8)).toNat * 2 ^ 8 + (UInt8.ofNat value).toNat) =
      value := by
  simp only [UInt8.toNat_ofNat']
  omega

theorem not_refused {Value : Type} [DecidableEq Value] {expected : Option Value} {value : Value}
    (wanted : ∀ other ∈ expected, other = value) : ¬refused expected value = true := by
  intro refuses
  obtain ⟨other, member, differs⟩ := (Option.any_eq_true _ _).mp refuses
  exact bne_iff_ne.mp differs (wanted other member)

theorem wordSum_network16 {value : Nat} (fits : value < 2 ^ 16) : wordSum (network16 value) = value := by
  rw [network16, wordSum, wordSum, Nat.add_zero]
  exact network16_value fits

/-- Only the checksum field of a header changes with the checksum. -/
theorem wordSum_ipv4Header (protocol packetLength : Nat) {checksum : Nat} (fits : checksum < 2 ^ 16) :
    wordSum (options.ipv4Header protocol packetLength checksum) =
      wordSum (options.ipv4Header protocol packetLength 0) + checksum := by
  have split (checksum : Nat) (fits : checksum < 2 ^ 16) :
      wordSum (options.ipv4Header protocol packetLength checksum) =
        wordSum ([0x45, 0] ++ network16 (ipv4MinimumHeaderBytes + packetLength) ++
          network16 options.identification.toNat ++ network16 ipv4DontFragment ++
          [options.ttl, UInt8.ofNat protocol]) + checksum + wordSum options.sourceIpv4.bytes +
        wordSum options.destinationIpv4.bytes := by
    unfold FrameOptions.ipv4Header
    rw [wordSum_append (by simp), wordSum_append (by simp), wordSum_append (by simp),
      wordSum_network16 fits]
  rw [split checksum fits, split 0 (by decide)]
  omega

theorem internetChecksum_ipv4Header (protocol packetLength : Nat) :
    internetChecksum (options.ipv4Header protocol packetLength
      (internetChecksum (options.ipv4Header protocol packetLength 0))) = 0 := by
  have sum := @wordSum_ipv4Header options protocol packetLength _
    (finalizeChecksum_lt (addChecksumBytes 0 (options.ipv4Header protocol packetLength 0)))
  refine internetChecksum_of_wordSum ?_ ?_
  · exact Nat.add_pos_left (Nat.add_pos_left (by decide) _) _
  · refine (congrArg (· % (2 ^ 16 - 1)) sum).trans ?_
    exact wordSum_add_internetChecksum (options.ipv4Header protocol packetLength 0)

/-- The headers are read back in front of a packet that starts with the ports. -/
theorem parseHeaders_buildHeaders {protocol minimumHeaderBytes packetLength : Nat} {tail : Bytes}
    (asked : options.Asked question) (ports : ¬options.refusesPorts) (protocolFits : protocol < 2 ^ 8)
    (minimum : minimumHeaderBytes ≤ packetLength) (total : 20 + packetLength < 2 ^ 16)
    (tailLong : packetLength ≤ 4 + tail.length) :
    parseHeaders protocol minimumHeaderBytes (options.buildHeaders protocol packetLength ++
        (network16 options.sourcePort.toNat ++ (network16 options.destinationPort.toNat ++ tail)))
      question = some (options.headers packetLength) := by
  generalize framed : options.buildHeaders protocol packetLength ++
    (network16 options.sourcePort.toNat ++ (network16 options.destinationPort.toNat ++ tail)) = frame
  have long : frame.length = 38 + tail.length := by
    rw [← framed]
    simp [FrameOptions.buildHeaders, FrameOptions.ethernetHeader, FrameOptions.ipv4Header]
    omega
  have version : byteAt frame 14 = 0x45 := by rw [← framed]; rfl
  have ether : readNetwork16 frame 12 = etherTypeIpv4 := by
    rw [← framed]
    exact network16_value (show 0x0800 < 2 ^ 16 by decide)
  have totalRead : readNetwork16 frame 16 = 20 + packetLength := by
    rw [← framed]
    show (UInt8.ofNat ((20 + packetLength) / 2 ^ 8)).toNat * 2 ^ 8 +
      (UInt8.ofNat (20 + packetLength)).toNat = 20 + packetLength
    exact network16_value total
  have identification : readNetwork16 frame 18 = options.identification.toNat := by
    rw [← framed]
    exact network16_value options.identification.toNat_lt
  have fragment : readNetwork16 frame 20 = ipv4DontFragment := by
    rw [← framed]
    exact network16_value (show 2 ^ 14 < 2 ^ 16 by decide)
  have protocolRead : byteAt frame 23 = protocol := by
    rw [← framed]
    exact UInt8.toNat_ofNat_of_lt' protocolFits
  have sum : internetChecksum (slice frame 14 34) = 0 := by
    rw [← framed]
    exact internetChecksum_ipv4Header protocol packetLength
  have sourcePort : readNetwork16 frame 34 = options.sourcePort.toNat := by
    rw [← framed]
    exact network16_value options.sourcePort.toNat_lt
  have destinationPort : readNetwork16 frame 36 = options.destinationPort.toNat := by
    rw [← framed]
    exact network16_value options.destinationPort.toNat_lt
  have ttl : byteAt frame 22 = options.ttl.toNat := by rw [← framed]; rfl
  have sourceMac : slice frame 6 12 = options.sourceMac.bytes := by rw [← framed]; rfl
  have destinationMac : slice frame 0 6 = options.destinationMac.bytes := by rw [← framed]; rfl
  have sourceIpv4 : slice frame 26 30 = options.sourceIpv4.bytes := by rw [← framed]; rfl
  have destinationIpv4 : slice frame 30 34 = options.destinationIpv4.bytes := by rw [← framed]; rfl
  have named : ¬(options.sourcePort.toNat = 0 ∨ options.destinationPort.toNat = 0) :=
    fun zero => ports (zero.imp UInt16.toNat_inj.mp fun other => .inl (UInt16.toNat_inj.mp other))
  have alive : ¬options.ttl.toNat = 0 := fun zero => ports (.inr (.inr (UInt8.toNat_inj.mp zero)))
  have ethernet : ethernetHeaderBytes = 14 := rfl
  have internet : ipv4MinimumHeaderBytes = 20 := rfl
  have ihl : 0x45 % 2 ^ 4 * 4 = 20 := rfl
  unfold parseHeaders
  simp only [version, ether, totalRead, identification, protocolRead, ttl, sourceMac,
    destinationMac, sourceIpv4, destinationIpv4, ihl, ethernet, internet]
  rw [if_neg (by omega), if_neg (not_not.mpr asked.destinationMac.symm),
    if_neg (not_refused asked.sourceMac), if_neg (not_not.mpr rfl), if_neg (by decide),
    if_neg (by omega), if_neg (by omega), if_neg (not_or.mpr ⟨not_not.mpr rfl, alive⟩),
    if_neg (by rw [fragment]; decide), if_neg (not_not.mpr sum),
    if_neg (not_refused asked.sourceIpv4), if_neg (not_not.mpr asked.destinationIpv4.symm)]
  simp only [sourcePort, destinationPort]
  rw [if_neg named, if_neg (not_refused asked.destinationPort),
    if_neg (not_refused asked.sourcePort), Nat.add_sub_cancel_left]
  rfl

theorem packetChecksum_pos (protocol : Nat) (packet : Bytes) :
    0 < options.packetChecksum protocol packet := by
  unfold FrameOptions.packetChecksum
  dsimp only
  split
  · decide
  · exact Nat.pos_of_ne_zero ‹_›

theorem packetChecksum_lt (protocol : Nat) (packet : Bytes) :
    options.packetChecksum protocol packet < 2 ^ 16 := by
  unfold FrameOptions.packetChecksum
  dsimp only
  split
  · decide
  · exact finalizeChecksum_lt _

/-- A packet with its checksum written into the field that was zero passes the check. -/
theorem transportChecksum_packetChecksum {protocol : Nat} {packet : Nat → Bytes}
    (protocolFits : protocol < 2 ^ 8) (positive : 0 < protocol)
    (fits : (packet 0).length < 2 ^ 16) (lengths : ∀ checksum, (packet checksum).length = (packet 0).length)
    (sums : ∀ checksum < 2 ^ 16, wordSum (packet checksum) = wordSum (packet 0) + checksum) :
    transportChecksum protocol options.sourceIpv4.bytes options.destinationIpv4.bytes
      (packet (options.packetChecksum protocol (packet 0))) = 0 := by
  have whole := @coveredSum_add_transportChecksum protocol options.sourceIpv4.bytes
    options.destinationIpv4.bytes (packet 0) protocolFits fits
  -- the two names of zero are the same modulo the modulus
  have otherZero : 0xFFFF ≡ 0 [MOD 2 ^ 16 - 1] := by decide
  have named : coveredSum protocol options.sourceIpv4.bytes options.destinationIpv4.bytes (packet 0) +
      options.packetChecksum protocol (packet 0) ≡ 0 [MOD 2 ^ 16 - 1] := by
    unfold FrameOptions.packetChecksum
    dsimp only
    split
    · rename_i zero
      rw [zero] at whole
      exact (Nat.ModEq.add_left _ otherZero).trans whole
    · exact whole
  refine transportChecksum_of_coveredSum protocolFits (lengths _ ▸ fits) positive ?_
  refine (congrArg (· % (2 ^ 16 - 1)) ?_).trans named
  unfold coveredSum
  rw [lengths, sums _ (packetChecksum_lt protocol (packet 0)), ← Nat.add_assoc]

end Headers

theorem frameLengthFor_some {capacity packetLength frameLength : Nat}
    (fits : frameLengthFor capacity packetLength = some frameLength) :
    20 + packetLength < 2 ^ 16 ∧ frameLength ≤ capacity ∧ frameLength < 2 ^ 16 ∧
      14 + (20 + packetLength) ≤ frameLength := by
  unfold frameLengthFor at fits
  simp only [Option.ite_none_left_eq_some, Option.some.injEq, not_or, Nat.not_lt] at fits
  obtain ⟨-, total, ⟨room, whole⟩, rfl⟩ := fits
  exact ⟨Nat.lt_succ_of_le total, room, Nat.lt_succ_of_le whole, Nat.le_max_left _ _⟩

namespace Udp

variable {options : BuildOptions}

theorem BuildOptions.packet_length (options : BuildOptions) (checksum : Nat) :
    (options.packet checksum).length = udpHeaderBytes + options.payload.length := by
  have header : udpHeaderBytes = 8 := rfl
  unfold BuildOptions.packet
  simp only [length_append, network16_length, header]

theorem wordSum_packet {checksum : Nat} (fits : checksum < 2 ^ 16) :
    wordSum (options.packet checksum) = wordSum (options.packet 0) + checksum := by
  have split (checksum : Nat) (fits : checksum < 2 ^ 16) : wordSum (options.packet checksum) =
      wordSum (network16 options.sourcePort.toNat ++ network16 options.destinationPort.toNat ++
        network16 (udpHeaderBytes + options.payload.length)) + checksum +
        wordSum options.payload := by
    unfold BuildOptions.packet
    rw [wordSum_append (by simp), wordSum_append (by simp), wordSum_network16 fits]
  rw [split checksum fits, split 0 (by decide)]
  omega

/-- A built datagram is read back, whatever stands behind it. -/
theorem parseFrame_buildFrame {capacity : Nat} {frame : Bytes} {question : ParseOptions}
    (built : buildFrame capacity options = some frame) (asked : options.Asked question)
    (rest : Bytes) :
    parseFrame (frame ++ rest) question = some (options.datagram (frame.length + rest.length)) := by
  unfold buildFrame at built
  split at built
  · cases built
  rename_i ports
  obtain ⟨frameLength, fits, built⟩ := Option.bind_eq_some_iff.mp built
  obtain ⟨total, -, -, -⟩ := frameLengthFor_some fits
  have lengthFits : udpHeaderBytes + options.payload.length < 2 ^ 16 := by omega
  obtain ⟨behind, whole⟩ : ∃ behind, frame ++ rest =
      options.buildHeaders ipv4ProtocolUdp (udpHeaderBytes + options.payload.length) ++
        (options.packet options.checksum ++ behind) :=
    ⟨_, by rw [← Option.some.inj built, padTo, append_assoc, append_assoc]⟩
  rw [← length_append, whole]
  generalize tailed : network16 (udpHeaderBytes + options.payload.length) ++
    (network16 options.checksum ++ (options.payload ++ behind)) = tail
  have split : options.packet options.checksum ++ behind =
      network16 options.sourcePort.toNat ++ (network16 options.destinationPort.toNat ++ tail) := by
    rw [← tailed]
    unfold BuildOptions.packet
    simp only [append_assoc]
  have header : udpHeaderBytes = 8 := rfl
  have tailLength : udpHeaderBytes + options.payload.length ≤ 4 + tail.length := by
    rw [← tailed]
    simp only [length_append, network16_length]
    omega
  have headers := parseHeaders_buildHeaders asked ports (show ipv4ProtocolUdp < 2 ^ 8 by decide)
    (Nat.le_add_right udpHeaderBytes options.payload.length) total tailLength
  have sum : transportChecksum ipv4ProtocolUdp options.sourceIpv4.bytes options.destinationIpv4.bytes
      (options.packet options.checksum) = 0 :=
    transportChecksum_packetChecksum (by decide) (by decide) (options.packet_length 0 ▸ lengthFits)
      (fun checksum => (options.packet_length checksum).trans (options.packet_length 0).symm)
      (fun _ fits => wordSum_packet fits)
  have checksumFits : options.checksum < 2 ^ 16 := packetChecksum_lt _ _
  have checksumPositive : 0 < options.checksum := packetChecksum_pos _ _
  unfold parseFrame
  rw [split, headers]
  generalize framed : options.buildHeaders ipv4ProtocolUdp (udpHeaderBytes + options.payload.length) ++
    (network16 options.sourcePort.toNat ++ (network16 options.destinationPort.toNat ++ tail)) = frame
  have lengthRead : readNetwork16 frame 38 = udpHeaderBytes + options.payload.length := by
    rw [← framed, ← tailed]
    exact network16_value lengthFits
  have checksumRead : readNetwork16 frame 40 = options.checksum := by
    rw [← framed, ← tailed]
    exact network16_value checksumFits
  have packet : slice frame 34 (34 + (udpHeaderBytes + options.payload.length)) =
      options.packet options.checksum := by
    rw [← framed, ← split, slice, Nat.add_sub_cancel_left, ← options.packet_length options.checksum]
    exact take_left
  have payload : slice frame 42 (34 + (udpHeaderBytes + options.payload.length)) =
      options.payload := by
    have length : 34 + (udpHeaderBytes + options.payload.length) - 42 = options.payload.length := by
      omega
    rw [← framed, ← tailed, slice, length]
    exact take_left
  show (if readNetwork16 frame 38 < udpHeaderBytes ∨ readNetwork16 frame 38 ≠ _ then none
    else if readNetwork16 frame 40 ≠ 0 ∧ transportChecksum ipv4ProtocolUdp options.sourceIpv4.bytes
      options.destinationIpv4.bytes (slice frame 34 (34 + readNetwork16 frame 38)) ≠ 0 then none
    else some (Datagram.mk (options.headers (udpHeaderBytes + options.payload.length))
      (readNetwork16 frame 40 ≠ 0) frame.length 42 (slice frame 42 (34 + readNetwork16 frame 38)))) = _
  rw [lengthRead, checksumRead, packet, payload]
  refine (if_neg (not_or.mpr ⟨Nat.not_lt.mpr (Nat.le_add_right _ _), not_not.mpr rfl⟩)).trans ?_
  rw [if_neg (fun both => both.2 sum), decide_eq_true (Nat.pos_iff_ne_zero.mp checksumPositive)]
  rfl

end Udp

namespace Tcp

variable {options : BuildOptions}

theorem BuildOptions.packet_length (options : BuildOptions) (checksum : Nat) :
    (options.packet checksum).length = options.headerLength + options.payload.length := by
  have header : tcpMinimumHeaderBytes = 20 := rfl
  unfold BuildOptions.packet BuildOptions.headerLength
  simp only [length_append, network16_length, network32_length, length_cons, length_nil, header]

theorem wordSum_packet {checksum : Nat} (fits : checksum < 2 ^ 16) :
    wordSum (options.packet checksum) = wordSum (options.packet 0) + checksum := by
  have split (checksum : Nat) (fits : checksum < 2 ^ 16) : wordSum (options.packet checksum) =
      wordSum (network16 options.sourcePort.toNat ++ network16 options.destinationPort.toNat ++
        network32 options.sequenceNumber.toNat ++ network32 options.acknowledgementNumber.toNat ++
        [UInt8.ofNat (options.headerLength / 4 * 2 ^ 4 + options.flags.toNat / 2 ^ 8),
          UInt8.ofNat options.flags.toNat] ++ network16 options.windowSize.toNat) + checksum +
        wordSum (network16 options.urgentPointer.toNat ++ (options.options ++ options.payload)) := by
    unfold BuildOptions.packet
    rw [append_assoc _ options.options, append_assoc _ (network16 _) (_ ++ _),
      wordSum_append (by simp), wordSum_append (by simp), wordSum_network16 fits]
  rw [split checksum fits, split 0 (by decide)]
  omega

/-- A built segment is read back, whatever stands behind it. -/
theorem parseFrame_buildFrame {capacity : Nat} {frame : Bytes} {question : ParseOptions}
    (built : buildFrame capacity options = some frame) (asked : options.Asked question)
    (rest : Bytes) :
    parseFrame (frame ++ rest) question = some (options.segment (frame.length + rest.length)) := by
  unfold buildFrame at built
  simp only [Option.ite_none_left_eq_some, not_or, Nat.not_lt, not_not] at built
  obtain ⟨ports, ⟨optionsShort, aligned⟩, urgent, built⟩ := built
  obtain ⟨frameLength, fits, built⟩ := Option.bind_eq_some_iff.mp built
  obtain ⟨total, -, -, -⟩ := frameLengthFor_some fits
  have lengthFits : options.headerLength + options.payload.length < 2 ^ 16 := by omega
  obtain ⟨behind, whole⟩ : ∃ behind, frame ++ rest =
      options.buildHeaders ipv4ProtocolTcp (options.headerLength + options.payload.length) ++
        (options.packet options.checksum ++ behind) :=
    ⟨_, by rw [← Option.some.inj built, padTo, append_assoc, append_assoc]⟩
  rw [← length_append, whole]
  generalize wordDef : UInt8.ofNat (options.headerLength / 4 * 2 ^ 4 + options.flags.toNat / 2 ^ 8) =
    word
  generalize tailed : network32 options.sequenceNumber.toNat ++
    (network32 options.acknowledgementNumber.toNat ++ ([word, UInt8.ofNat options.flags.toNat] ++
      (network16 options.windowSize.toNat ++ (network16 options.checksum ++
        (network16 options.urgentPointer.toNat ++ (options.options ++
          (options.payload ++ behind))))))) = tail
  have split : options.packet options.checksum ++ behind =
      network16 options.sourcePort.toNat ++ (network16 options.destinationPort.toNat ++ tail) := by
    rw [← tailed, ← wordDef]
    unfold BuildOptions.packet
    simp only [append_assoc]
  have header : tcpMinimumHeaderBytes = 20 := rfl
  have headerLength : options.headerLength = 20 + options.options.length := rfl
  have tailLength : options.headerLength + options.payload.length ≤ 4 + tail.length := by
    rw [← tailed]
    simp only [length_append, network16_length, network32_length, length_cons, length_nil]
    omega
  have headers := parseHeaders_buildHeaders asked ports (show ipv4ProtocolTcp < 2 ^ 8 by decide)
    (show tcpMinimumHeaderBytes ≤ options.headerLength + options.payload.length by omega) total
    tailLength
  have sum : transportChecksum ipv4ProtocolTcp options.sourceIpv4.bytes options.destinationIpv4.bytes
      (options.packet options.checksum) = 0 :=
    transportChecksum_packetChecksum (by decide) (by decide) (options.packet_length 0 ▸ lengthFits)
      (fun checksum => (options.packet_length checksum).trans (options.packet_length 0).symm)
      (fun _ fits => wordSum_packet fits)
  have checksumFits : options.checksum < 2 ^ 16 := packetChecksum_lt _ _
  have checksumPositive : 0 < options.checksum := packetChecksum_pos _ _
  have flagsFit : options.flags.toNat < 2 ^ 9 := options.flags.isLt
  have wordValue : word.toNat = options.headerLength / 4 * 2 ^ 4 + options.flags.toNat / 2 ^ 8 := by
    rw [← wordDef, UInt8.toNat_ofNat']
    have optionsFit : options.options.length ≤ 40 := optionsShort
    omega
  unfold parseFrame
  rw [split, headers]
  generalize framed : options.buildHeaders ipv4ProtocolTcp
    (options.headerLength + options.payload.length) ++
      (network16 options.sourcePort.toNat ++ (network16 options.destinationPort.toNat ++ tail)) = frame
  have sequenceRead : readNetwork32 frame 38 = options.sequenceNumber.toNat := by
    rw [← framed, ← tailed]
    exact network32_value options.sequenceNumber.toNat_lt
  have acknowledgementRead : readNetwork32 frame 42 = options.acknowledgementNumber.toNat := by
    rw [← framed, ← tailed]
    exact network32_value options.acknowledgementNumber.toNat_lt
  have wordRead : byteAt frame 46 = word.toNat := by rw [← framed, ← tailed]; rfl
  have flagsRead : byteAt frame 47 = options.flags.toNat % 2 ^ 8 := by
    rw [← framed, ← tailed]
    exact UInt8.toNat_ofNat'
  have windowRead : readNetwork16 frame 48 = options.windowSize.toNat := by
    rw [← framed, ← tailed]
    exact network16_value options.windowSize.toNat_lt
  have checksumRead : readNetwork16 frame 50 = options.checksum := by
    rw [← framed, ← tailed]
    exact network16_value checksumFits
  have urgentRead : readNetwork16 frame 52 = options.urgentPointer.toNat := by
    rw [← framed, ← tailed]
    exact network16_value options.urgentPointer.toNat_lt
  have packet : slice frame 34 (34 + (options.headerLength + options.payload.length)) =
      options.packet options.checksum := by
    rw [← framed, ← split, slice, Nat.add_sub_cancel_left, ← options.packet_length options.checksum]
    exact take_left
  have optionsRead : slice frame 54 (34 + options.headerLength) = options.options := by
    have length : 34 + options.headerLength - 54 = options.options.length := by omega
    rw [← framed, ← tailed, slice, length]
    exact take_left
  have payloadRead : slice frame (34 + options.headerLength)
      (34 + (options.headerLength + options.payload.length)) = options.payload := by
    have length : 34 + (options.headerLength + options.payload.length) -
        (34 + options.headerLength) = options.payload.length := by omega
    have start : 34 + options.headerLength = 54 + options.options.length := by omega
    rw [slice, length, start, ← drop_drop]
    have behindHeader : frame.drop 54 = options.options ++ (options.payload ++ behind) := by
      rw [← framed, ← tailed]
      rfl
    rw [behindHeader, drop_left, take_left]
  have words : word.toNat / 2 ^ 4 * 4 = options.headerLength := by omega
  have flags : word.toNat % 2 * 2 ^ 8 + options.flags.toNat % 2 ^ 8 = options.flags.toNat := by omega
  have urgentFlag : ¬(options.flags.toNat / 2 ^ 5 % 2 = 0 ∧ options.urgentPointer.toNat ≠ 0) :=
    fun both => urgent ⟨both.1, fun zero => both.2 (congrArg UInt16.toNat zero)⟩
  show (if byteAt frame 46 / 2 ^ 4 * 4 < tcpMinimumHeaderBytes ∨ byteAt frame 46 / 2 ^ 4 * 4 >
        options.headerLength + options.payload.length then none
    else if byteAt frame 46 / 2 % 2 ^ 3 ≠ 0 then none
    else if readNetwork16 frame 50 = 0 ∨ transportChecksum ipv4ProtocolTcp options.sourceIpv4.bytes
      options.destinationIpv4.bytes
        (slice frame 34 (34 + (options.headerLength + options.payload.length))) ≠ 0 then none
    else if (byteAt frame 46 % 2 * 2 ^ 8 + byteAt frame 47) / 2 ^ 5 % 2 = 0 ∧
      readNetwork16 frame 52 ≠ 0 then none
    else some (Segment.mk (options.headers (options.headerLength + options.payload.length))
      (readNetwork32 frame 38) (readNetwork32 frame 42)
      (byteAt frame 46 % 2 * 2 ^ 8 + byteAt frame 47) (readNetwork16 frame 48)
      (readNetwork16 frame 50) (readNetwork16 frame 52) (byteAt frame 46 / 2 ^ 4 * 4) frame.length
      (slice frame 54 (34 + byteAt frame 46 / 2 ^ 4 * 4))
      (slice frame (34 + byteAt frame 46 / 2 ^ 4 * 4)
        (34 + (options.headerLength + options.payload.length))))) = _
  rw [wordRead, flagsRead, words, flags, sequenceRead, acknowledgementRead, windowRead, checksumRead,
    urgentRead, packet, optionsRead, payloadRead, if_neg (by omega), if_neg (by omega),
    if_neg (not_or.mpr ⟨Nat.pos_iff_ne_zero.mp checksumPositive, not_not.mpr sum⟩),
    if_neg urgentFlag]
  rfl

end Tcp

end ZigOs.E1000e
