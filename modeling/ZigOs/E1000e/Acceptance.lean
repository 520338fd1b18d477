/-
This file says which frames the TCP parser accepts. A frame is a valid segment when its
lengths agree, its headers are in order and both of its checksums verify. Every valid
segment for the asked address is accepted, unless its checksum field or its time to live is
zero: a sum that comes out as zero is refused, although it verifies.
-/

import ZigOs.E1000e.Checksum

namespace ZigOs.E1000e.Tcp

open WordSum List

/-! ### Valid segments -/

abbrev ihlBytes (frame : Bytes) : Nat := byteAt frame 14 % 2 ^ 4 * 4

/-- Where the segment of a frame begins. -/
abbrev segmentOffset (frame : Bytes) : Nat := ethernetHeaderBytes + ihlBytes frame

abbrev segmentLength (frame : Bytes) : Nat := readNetwork16 frame 16 - ihlBytes frame

abbrev dataOffset (frame : Bytes) : Nat := byteAt frame (segmentOffset frame + 12) / 2 ^ 4 * 4

abbrev checksumField (frame : Bytes) : Nat := readNetwork16 frame (segmentOffset frame + 16)

/-- An unfragmented segment whose lengths agree and whose checksums verify. -/
structure Valid (frame : Bytes) : Prop where
  fits : frame.length < 2 ^ 16
  ether : readNetwork16 frame 12 = etherTypeIpv4
  version : byteAt frame 14 / 2 ^ 4 = 4
  ihl : ipv4MinimumHeaderBytes ≤ ihlBytes frame
  total : ihlBytes frame + tcpMinimumHeaderBytes ≤ readNetwork16 frame 16
  inside : ethernetHeaderBytes + readNetwork16 frame 16 ≤ frame.length
  protocol : byteAt frame 23 = ipv4ProtocolTcp
  unfragmented : readNetwork16 frame 20 % 2 ^ 14 = 0
  headerSum : wordSum (slice frame ethernetHeaderBytes (segmentOffset frame)) ≡ 0 [MOD 2 ^ 16 - 1]
  sourcePort : readNetwork16 frame (segmentOffset frame) ≠ 0
  destinationPort : readNetwork16 frame (segmentOffset frame + 2) ≠ 0
  options : tcpMinimumHeaderBytes ≤ dataOffset frame
  data : dataOffset frame ≤ segmentLength frame
  reserved : byteAt frame (segmentOffset frame + 12) / 2 % 2 ^ 3 = 0
  urgent : byteAt frame (segmentOffset frame + 13) / 2 ^ 5 % 2 = 0 →
    readNetwork16 frame (segmentOffset frame + 18) = 0
  segmentSum : coveredSum ipv4ProtocolTcp (slice frame 26 30) (slice frame 30 34)
    (slice frame (segmentOffset frame) (segmentOffset frame + segmentLength frame)) ≡ 0
      [MOD 2 ^ 16 - 1]

/-- The question is for the destination of the frame, and for no other source or port. -/
structure Matches (question : ParseOptions) (frame : Bytes) : Prop where
  destinationMac : slice frame 0 6 = question.destinationMac
  destinationIpv4 : slice frame 30 34 = question.destinationIpv4
  sourceMac : refused question.sourceMac (slice frame 6 12) = false
  sourceIpv4 : refused question.sourceIpv4 (slice frame 26 30) = false
  destinationPort :
    refused question.destinationPort (readNetwork16 frame (segmentOffset frame + 2)) = false
  sourcePort : refused question.sourcePort (readNetwork16 frame (segmentOffset frame)) = false

/-! ### Acceptance -/

def headersOf (frame : Bytes) : Headers where
  sourceMac := slice frame 6 12
  destinationMac := slice frame 0 6
  sourceIpv4 := slice frame 26 30
  destinationIpv4 := slice frame 30 34
  sourcePort := readNetwork16 frame (segmentOffset frame)
  destinationPort := readNetwork16 frame (segmentOffset frame + 2)
  ttl := byteAt frame 22
  identification := readNetwork16 frame 18
  offset := segmentOffset frame
  length := segmentLength frame

section Accepted

variable {frame : Bytes} {question : ParseOptions} (valid : Valid frame)
include valid

/-- The version stands in the first byte of the header, so the header does not add up to zero. -/
theorem Valid.internetChecksum_eq_zero :
    internetChecksum (slice frame ethernetHeaderBytes (segmentOffset frame)) = 0 := by
  have inside := valid.inside
  have total := valid.total
  have ihl := valid.ihl
  have internet : ipv4MinimumHeaderBytes = 20 := rfl
  have ethernet : ethernetHeaderBytes = 14 := rfl
  have minimum : tcpMinimumHeaderBytes = 20 := rfl
  have offset : segmentOffset frame = 14 + ihlBytes frame := rfl
  refine internetChecksum_of_wordSum ?_ valid.headerSum
  obtain ⟨first, second, rest, header⟩ : ∃ first second rest,
      frame.drop 14 = first :: second :: rest := by
    rcases dropped : frame.drop 14 with _ | ⟨first, _ | ⟨second, rest⟩⟩
    · have length := congrArg List.length dropped
      rw [length_drop, length_nil] at length
      omega
    · have length := congrArg List.length dropped
      rw [length_drop, length_singleton] at length
      omega
    · exact ⟨first, second, rest, rfl⟩
  have version : first.toNat / 2 ^ 4 = 4 := by
    have read := congrArg (fun bytes => bytes.getD 0 (0 : UInt8)) header
    have version := valid.version
    unfold byteAt at version
    rw [getD_eq_getElem?_getD] at version
    rw [getD_eq_getElem?_getD, getElem?_drop] at read
    rwa [show 14 = 14 + 0 from rfl, read] at version
  obtain ⟨more, length⟩ : ∃ more, segmentOffset frame - ethernetHeaderBytes = more + 2 :=
    ⟨ihlBytes frame - 2, by omega⟩
  rw [slice, ethernet, header, length, take_succ_cons, take_succ_cons, wordSum]
  omega

/-- The parser reads the headers, unless the time to live is over. -/
theorem Valid.parseHeaders_eq (asked : Matches question frame) :
    parseHeaders ipv4ProtocolTcp tcpMinimumHeaderBytes frame question =
      if byteAt frame 22 = 0 then none else some (headersOf frame) := by
  have inside := valid.inside
  have total := valid.total
  have ihl := valid.ihl
  have internet : ipv4MinimumHeaderBytes = 20 := rfl
  have ethernet : ethernetHeaderBytes = 14 := rfl
  have minimum : tcpMinimumHeaderBytes = 20 := rfl
  have ihlRead : ihlBytes frame = byteAt frame 14 % 2 ^ 4 * 4 := rfl
  unfold parseHeaders
  dsimp only
  rw [if_neg (by omega), if_neg (not_not.mpr asked.destinationMac),
    if_neg (Bool.eq_false_iff.mp asked.sourceMac), if_neg (not_not.mpr valid.ether),
    if_neg (not_not.mpr valid.version), if_neg (by omega), if_neg (by omega)]
  by_cases expired : byteAt frame 22 = 0
  · rw [if_pos (.inr expired), if_pos expired]
  · rw [if_neg (not_or.mpr ⟨not_not.mpr valid.protocol, expired⟩), if_neg expired,
      if_neg (not_not.mpr valid.unfragmented),
      if_neg (not_not.mpr valid.internetChecksum_eq_zero),
      if_neg (Bool.eq_false_iff.mp asked.sourceIpv4), if_neg (not_not.mpr asked.destinationIpv4),
      if_neg (not_or.mpr ⟨valid.sourcePort, valid.destinationPort⟩),
      if_neg (Bool.eq_false_iff.mp asked.destinationPort),
      if_neg (Bool.eq_false_iff.mp asked.sourcePort)]
    rfl

/-- Behind the headers only the checksum field decides. -/
theorem Valid.readSegment_isSome :
    (readSegment frame (headersOf frame)).isSome = true ↔ checksumField frame ≠ 0 := by
  have inside := valid.inside
  have urgent := valid.urgent
  have packetFits : (slice frame (segmentOffset frame)
      (segmentOffset frame + segmentLength frame)).length < 2 ^ 16 := by
    have fits := valid.fits
    unfold slice
    rw [length_take, length_drop]
    omega
  have sum := transportChecksum_of_coveredSum (show ipv4ProtocolTcp < 2 ^ 8 by decide) packetFits
    (by decide) valid.segmentSum
  unfold readSegment headersOf
  dsimp only
  rw [if_neg (not_or.mpr ⟨Nat.not_lt.mpr valid.options, Nat.not_lt.mpr valid.data⟩),
    if_neg (not_not.mpr valid.reserved), sum]
  by_cases zero : checksumField frame = 0
  · rw [if_pos (.inl zero)]
    exact iff_of_false Bool.false_ne_true (not_not.mpr zero)
  · rw [if_neg (not_or.mpr ⟨zero, not_not.mpr rfl⟩), if_neg (by omega)]
    exact iff_of_true rfl zero

end Accepted

/-- A valid segment is accepted unless its checksum field or its time to live is zero. -/
theorem parseFrame_accepts_iff {frame : Bytes} {question : ParseOptions} (valid : Valid frame)
    (asked : Matches question frame) :
    (parseFrame frame question).isSome = true ↔ checksumField frame ≠ 0 ∧ byteAt frame 22 ≠ 0 := by
  unfold parseFrame
  rw [valid.parseHeaders_eq asked]
  by_cases expired : byteAt frame 22 = 0
  · rw [if_pos expired]
    exact iff_of_false Bool.false_ne_true fun accepted => accepted.2 expired
  · rw [if_neg expired]
    exact valid.readSegment_isSome.trans (and_iff_left expired).symm

/-! ### A checksum of zero -/

/-- An acknowledgement that adds up right with a checksum field of zero. -/
def zeroSum : Bytes :=
  [2, 0, 0, 0, 0, 2, 2, 0, 0, 0, 0, 1, 8, 0, 69, 0, 0, 40, 0, 7, 64, 0, 64, 6, 182, 197, 192, 0, 2, 1,
    192, 0, 2, 2, 156, 64, 0, 80, 0, 0, 111, 63, 0, 0, 0, 1, 80, 16, 32, 0, 0, 0, 0, 0]

/-- The same acknowledgement with the other name of zero in the field. -/
def otherZero : Bytes := (zeroSum.set 50 255).set 51 255

def toZeroSum : ParseOptions where
  destinationMac := [2, 0, 0, 0, 0, 2]
  destinationIpv4 := [192, 0, 2, 2]

theorem zeroSum_valid : Valid zeroSum := by constructor <;> decide +kernel

theorem otherZero_valid : Valid otherZero := by constructor <;> decide +kernel

/-- The parser drops a valid segment for its checksum field. -/
theorem zeroSum_dropped : ¬∀ frame question, Valid frame → Matches question frame →
    (parseFrame frame question).isSome = true := by
  intro accepts
  have accepted := accepts zeroSum toZeroSum zeroSum_valid (by constructor <;> decide +kernel)
  exact absurd accepted (by decide +kernel)

theorem otherZero_accepted : (parseFrame otherZero toZeroSum).isSome = true :=
  (parseFrame_accepts_iff otherZero_valid (by constructor <;> decide +kernel)).mpr (by decide +kernel)

end ZigOs.E1000e.Tcp
