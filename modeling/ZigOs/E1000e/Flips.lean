/-
This file is about frames in which one bit changed on the way. Where the headers have their
shortest length and the packet a checksum, the changed frame is refused, or the bit was in a
part that is not handed on. The one exception is a datagram whose header length changed: its
payload may then begin like a datagram without a checksum.
-/

import ZigOs.E1000e.Building

namespace ZigOs.E1000e

open WordSum List

/-! ### Reading around a changed bit -/

section Reading

variable {frame : Bytes} {index bit offset first last : Nat}

theorem byteAt_flipBit (apart : offset ≠ index) :
    byteAt (flipBit frame index bit) offset = byteAt frame offset := by
  unfold byteAt
  rw [getD_eq_getElem?_getD, getD_eq_getElem?_getD, flipBit_getElem? apart]

theorem readNetwork16_flipBit (apart : index < offset ∨ offset + 2 ≤ index) :
    readNetwork16 (flipBit frame index bit) offset = readNetwork16 frame offset := by
  unfold readNetwork16
  rw [byteAt_flipBit (by omega), byteAt_flipBit (by omega)]

theorem readNetwork32_flipBit (apart : index < offset ∨ offset + 4 ≤ index) :
    readNetwork32 (flipBit frame index bit) offset = readNetwork32 frame offset := by
  unfold readNetwork32
  rw [readNetwork16_flipBit (by omega), readNetwork16_flipBit (by omega)]

theorem slice_flipBit_same (apart : index < first ∨ last ≤ index) (ordered : first ≤ last) :
    slice (flipBit frame index bit) first last = slice frame first last :=
  slice_flipBit_apart (by omega)

/-- A part with the changed bit has another sum. -/
theorem slice_flipBit_off (small : bit < 8) (from' : first ≤ index) (below : index < last)
    (inside : last ≤ frame.length) :
    Off (wordSum (slice (flipBit frame index bit) first last)) (wordSum (slice frame first last)) := by
  unfold slice
  rw [slice_flipBit from']
  refine wordSum_flipBit ?_ small
  rw [length_take, length_drop]
  omega

theorem slice_length (inside : last ≤ frame.length) : (slice frame first last).length = last - first := by
  unfold slice
  rw [length_take, length_drop]
  omega

/-- A part is its front and its back. -/
theorem slice_append {middle : Nat} (front : first ≤ middle) (back : middle ≤ last) :
    slice frame first last = slice frame first middle ++ slice frame middle last := by
  unfold slice
  have split : last - first = (middle - first) + (last - middle) := by omega
  have start : middle = first + (middle - first) := by omega
  rw [split, take_add, drop_drop, ← start]

theorem readNetwork16_slice (inside : offset + 2 ≤ frame.length) :
    readNetwork16 frame offset = wordSum (slice frame offset (offset + 2)) := by
  have cells : slice frame offset (offset + 2) = [frame.getD offset 0, frame.getD (offset + 1) 0] := by
    rw [slice, Nat.add_sub_cancel_left, drop_eq_getElem_cons (by omega),
      drop_eq_getElem_cons (by omega), getD_eq_getElem _ _ (by omega),
      getD_eq_getElem _ _ (by omega)]
    rfl
  unfold readNetwork16 byteAt
  rw [cells, wordSum, wordSum]
  exact (Nat.add_zero _).symm

theorem readNetwork16_flipBit_ne (small : bit < 8) (from' : offset ≤ index)
    (below : index < offset + 2) (inside : offset + 2 ≤ frame.length) :
    readNetwork16 (flipBit frame index bit) offset ≠ readNetwork16 frame offset := by
  intro same
  rw [readNetwork16_slice inside, readNetwork16_slice (by rwa [flipBit_length])] at same
  exact (slice_flipBit_off small from' below inside).not_modEq (congrArg (· % (2 ^ 16 - 1)) same)

theorem slice_flipBit_ne (small : bit < 8) (from' : first ≤ index) (below : index < last)
    (inside : last ≤ frame.length) :
    slice (flipBit frame index bit) first last ≠ slice frame first last := fun same =>
  (slice_flipBit_off small from' below inside).not_modEq
    (congrArg (fun part => wordSum part % (2 ^ 16 - 1)) same)

end Reading

/-! ### Headers -/

/-- What headers that were read say about the frame. -/
structure HeadersRead (protocol minimumHeaderBytes : Nat) (frame : Bytes) (question : ParseOptions)
    (headers : Headers) : Prop where
  destinationMac : slice frame 0 6 = question.destinationMac
  ether : readNetwork16 frame 12 = etherTypeIpv4
  version : byteAt frame 14 / 2 ^ 4 = 4
  ihl : 20 ≤ byteAt frame 14 % 2 ^ 4 * 4
  minimum : byteAt frame 14 % 2 ^ 4 * 4 + minimumHeaderBytes ≤ readNetwork16 frame 16
  inside : 14 + readNetwork16 frame 16 ≤ frame.length
  sum : internetChecksum (slice frame 14 (14 + byteAt frame 14 % 2 ^ 4 * 4)) = 0
  read : headers =
    { sourceMac := slice frame 6 12
      destinationMac := slice frame 0 6
      sourceIpv4 := slice frame 26 30
      destinationIpv4 := slice frame 30 34
      sourcePort := readNetwork16 frame (14 + byteAt frame 14 % 2 ^ 4 * 4)
      destinationPort := readNetwork16 frame (14 + byteAt frame 14 % 2 ^ 4 * 4 + 2)
      ttl := byteAt frame 22
      identification := readNetwork16 frame 18
      offset := 14 + byteAt frame 14 % 2 ^ 4 * 4
      length := readNetwork16 frame 16 - byteAt frame 14 % 2 ^ 4 * 4 }

theorem headersRead {protocol minimumHeaderBytes : Nat} {frame : Bytes} {question : ParseOptions}
    {headers : Headers}
    (parsed : parseHeaders protocol minimumHeaderBytes frame question = some headers) :
    HeadersRead protocol minimumHeaderBytes frame question headers := by
  unfold parseHeaders at parsed
  simp only [Option.ite_none_left_eq_some, Option.some.injEq, not_or, not_not, Nat.not_lt] at parsed
  obtain ⟨long, mac, macs, ether, version, ⟨header, -⟩, ⟨total, whole⟩, protocol, fragment, sum, addresses,
    address, ports, destinations, sources, rfl⟩ := parsed
  exact
    { destinationMac := mac
      ether
      version
      ihl := header
      minimum := total
      inside := whole
      sum
      read := rfl }

section Headers

variable {protocol minimumHeaderBytes index bit : Nat} {frame : Bytes} {question : ParseOptions}
  {headers other : Headers}
  (read : HeadersRead protocol minimumHeaderBytes frame question headers)
  (changed : HeadersRead protocol minimumHeaderBytes (flipBit frame index bit) question other)
  (plain : byteAt frame 14 % 2 ^ 4 * 4 = 20) (small : bit < 8)

include read changed plain small

/-- A changed bit of the headers is noticed, but in the source's address and the header length. -/
theorem index_of_headersRead (apart : index ≠ 14) : (6 ≤ index ∧ index < 12) ∨ 34 ≤ index := by
  have minimum := read.minimum
  have inside := read.inside
  by_contra covered
  rcases Nat.lt_or_ge index 6 with first | notFirst
  · exact slice_flipBit_ne small (Nat.zero_le index) first (by omega)
      (changed.destinationMac.trans read.destinationMac.symm)
  rcases Nat.lt_or_ge index 14 with second | notSecond
  · exact readNetwork16_flipBit_ne small (by omega) (by omega) (by omega)
      (changed.ether.trans read.ether.symm)
  · have sum := changed.sum
    rw [byteAt_flipBit apart.symm, plain] at sum
    have original := read.sum
    rw [plain] at original
    exact (slice_flipBit_off small notSecond (by omega) (by omega)).not_modEq
      ((wordSum_of_internetChecksum sum).trans (wordSum_of_internetChecksum original).symm)

omit read changed small in
/-- A changed header length that is still one is longer by two or by eight words. -/
theorem byteAt_flipBit_ihl (inside : 14 < frame.length) (version : byteAt frame 14 / 2 ^ 4 = 4)
    (few : bit < 8) (changedVersion : byteAt (flipBit frame 14 bit) 14 / 2 ^ 4 = 4)
    (changedIhl : 20 ≤ byteAt (flipBit frame 14 bit) 14 % 2 ^ 4 * 4) :
    byteAt frame 14 = 0x45 ∧ (byteAt (flipBit frame 14 bit) 14 = 0x45 + 2 ∨
      byteAt (flipBit frame 14 bit) 14 = 0x45 + 8) := by
  have bits : ∀ bit : Fin 8, (0x45 ^^^ UInt8.ofNat (2 ^ bit.val)).toNat / 2 ^ 4 = 4 →
      20 ≤ (0x45 ^^^ UInt8.ofNat (2 ^ bit.val)).toNat % 2 ^ 4 * 4 →
        (0x45 ^^^ UInt8.ofNat (2 ^ bit.val)).toNat = 0x45 + 2 ∨
          (0x45 ^^^ UInt8.ofNat (2 ^ bit.val)).toNat = 0x45 + 8 := by decide
  have byte : byteAt frame 14 = 0x45 := by omega
  have first : frame[14] = 0x45 := by
    refine UInt8.toNat_inj.mp ?_
    rwa [← getD_eq_getElem frame 0 inside]
  have flipped : byteAt (flipBit frame 14 bit) 14 = (0x45 ^^^ UInt8.ofNat (2 ^ bit)).toNat := by
    unfold byteAt flipBit
    rw [getD_eq_getElem _ _ (by rwa [length_modify]), getElem_modify_eq, first]
  rw [flipped] at changedVersion changedIhl ⊢
  exact ⟨byte, bits ⟨bit, few⟩ changedVersion changedIhl⟩

/-- Of two frames that differ in the header length one has a packet that fails its check. -/
theorem not_both_checked (length : index = 14) (protocolFits : protocol < 2 ^ 8)
    (checked : transportChecksum protocol headers.sourceIpv4 headers.destinationIpv4
      (slice frame headers.offset (headers.offset + headers.length)) = 0) :
    transportChecksum protocol other.sourceIpv4 other.destinationIpv4
      (slice (flipBit frame index bit) other.offset (other.offset + other.length)) ≠ 0 := by
  subst length
  intro changedChecked
  have inside := read.inside
  have minimum := read.minimum
  obtain ⟨byte, changedByte⟩ := byteAt_flipBit_ihl plain (by omega) read.version small
    changed.version changed.ihl
  obtain ⟨words, changedByte, few⟩ : ∃ words, byteAt (flipBit frame 14 bit) 14 = 0x45 + words ∧
      (words = 2 ∨ words = 8) :=
    changedByte.elim (fun two => ⟨2, two, .inl rfl⟩) fun eight => ⟨8, eight, .inr rfl⟩
  have longer : byteAt (flipBit frame 14 bit) 14 % 2 ^ 4 * 4 = 20 + 4 * words := by omega
  have total : readNetwork16 (flipBit frame 14 bit) 16 = readNetwork16 frame 16 :=
    readNetwork16_flipBit (by omega)
  have room := changed.minimum
  have packetFits := readNetwork16_lt frame 16
  rw [longer, total] at room
  -- the headers of both frames add up to zero
  have next : 14 + (20 + 4 * words) = 34 + 4 * words := (Nat.add_assoc 14 20 _).symm
  have headerSum := wordSum_of_internetChecksum read.sum
  have changedSum := wordSum_of_internetChecksum changed.sum
  rw [plain, show 14 + 20 = 34 from rfl, slice_append (show 14 ≤ 16 by decide)
    (show 16 ≤ 34 by decide), wordSum_append (by rw [slice_length (by omega)]),
    ← readNetwork16_slice (by omega)] at headerSum
  rw [longer, next, slice_append (show 14 ≤ 16 by decide) (show 16 ≤ 34 + 4 * words by omega),
    slice_append (show 16 ≤ 34 by decide) (show 34 ≤ 34 + 4 * words by omega),
    wordSum_append (by rw [slice_length (by rw [flipBit_length]; omega)]),
    wordSum_append (by rw [slice_length (by rw [flipBit_length]; omega)]),
    ← readNetwork16_slice (by rw [flipBit_length]; omega),
    slice_flipBit_same (.inl (by decide)) (by decide),
    slice_flipBit_same (.inl (by decide)) (by omega)] at changedSum
  have moved : readNetwork16 (flipBit frame 14 bit) 14 = readNetwork16 frame 14 + words * 2 ^ 8 := by
    unfold readNetwork16
    rw [changedByte, byte, byteAt_flipBit (by decide)]
    omega
  -- the packets of both frames add up to zero
  have offset : headers.offset = 34 := (congrArg Headers.offset read.read).trans (by rw [plain])
  have packetLength : headers.length = readNetwork16 frame 16 - 20 :=
    (congrArg Headers.length read.read).trans (by rw [plain])
  have changedOffset : other.offset = 34 + 4 * words :=
    (congrArg Headers.offset changed.read).trans
      (show 14 + byteAt (flipBit frame 14 bit) 14 % 2 ^ 4 * 4 = 34 + 4 * words by
        rw [longer, next])
  have changedLength : other.length = readNetwork16 frame 16 - (20 + 4 * words) :=
    (congrArg Headers.length changed.read).trans (by rw [longer, total])
  have source : other.sourceIpv4 = headers.sourceIpv4 :=
    (congrArg Headers.sourceIpv4 changed.read).trans
      ((slice_flipBit_same (.inl (by decide)) (by decide)).trans
        (congrArg Headers.sourceIpv4 read.read).symm)
  have destination : other.destinationIpv4 = headers.destinationIpv4 :=
    (congrArg Headers.destinationIpv4 changed.read).trans
      ((slice_flipBit_same (.inl (by decide)) (by decide)).trans
        (congrArg Headers.destinationIpv4 read.read).symm)
  have last : 34 + 4 * words + (readNetwork16 frame 16 - (20 + 4 * words)) =
      34 + (readNetwork16 frame 16 - 20) := by omega
  rw [source, destination, changedOffset, changedLength, last,
    slice_flipBit_same (.inl (by omega)) (by omega)] at changedChecked
  rw [offset, packetLength, slice_append (show 34 ≤ 34 + 4 * words by omega) (by omega)] at checked
  have whole := coveredSum_of_transportChecksum protocolFits
    (by rw [length_append, slice_length (by omega), slice_length (by omega)]; omega) checked
  have part := coveredSum_of_transportChecksum protocolFits
    (by rw [slice_length (by omega)]; omega) changedChecked
  unfold coveredSum at whole part
  rw [length_append, slice_length (by omega), slice_length (by omega),
    wordSum_append (by rw [slice_length (by omega)]; omega)] at whole
  rw [slice_length (by omega)] at part
  unfold Nat.ModEq at headerSum changedSum whole part
  omega

/-- A changed bit of the packet is noticed by its check. -/
theorem index_of_checked (apart : index ≠ 14) (protocolFits : protocol < 2 ^ 8)
    (checked : transportChecksum protocol headers.sourceIpv4 headers.destinationIpv4
      (slice frame headers.offset (headers.offset + headers.length)) = 0)
    (changedChecked : transportChecksum protocol other.sourceIpv4 other.destinationIpv4
      (slice (flipBit frame index bit) other.offset (other.offset + other.length)) = 0) :
    index < 34 ∨ 34 + headers.length ≤ index := by
  by_contra covered
  have unchanged : byteAt (flipBit frame index bit) 14 = byteAt frame 14 := byteAt_flipBit apart.symm
  have total : readNetwork16 (flipBit frame index bit) 16 = readNetwork16 frame 16 :=
    readNetwork16_flipBit (by omega)
  have offset : headers.offset = 34 := (congrArg Headers.offset read.read).trans (by rw [plain])
  have packetLength : headers.length = readNetwork16 frame 16 - 20 :=
    (congrArg Headers.length read.read).trans (by rw [plain])
  have changedOffset : other.offset = 34 :=
    (congrArg Headers.offset changed.read).trans (by rw [unchanged, plain])
  have changedLength : other.length = headers.length := by
    rw [packetLength, changed.read]
    show readNetwork16 _ 16 - byteAt _ 14 % 2 ^ 4 * 4 = _
    rw [total, unchanged, plain]
  have source : other.sourceIpv4 = headers.sourceIpv4 :=
    (congrArg Headers.sourceIpv4 changed.read).trans
      ((slice_flipBit_same (by omega) (by decide)).trans
        (congrArg Headers.sourceIpv4 read.read).symm)
  have destination : other.destinationIpv4 = headers.destinationIpv4 :=
    (congrArg Headers.destinationIpv4 changed.read).trans
      ((slice_flipBit_same (by omega) (by decide)).trans
        (congrArg Headers.destinationIpv4 read.read).symm)
  have inside := read.inside
  have packetFits := readNetwork16_lt frame 16
  have minimum := read.minimum
  rw [offset] at checked
  rw [source, destination, changedOffset, changedLength] at changedChecked
  have whole := coveredSum_of_transportChecksum protocolFits
    (by rw [slice_length (by omega)]; omega) checked
  have part := coveredSum_of_transportChecksum protocolFits
    (by rw [slice_length (by rw [flipBit_length]; omega)]; omega) changedChecked
  unfold coveredSum at whole part
  rw [slice_length (by omega)] at whole
  rw [slice_length (by rw [flipBit_length]; omega)] at part
  have off := slice_flipBit_off small (show 34 ≤ index by omega)
    (show index < 34 + headers.length by omega) (show 34 + headers.length ≤ frame.length by omega)
  exact (off.add_left _).not_modEq (part.trans whole.symm)

omit small in
/-- Headers read around the changed bit are the same but for the source's address. -/
theorem headers_of_apart (apart : (6 ≤ index ∧ index < 12) ∨ 38 ≤ index) :
    other = { headers with sourceMac := other.sourceMac } := by
  have unchanged : byteAt (flipBit frame index bit) 14 = byteAt frame 14 := byteAt_flipBit (by omega)
  have destinationMac : slice (flipBit frame index bit) 0 6 = slice frame 0 6 :=
    slice_flipBit_same (by omega) (by decide)
  have sourceIpv4 : slice (flipBit frame index bit) 26 30 = slice frame 26 30 :=
    slice_flipBit_same (by omega) (by decide)
  have destinationIpv4 : slice (flipBit frame index bit) 30 34 = slice frame 30 34 :=
    slice_flipBit_same (by omega) (by decide)
  rw [changed.read, read.read, unchanged, plain]
  dsimp only
  rw [destinationMac, sourceIpv4, destinationIpv4, readNetwork16_flipBit (by omega),
    readNetwork16_flipBit (by omega), readNetwork16_flipBit (by omega),
    readNetwork16_flipBit (by omega), byteAt_flipBit (by omega)]

end Headers

/-! ### Datagrams -/

namespace Udp

variable {frame : Bytes} {question : ParseOptions} {index bit : Nat}

/-- What a datagram that was read says about the frame. -/
theorem readDatagram_some {headers : Headers} {datagram : Datagram}
    (read : readDatagram frame headers = some datagram) :
    (readNetwork16 frame (headers.offset + 6) ≠ 0 →
      transportChecksum ipv4ProtocolUdp headers.sourceIpv4 headers.destinationIpv4
        (slice frame headers.offset (headers.offset + headers.length)) = 0) ∧
      udpHeaderBytes ≤ headers.length ∧ datagram =
        { headers
          udpChecksumPresent := readNetwork16 frame (headers.offset + 6) ≠ 0
          frameLength := frame.length
          payloadOffset := headers.offset + udpHeaderBytes
          payload := slice frame (headers.offset + udpHeaderBytes)
            (headers.offset + headers.length) } := by
  unfold readDatagram at read
  simp only [Option.ite_none_left_eq_some, Option.some.injEq, not_or, not_and, not_not,
    Nat.not_lt] at read
  obtain ⟨⟨long, length⟩, sum, rfl⟩ := read
  rw [length] at sum long ⊢
  exact ⟨sum, long, rfl⟩

/-- A changed bit of a datagram with a checksum is noticed, or it is in the source's address or in
a part that is not handed on, or the header length changed and no checksum is left. -/
theorem parseFrame_flipBit {datagram other : Datagram}
    (parsed : parseFrame frame question = some datagram) (plain : datagram.headers.offset = 34)
    (present : datagram.udpChecksumPresent = true) (small : bit < 8)
    (changed : parseFrame (flipBit frame index bit) question = some other) :
    other =
        { datagram with
          headers := { datagram.headers with sourceMac := other.headers.sourceMac }
          udpChecksumPresent := other.udpChecksumPresent } ∨
      index = 14 ∧ other.udpChecksumPresent = false := by
  obtain ⟨headers, parsed, read⟩ := Option.bind_eq_some_iff.mp parsed
  obtain ⟨otherHeaders, changed, changedRead⟩ := Option.bind_eq_some_iff.mp changed
  have readHeaders := headersRead parsed
  have changedHeaders := headersRead changed
  obtain ⟨checked, long, rfl⟩ := readDatagram_some read
  obtain ⟨changedChecked, changedLong, rfl⟩ := readDatagram_some changedRead
  replace present := of_decide_eq_true present
  replace plain : headers.offset = 34 := plain
  have shortest : byteAt frame 14 % 2 ^ 4 * 4 = 20 := by
    have offset := congrArg Headers.offset readHeaders.read
    dsimp only at offset
    omega
  by_cases length : index = 14
  · refine .inr ⟨length, decide_eq_false (not_not.mpr ?_)⟩
    by_contra left
    exact not_both_checked readHeaders changedHeaders shortest small length (by decide)
      (checked present) (changedChecked left)
  have header : udpHeaderBytes = 8 := rfl
  have place := index_of_headersRead readHeaders changedHeaders shortest small length
  have changedOffset : otherHeaders.offset = 34 :=
    (congrArg Headers.offset changedHeaders.read).trans
      (show 14 + byteAt (flipBit frame index bit) 14 % 2 ^ 4 * 4 = 34 by
        rw [byteAt_flipBit (Ne.symm length), shortest])
  -- what is left are the source's address, the checksum and what follows the packet
  have apart : (6 ≤ index ∧ index < 12) ∨ (40 ≤ index ∧ index < 42) ∨
      34 + headers.length ≤ index := by
    by_cases left : readNetwork16 (flipBit frame index bit) (otherHeaders.offset + 6) ≠ 0
    · have outside := index_of_checked readHeaders changedHeaders shortest small length (by decide)
        (checked present) (changedChecked left)
      omega
    · by_contra elsewhere
      refine left ?_
      rwa [changedOffset, readNetwork16_flipBit (by omega), ← plain]
  left
  have same := headers_of_apart readHeaders changedHeaders shortest (by omega)
  have sameLength : otherHeaders.length = headers.length := by rw [same]
  rw [changedOffset, sameLength, slice_flipBit_same (by omega) (by omega), plain, flipBit_length]
  dsimp only
  exact congrArg (Datagram.mk · _ _ _ _) same

end Udp

/-! ### Segments -/

namespace Tcp

variable {frame : Bytes} {question : ParseOptions} {index bit : Nat}

/-- What a segment that was read says about the frame. -/
theorem readSegment_some {headers : Headers} {segment : Segment}
    (read : readSegment frame headers = some segment) :
    transportChecksum ipv4ProtocolTcp headers.sourceIpv4 headers.destinationIpv4
        (slice frame headers.offset (headers.offset + headers.length)) = 0 ∧
      tcpMinimumHeaderBytes ≤ byteAt frame (headers.offset + 12) / 2 ^ 4 * 4 ∧
      byteAt frame (headers.offset + 12) / 2 ^ 4 * 4 ≤ headers.length ∧ segment =
        { headers
          sequenceNumber := readNetwork32 frame (headers.offset + 4)
          acknowledgementNumber := readNetwork32 frame (headers.offset + 8)
          flags := byteAt frame (headers.offset + 12) % 2 * 2 ^ 8 +
            byteAt frame (headers.offset + 13)
          windowSize := readNetwork16 frame (headers.offset + 14)
          checksum := readNetwork16 frame (headers.offset + 16)
          urgentPointer := readNetwork16 frame (headers.offset + 18)
          headerLength := byteAt frame (headers.offset + 12) / 2 ^ 4 * 4
          frameLength := frame.length
          options := slice frame (headers.offset + tcpMinimumHeaderBytes)
            (headers.offset + byteAt frame (headers.offset + 12) / 2 ^ 4 * 4)
          payload := slice frame (headers.offset + byteAt frame (headers.offset + 12) / 2 ^ 4 * 4)
            (headers.offset + headers.length) } := by
  unfold readSegment at read
  simp only [Option.ite_none_left_eq_some, Option.some.injEq, not_or, not_not, Nat.not_lt] at read
  obtain ⟨⟨long, inside⟩, reserved, ⟨named, sum⟩, urgent, rfl⟩ := read
  exact ⟨sum, long, inside, rfl⟩

/-- A changed bit of a segment is noticed, or it is in the source's address or behind the
segment. -/
theorem parseFrame_flipBit {segment other : Segment}
    (parsed : parseFrame frame question = some segment) (plain : segment.headers.offset = 34)
    (small : bit < 8) (changed : parseFrame (flipBit frame index bit) question = some other) :
    other =
      { segment with headers := { segment.headers with sourceMac := other.headers.sourceMac } } := by
  obtain ⟨headers, parsed, read⟩ := Option.bind_eq_some_iff.mp parsed
  obtain ⟨otherHeaders, changed, changedRead⟩ := Option.bind_eq_some_iff.mp changed
  have readHeaders := headersRead parsed
  have changedHeaders := headersRead changed
  obtain ⟨checked, long, within, rfl⟩ := readSegment_some read
  obtain ⟨changedChecked, -, -, rfl⟩ := readSegment_some changedRead
  replace plain : headers.offset = 34 := plain
  have shortest : byteAt frame 14 % 2 ^ 4 * 4 = 20 := by
    have offset := congrArg Headers.offset readHeaders.read
    dsimp only at offset
    omega
  have length : index ≠ 14 := fun length =>
    not_both_checked readHeaders changedHeaders shortest small length (by decide) checked
      changedChecked
  have header : tcpMinimumHeaderBytes = 20 := rfl
  have place := index_of_headersRead readHeaders changedHeaders shortest small length
  have outside := index_of_checked readHeaders changedHeaders shortest small length (by decide)
    checked changedChecked
  have changedOffset : otherHeaders.offset = 34 :=
    (congrArg Headers.offset changedHeaders.read).trans
      (show 14 + byteAt (flipBit frame index bit) 14 % 2 ^ 4 * 4 = 34 by
        rw [byteAt_flipBit (Ne.symm length), shortest])
  have same := headers_of_apart readHeaders changedHeaders shortest (by omega)
  have sameLength : otherHeaders.length = headers.length := by rw [same]
  rw [plain] at long within
  rw [changedOffset, sameLength, plain, flipBit_length, byteAt_flipBit (by omega),
    byteAt_flipBit (by omega), readNetwork32_flipBit (by omega), readNetwork32_flipBit (by omega),
    readNetwork16_flipBit (by omega), readNetwork16_flipBit (by omega),
    readNetwork16_flipBit (by omega), slice_flipBit_same (by omega) (by omega),
    slice_flipBit_same (by omega) (by omega)]
  exact congrArg (Segment.mk · _ _ _ _ _ _ _ _ _ _) same

end Tcp

/-! ### Built frames -/

/-- The length of a parsed frame is handed on in 16 bits. -/
def FrameLengthFits (frame : Bytes) : Prop := frame.length < 2 ^ 16

/-- A built frame is read back with zeros behind it, and with one bit changed it is refused or
nothing changes but the source's hardware address; a datagram may also lose its checksum, where the
bit was in the header length. -/
theorem frames_readBack :
    (∀ (capacity padding : Nat) (options : Tcp.BuildOptions) (question : ParseOptions)
      (built frame : Bytes), Tcp.buildFrame capacity options = some built → options.Asked question →
      frame = built ++ List.replicate padding 0 → FrameLengthFits frame →
      Tcp.parseFrame frame question = some (options.segment frame.length) ∧
        ∀ (index bit : Nat) (other : Segment), bit < 8 →
          Tcp.parseFrame (flipBit frame index bit) question = some other →
          other =
            { options.segment frame.length with
              headers :=
                { (options.segment frame.length).headers with
                  sourceMac := other.headers.sourceMac } }) ∧
    (∀ (capacity padding : Nat) (options : Udp.BuildOptions) (question : ParseOptions)
      (built frame : Bytes), Udp.buildFrame capacity options = some built → options.Asked question →
      frame = built ++ List.replicate padding 0 → FrameLengthFits frame →
      Udp.parseFrame frame question = some (options.datagram frame.length) ∧
        ∀ (index bit : Nat) (other : Datagram), bit < 8 →
          Udp.parseFrame (flipBit frame index bit) question = some other →
          other =
              { options.datagram frame.length with
                headers :=
                  { (options.datagram frame.length).headers with
                    sourceMac := other.headers.sourceMac }
                udpChecksumPresent := other.udpChecksumPresent } ∨
            index = 14 ∧ other.udpChecksumPresent = false) := by
  refine ⟨?_, ?_⟩
  · rintro capacity padding options question built frame buildsFrom asked rfl -
    have parsed := Tcp.parseFrame_buildFrame buildsFrom asked (List.replicate padding 0)
    rw [← length_append] at parsed
    exact ⟨parsed, fun index bit other small changed => Tcp.parseFrame_flipBit parsed rfl small changed⟩
  · rintro capacity padding options question built frame buildsFrom asked rfl -
    have parsed := Udp.parseFrame_buildFrame buildsFrom asked (List.replicate padding 0)
    rw [← length_append] at parsed
    exact ⟨parsed,
      fun index bit other small changed => Udp.parseFrame_flipBit parsed rfl rfl small changed⟩

/-- A datagram whose payload looks like a datagram without a checksum. -/
def nestedDatagram : Udp.BuildOptions where
  sourceMac := ⟨2, 0, 0, 0, 0, 1⟩
  destinationMac := ⟨2, 0, 0, 0, 0, 2⟩
  sourceIpv4 := ⟨10, 0, 2, 15⟩
  destinationIpv4 := ⟨10, 0, 2, 2⟩
  sourcePort := 4000
  destinationPort := 53
  identification := 7
  payload := [0xE9, 0x90, 0, 0x35, 0, 8, 0, 0]

/-- The question for frames to a receiver. -/
def anySender (options : FrameOptions) : ParseOptions where
  destinationMac := options.destinationMac.bytes
  destinationIpv4 := options.destinationIpv4.bytes

/-- One changed bit of the header length makes the payload a datagram of its own; and with enough
zeros behind it a frame has a length of more than 16 bits. -/
theorem nestedDatagram_surfaces :
    (∃ frame other, Udp.buildFrame 60 nestedDatagram = some frame ∧
      Udp.parseFrame (flipBit frame 14 1) (anySender nestedDatagram.toFrameOptions) = some other ∧
      other.headers.sourcePort ≠ nestedDatagram.sourcePort.toNat ∧
      other.payload ≠ nestedDatagram.payload) ∧
    ∃ frame padding, Udp.buildFrame 60 nestedDatagram = some frame ∧
      ¬FrameLengthFits (frame ++ List.replicate padding 0) := by
  have surfaces : (((Udp.buildFrame 60 nestedDatagram).bind fun frame => Udp.parseFrame
      (flipBit frame 14 1) (anySender nestedDatagram.toFrameOptions)).map fun other =>
        (other.headers.sourcePort, other.payload)) = some (59792, []) := by decide +kernel
  obtain ⟨other, parsed, fields⟩ := Option.map_eq_some_iff.mp surfaces
  obtain ⟨frame, built, parsed⟩ := Option.bind_eq_some_iff.mp parsed
  obtain ⟨port, payload⟩ := Prod.mk.inj fields
  refine ⟨⟨frame, other, built, parsed, ?_, ?_⟩, frame, 2 ^ 16, built, fun fits => ?_⟩
  · rw [port]
    decide
  · rw [payload]
    decide
  · unfold FrameLengthFits at fits
    rw [length_append, length_replicate] at fits
    omega

/-- The datagram is read back from a frame with four more zeros. -/
theorem nestedDatagram_readBack : ∃ frame, Udp.buildFrame 60 nestedDatagram = some frame ∧
    Udp.parseFrame (frame ++ List.replicate 4 0) (anySender nestedDatagram.toFrameOptions) =
      some (nestedDatagram.datagram (frame ++ List.replicate 4 0).length) := by
  have length : (Udp.buildFrame 60 nestedDatagram).map List.length = some 60 := by decide +kernel
  obtain ⟨frame, built, sixty⟩ := Option.map_eq_some_iff.mp length
  refine ⟨frame, built, (frames_readBack.2 60 4 nestedDatagram _ frame _ built ?_ rfl ?_).1⟩
  · exact
      { destinationMac := rfl
        destinationIpv4 := rfl
        sourceMac := fun _ wanted => absurd wanted (Option.not_mem_none _)
        sourceIpv4 := fun _ wanted => absurd wanted (Option.not_mem_none _)
        destinationPort := fun _ wanted => absurd wanted (Option.not_mem_none _)
        sourcePort := fun _ wanted => absurd wanted (Option.not_mem_none _) }
  · unfold FrameLengthFits
    rw [length_append, length_replicate, sixty]
    decide

end ZigOs.E1000e
