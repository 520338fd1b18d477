/-
This file is about responses given by what their bytes stand for. A name on the wire is a
sequence of labels that ends by itself or goes on in the question. Where such a response
is read, every name, record and address in it is found again, so that the parser computes
a function of the records alone.
-/

import ZigOs.Dns.Decoding

namespace ZigOs.Dns

open List Except

/-! ### Bytes inside a message -/

/-- The bytes stand in the message from the offset on. -/
def Stands (message : Bytes) (offset : Nat) (bytes : Bytes) : Prop := bytes <+: message.drop offset

section Stands

variable {message : Bytes} {offset : Nat}

theorem stands_append {front back : Bytes} : Stands message offset (front ++ back) ↔
    Stands message offset front ∧ Stands message (offset + front.length) back := by
  unfold Stands
  rw [← drop_drop]
  constructor
  · rintro ⟨rest, whole⟩
    rw [append_assoc] at whole
    refine ⟨⟨back ++ rest, whole⟩, rest, ?_⟩
    rw [← whole, drop_left]
  · rintro ⟨⟨behind, first⟩, rest, second⟩
    refine ⟨rest, ?_⟩
    rw [← first, drop_left] at second
    rw [append_assoc, second, first]

theorem Stands.byte {byte : UInt8} {rest : Bytes} (stands : Stands message offset (byte :: rest)) :
    message[offset]? = some byte := by
  obtain ⟨behind, whole⟩ := stands
  have found : (message.drop offset)[0]? = some byte := by rw [← whole]; rfl
  rwa [List.getElem?_drop] at found

theorem Stands.tail {byte : UInt8} {rest : Bytes} (stands : Stands message offset (byte :: rest)) :
    Stands message (offset + 1) rest :=
  (stands_append.mp (show Stands message offset ([byte] ++ rest) from stands)).2

theorem Stands.slice {bytes : Bytes} (stands : Stands message offset bytes) :
    (message.drop offset).take bytes.length = bytes := by
  obtain ⟨rest, whole⟩ := stands
  rw [← whole, take_left]

theorem Stands.inside {bytes : Bytes} (stands : Stands message offset bytes)
    (nonempty : bytes ≠ []) : offset + bytes.length ≤ message.length := by
  have shorter := stands.length_le
  have positive := length_pos_iff.mpr nonempty
  rw [length_drop] at shorter
  omega

theorem Stands.read16 {value : Nat} (stands : Stands message offset (network16 value))
    (bounded : value < 2 ^ 16) : readNetwork16 message offset = .ok value := by
  unfold readNetwork16
  rw [byteAt_some stands.byte, byteAt_some stands.tail.byte]
  refine congrArg Except.ok ?_
  show (UInt8.ofNat (value / 256)).toNat * 256 + (UInt8.ofNat value).toNat = value
  rw [UInt8.toNat_ofNat', UInt8.toNat_ofNat']
  omega

theorem Stands.read32 {value : Nat} (stands : Stands message offset (network32 value))
    (bounded : value < 2 ^ 32) : readNetwork32 message offset = .ok value := by
  obtain ⟨high, low⟩ := stands_append.mp stands
  have wrapped : network16 value = network16 (value % 65536) := by
    unfold network16
    have first : UInt8.ofNat (value / 256) = UInt8.ofNat (value % 65536 / 256) :=
      UInt8.toNat_inj.mp (by rw [UInt8.toNat_ofNat', UInt8.toNat_ofNat']; omega)
    have second : UInt8.ofNat value = UInt8.ofNat (value % 65536) :=
      UInt8.toNat_inj.mp (by rw [UInt8.toNat_ofNat', UInt8.toNat_ofNat']; omega)
    rw [first, second]
  rw [wrapped] at low
  have readLow : readNetwork16 message (offset + 2) = .ok (value % 65536) :=
    low.read16 (Nat.mod_lt _ (by decide))
  unfold readNetwork32
  rw [high.read16 (by omega), ok_bind, readLow, ok_bind]
  exact congrArg Except.ok (Nat.div_add_mod' value 65536)

theorem Stands.readFixed {recordType recordClass ttl dataLength : Nat}
    (stands : Stands message offset (recordFixed recordType recordClass ttl dataLength))
    (typeBound : recordType < 2 ^ 16) (classBound : recordClass < 2 ^ 16) (ttlBound : ttl < 2 ^ 32)
    (lengthBound : dataLength < 2 ^ 16) :
    readNetwork16 message offset = .ok recordType ∧
      readNetwork16 message (offset + 2) = .ok recordClass ∧
      readNetwork32 message (offset + 4) = .ok ttl ∧
      readNetwork16 message (offset + 8) = .ok dataLength := by
  obtain ⟨front, length⟩ := stands_append.mp stands
  obtain ⟨front, time⟩ := stands_append.mp front
  obtain ⟨kind, internet⟩ := stands_append.mp front
  exact ⟨kind.read16 typeBound, internet.read16 classBound, time.read32 ttlBound,
    length.read16 lengthBound⟩

theorem Stands.readAddress {address : Address} (stands : Stands message offset address.bytes) :
    readAddress message offset = .ok address := by
  unfold Dns.readAddress
  rw [byteAt_some stands.byte, byteAt_some stands.tail.byte, byteAt_some stands.tail.tail.byte,
    byteAt_some stands.tail.tail.tail.byte]
  rfl

end Stands

/-! ### Names on the wire -/

/-- A label that can be written. -/
def WireLabel (label : Bytes) : Prop := label ≠ [] ∧ label.length ≤ 63

/-- Labels that make up a domain name; the empty sequence is the root. -/
structure DomainName (labels : List Bytes) : Prop where
  wire : ∀ label ∈ labels, WireLabel label
  short : (joinLabels labels).length ≤ maximumNameBytes

/-- A name on the wire: the labels written out, and how many labels of the question to drop to
find the rest, if it does not end by itself. -/
structure WireName where
  labels : List Bytes
  dropped : Option Nat := none

/-- Where the rest of a question stands. -/
def suffixOffset (question : List Bytes) (dropped : Nat) : Nat :=
  headerBytes + (encodeLabels (question.take dropped)).length

def suffixMeaning (question : List Bytes) : Option Nat → List Bytes
  | none => []
  | some dropped => question.drop dropped

def suffixBytes (question : List Bytes) : Option Nat → Bytes
  | none => [0]
  | some dropped => network16 (0xC000 ||| suffixOffset question dropped)

def WireName.meaning (question : List Bytes) (name : WireName) : List Bytes :=
  name.labels ++ suffixMeaning question name.dropped

def WireName.bytes (question : List Bytes) (name : WireName) : Bytes :=
  encodeLabels name.labels ++ suffixBytes question name.dropped

section Names

variable {message : Bytes}

theorem encodeLabels_cons (label : Bytes) (labels : List Bytes) :
    encodeLabels (label :: labels) = UInt8.ofNat label.length :: label ++ encodeLabels labels := rfl

theorem encodeLabels_append (front back : List Bytes) :
    encodeLabels (front ++ back) = encodeLabels front ++ encodeLabels back :=
  flatMap_append

/-- A short length byte is unmarked. -/
theorem plain_of_le_63 : ∀ {length : Nat}, length ≤ 63 → UInt8.ofNat length &&& 0xC0 = 0 := by
  have lengths : ∀ length : Fin 64, UInt8.ofNat length &&& 0xC0 = 0 := by decide
  intro length short
  exact lengths ⟨length, Nat.lt_succ_of_le short⟩

/-- Labels that are written out come first in the name. -/
theorem nameAt_labels {offset jumps next : Nat} {labels rest : List Bytes}
    (wire : ∀ label ∈ labels, WireLabel label) (stands : Stands message offset (encodeLabels labels))
    (name : NameAt message (offset + (encodeLabels labels).length) jumps rest next) :
    NameAt message offset jumps (labels ++ rest) next := by
  induction labels generalizing offset with
  | nil => exact name
  | cons label labels hypothesis =>
    obtain ⟨⟨nonempty, short⟩, others⟩ := forall_mem_cons.mp wire
    rw [encodeLabels_cons] at stands name
    have length : (UInt8.ofNat label.length).toNat = label.length := by
      rw [UInt8.toNat_ofNat']
      omega
    have positive := length_pos_iff.mpr nonempty
    obtain ⟨standsLabel, standsRest⟩ := stands_append.mp stands
    have slice := standsLabel.tail.slice
    have inside := standsLabel.inside (cons_ne_nil _ _)
    rw [length_cons] at standsRest inside
    have tail := hypothesis others standsRest (by
      rwa [length_append, length_cons, ← Nat.add_assoc] at name)
    rw [cons_append, ← slice]
    have cell := @NameAt.label message offset jumps next (UInt8.ofNat label.length) (labels ++ rest)
      standsLabel.byte (plain_of_le_63 short)
      (fun zero => by rw [zero] at length; exact absurd length.symm (Nat.pos_iff_ne_zero.mp positive))
      (by omega) (by rw [length]; convert tail using 1; omega)
    rwa [length] at cell

/-- The question of a message: the labels stand behind the header, ended by a zero. -/
def Asks (message : Bytes) (question : List Bytes) : Prop :=
  Stands message headerBytes (encodeLabels question ++ [0])

/-- The rest of the question stands where a pointer finds it. -/
theorem Asks.suffix {question : List Bytes} (asks : Asks message question)
    (wire : ∀ label ∈ question, WireLabel label) (dropped : Nat) :
    ∃ next, NameAt message (suffixOffset question dropped) 0 (question.drop dropped) next := by
  obtain ⟨stands, ends⟩ := stands_append.mp asks
  have split : encodeLabels question =
      encodeLabels (question.take dropped) ++ encodeLabels (question.drop dropped) := by
    rw [← encodeLabels_append, take_append_drop]
  rw [split] at stands ends
  have rest := (stands_append.mp stands).2
  rw [length_append, ← Nat.add_assoc] at ends
  have root : NameAt message (suffixOffset question dropped +
      (encodeLabels (question.drop dropped)).length) 0 [] (suffixOffset question dropped +
      (encodeLabels (question.drop dropped)).length + 1) := .root ends.byte
  have name := nameAt_labels (fun label member => wire label (mem_of_mem_drop member)) rest root
  rw [append_nil] at name
  exact ⟨_, name⟩

/-- The text of a name leaves room for its labels on the wire. -/
theorem encodeLabels_length (labels : List Bytes) :
    (encodeLabels labels).length = ((labels.map (dot :: ·)).flatten).length := by
  induction labels with
  | nil => rfl
  | cons label rest hypothesis =>
    rw [encodeLabels_cons, length_append, hypothesis]
    simp only [length_cons, map_cons, flatten_cons, length_append]

theorem encodeLabels_length_le {labels : List Bytes}
    (short : (joinLabels labels).length ≤ maximumNameBytes) : (encodeLabels labels).length ≤ 254 := by
  rw [encodeLabels_length]
  cases labels with
  | nil => exact Nat.zero_le _
  | cons label rest =>
    rw [joinLabels_cons, length_append] at short
    rw [map_cons, flatten_cons, length_append, length_cons]
    exact Nat.succ_le_succ short |>.trans' (by omega)

theorem suffixOffset_lt {question : List Bytes} (name : DomainName question) (dropped : Nat) :
    suffixOffset question dropped < 0x4000 := by
  have whole := encodeLabels_length_le name.short
  have part : (encodeLabels (question.take dropped)).length ≤ (encodeLabels question).length := by
    conv_rhs => rw [← take_append_drop dropped question]
    rw [encodeLabels_append, length_append]
    exact Nat.le_add_right _ _
  unfold suffixOffset
  have header : headerBytes = 12 := rfl
  omega

theorem pointer_marked : ∀ {offset : Nat}, offset < 0x4000 →
    UInt8.ofNat ((0xC000 ||| offset) / 256) &&& 0xC0 = 0xC0 ∧
      pointerOf (UInt8.ofNat ((0xC000 ||| offset) / 256)) (UInt8.ofNat (0xC000 ||| offset)) =
        offset := by
  have heads : ∀ high : Fin 64, UInt8.ofNat (192 + high) &&& 0xC0 = 0xC0 ∧
      (UInt8.ofNat (192 + high) &&& 0x3F).toNat = high := by decide +kernel
  intro offset small
  have sum : 0xC000 ||| offset = 49152 + offset := by
    have shifted : 3 <<< 14 + offset = 3 <<< 14 ||| offset := Nat.shiftLeft_add_eq_or_of_lt small 3
    exact shifted.symm
  have high : (49152 + offset) / 256 = 192 + offset / 256 := by omega
  obtain ⟨marked, value⟩ := heads ⟨offset / 256, by omega⟩
  rw [sum, high]
  refine ⟨marked, ?_⟩
  unfold pointerOf
  rw [value, UInt8.toNat_ofNat']
  show offset / 256 * 256 + (49152 + offset) % 256 = offset
  omega

/-- A name on the wire means its labels and what it goes on with. -/
theorem nameAt_wire {question : List Bytes} (asks : Asks message question)
    (valid : DomainName question) {offset : Nat} {name : WireName}
    (wire : ∀ label ∈ name.labels, WireLabel label)
    (stands : Stands message offset (name.bytes question)) :
    ∃ jumps, jumps ≤ 1 ∧ NameAt message offset jumps (name.meaning question)
      (offset + (name.bytes question).length) := by
  obtain ⟨labels, dropped⟩ := name
  obtain ⟨front, back⟩ := stands_append.mp stands
  cases dropped with
  | none =>
    refine ⟨0, Nat.zero_le _, ?_⟩
    have root : NameAt message (offset + (encodeLabels labels).length) 0 [] _ := .root back.byte
    have length : offset + (WireName.bytes question ⟨labels, none⟩).length =
        offset + (encodeLabels labels).length + 1 := congrArg (offset + ·) length_append
    rw [length]
    exact nameAt_labels wire front root
  | some dropped =>
    refine ⟨1, Nat.le_refl _, ?_⟩
    obtain ⟨marked, target⟩ := pointer_marked (suffixOffset_lt valid dropped)
    obtain ⟨next, suffix⟩ := asks.suffix valid.wire dropped
    have inside := suffix.lt
    rw [← target] at suffix inside
    have pointed := NameAt.pointer back.byte marked back.tail.byte inside suffix
    have length : offset + (WireName.bytes question ⟨labels, some dropped⟩).length =
        offset + (encodeLabels labels).length + 2 := congrArg (offset + ·) length_append
    rw [length]
    exact nameAt_labels wire front pointed

end Names

/-! ### Records on the wire -/

/-- The data of a record: a name, or bytes. -/
inductive RecordData where
  | name (target : WireName)
  | raw (bytes : Bytes)

structure WireRecord where
  owner : WireName
  recordType : UInt16
  recordClass : UInt16
  ttl : UInt32
  data : RecordData

def RecordData.bytes (question : List Bytes) : RecordData → Bytes
  | .name target => target.bytes question
  | .raw bytes => bytes

def WireRecord.bytes (question : List Bytes) (record : WireRecord) : Bytes :=
  record.owner.bytes question ++
    (recordFixed record.recordType.toNat record.recordClass.toNat record.ttl.toNat
      (record.data.bytes question).length ++ record.data.bytes question)

/-- Data that suits the type of a record: an alias has the name it stands for, an address on the
internet has four bytes. -/
def RecordData.Suits (question : List Bytes) (recordType recordClass : UInt16) : RecordData → Prop
  | .name target => recordType.toNat = typeCname ∧ DomainName (target.meaning question)
  | .raw bytes => bytes.length < 2 ^ 16 ∧ (recordClass.toNat = classInternet →
      recordType.toNat ≠ typeCname ∧ (recordType.toNat = typeA → bytes.length = 4))

/-- A record of a response to the question. -/
structure WireRecord.WellFormed (question : List Bytes) (record : WireRecord) : Prop where
  owner : DomainName (record.owner.meaning question)
  data : record.data.Suits question record.recordType record.recordClass

/-- What the parser sees of a record that stands at an offset. -/
def WireRecord.head (question : List Bytes) (record : WireRecord) (offset : Nat) : RecordHead where
  owner := joinLabels (record.owner.meaning question)
  recordType := record.recordType.toNat
  recordClass := record.recordClass.toNat
  ttl := record.ttl.toNat
  dataOffset := offset + (record.owner.bytes question).length + resourceRecordFixedBytes
  dataLength := (record.data.bytes question).length

section Records

variable {message : Bytes} {question : List Bytes} {record : WireRecord} {offset : Nat}

theorem recordFixed_length (recordType recordClass ttl dataLength : Nat) :
    (recordFixed recordType recordClass ttl dataLength).length = resourceRecordFixedBytes := rfl

theorem WireRecord.head_dataEnd :
    (record.head question offset).dataEnd = offset + (record.bytes question).length := by
  unfold WireRecord.head RecordHead.dataEnd WireRecord.bytes
  dsimp only
  rw [length_append, length_append, recordFixed_length]
  omega

theorem DomainName.front {front back : List Bytes} (name : DomainName (front ++ back)) :
    ∀ label ∈ front, WireLabel label :=
  fun label member => name.wire label (mem_append_left _ member)

/-- A name fits the length field of a record. -/
theorem WireName.bytes_length_lt {name : WireName} (valid : DomainName (name.meaning question)) :
    (name.bytes question).length < 2 ^ 16 := by
  have whole := encodeLabels_length_le valid.short
  have tail : (suffixBytes question name.dropped).length ≤ 2 := by
    cases name.dropped with
    | none => exact Nat.le_succ 1
    | some dropped => exact Nat.le_refl 2
  unfold WireName.meaning at whole
  rw [encodeLabels_append, length_append] at whole
  unfold WireName.bytes
  rw [length_append]
  omega

theorem RecordData.bytes_length_lt {data : RecordData} {recordType recordClass : UInt16}
    (suits : data.Suits question recordType recordClass) : (data.bytes question).length < 2 ^ 16 := by
  cases data with
  | name target => exact WireName.bytes_length_lt suits.2
  | raw bytes => exact suits.1

variable (asks : Asks message question) (valid : DomainName question)
include asks valid

/-- A name that is not the root is decoded. -/
theorem decodeName_wire {name : WireName} (named : DomainName (name.meaning question))
    (nonempty : name.meaning question ≠ []) (stands : Stands message offset (name.bytes question)) :
    decodeName message offset = .ok
      { nextOffset := offset + (name.bytes question).length
        text := joinLabels (name.meaning question) } := by
  obtain ⟨jumps, few, found⟩ := nameAt_wire asks valid named.front stands
  exact decodeName_complete found nonempty (few.trans (by decide)) named.short

/-- A record not owned by the root is read. -/
theorem readRecord_wire (wellFormed : record.WellFormed question)
    (nonempty : record.owner.meaning question ≠ [])
    (stands : Stands message offset (record.bytes question)) :
    readRecord message offset = .ok (record.head question offset) := by
  obtain ⟨owner, rest⟩ := stands_append.mp stands
  obtain ⟨fixed, data⟩ := stands_append.mp rest
  have inside : offset + (record.owner.bytes question).length + resourceRecordFixedBytes ≤
    message.length := fixed.inside (cons_ne_nil _ _)
  have dataInside : offset + (record.owner.bytes question).length +
      resourceRecordFixedBytes + (record.data.bytes question).length ≤ message.length := by
    have whole := rest.inside (append_ne_nil_of_left_ne_nil (cons_ne_nil _ _) _)
    rw [length_append, recordFixed_length] at whole
    omega
  obtain ⟨kind, internet, ttl, length⟩ := fixed.readFixed record.recordType.toNat_lt
    record.recordClass.toNat_lt record.ttl.toNat_lt (RecordData.bytes_length_lt wellFormed.data)
  unfold readRecord
  rw [decodeName_wire asks valid wellFormed.owner nonempty owner, ok_bind]
  dsimp only
  rw [if_neg (Nat.not_lt.mpr inside), kind, ok_bind, internet, ok_bind, ttl,
    ok_bind, length, ok_bind]
  exact if_neg (Nat.not_lt.mpr dataInside)

end Records

end ZigOs.Dns
