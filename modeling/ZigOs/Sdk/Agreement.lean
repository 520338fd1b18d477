/-
This file compares the resolver of the development kit with the kernel's. Both encode a
question the same way. Where the kernel finds an answer the kit finds the first address, or it
stops at a pointer that does not point back; the two agree where the first address is the
name's own, and where all addresses of the packet are the same.
-/

import ZigOs.Dns.Belonging
import ZigOs.Dns.Ordering
import ZigOs.Sdk.Dns

namespace ZigOs.Sdk

open Dns List Except

/-! ### Questions -/

theorem encodeLabels_wire {capacity output : Nat} {labels : List Bytes}
    (valid : ∀ label ∈ labels, WireLabel label)
    (room : output + (Dns.encodeLabels labels).length + 5 ≤ capacity) :
    encodeLabels capacity output labels = .ok (Dns.encodeLabels labels) := by
  induction labels generalizing output with
  | nil => rfl
  | cons label rest hypothesis =>
    obtain ⟨⟨nonempty, short⟩, others⟩ := forall_mem_cons.mp valid
    have positive := length_pos_iff.mpr nonempty
    rw [Dns.encodeLabels_cons, length_append, length_cons] at room
    unfold encodeLabels
    rw [if_neg (by omega), if_neg (by omega), hypothesis others (by omega)]
    rfl

/-- A name the kernel can encode is encoded to the same question. -/
theorem encodeQuery_eq {name : Bytes} {length : Nat} (encoded : encodedNameLength name = some length)
    (transaction : UInt16) :
    encodeQuery maximumPacketBytes transaction name =
      .ok (header transaction flagRecursionDesired 1 0 ++ question name) := by
  obtain ⟨nonempty, short, -, -⟩ := encodedNameLength_some encoded
  have valid := domainName_of_encoded encoded
  have labels := encodeLabels_length_le valid.short
  have positive := length_pos_iff.mpr nonempty
  have longest : maximumNameBytes = 253 := rfl
  have room : maximumPacketBytes = 512 := rfl
  unfold encodeQuery
  rw [if_neg (by omega), encodeLabels_wire valid.wire (by
    show 12 + _ + 5 ≤ 512
    omega)]
  refine congrArg Except.ok ?_
  unfold question encodeName
  simp only [append_assoc]

theorem buildAQuery_eq {name : Bytes} {length : Nat} (encoded : encodedNameLength name = some length)
    (transaction : UInt16) :
    buildAQuery maximumPacketBytes transaction name =
      some (header transaction flagRecursionDesired 1 0 ++ question name) := by
  obtain ⟨-, -, -, same⟩ := encodedNameLength_some encoded
  have labels := encodeLabels_length_le (domainName_of_encoded encoded).short
  have whole : (encodeName name).length = (Dns.encodeLabels (name.splitOn dot)).length + 1 :=
    length_append
  unfold buildAQuery
  rw [encoded]
  refine if_neg ?_
  show ¬512 < 12 + length + 4
  omega

/-! ### Names -/

/-- The first pointer of the name at an offset does not point back. -/
inductive PointsForward (message : Bytes) : Nat → Prop where
  | here {offset : Nat} {high low : UInt8} (found : message[offset]? = some high)
    (marked : high &&& 0xC0 = 0xC0) (next : message[offset + 1]? = some low)
    (forward : offset ≤ pointerOf high low) : PointsForward message offset
  | later {offset : Nat} {length : UInt8} (found : message[offset]? = some length)
    (plain : length &&& 0xC0 = 0) (nonzero : length ≠ 0)
    (rest : PointsForward message (offset + 1 + length.toNat)) : PointsForward message offset

section Names

variable {message : Bytes}

theorem skipLoop_label {fuel offset labels : Nat} {length : UInt8}
    (found : message[offset]? = some length) (plain : length &&& 0xC0 = 0) (nonzero : length ≠ 0)
    (inside : offset + 1 + length.toNat ≤ message.length) (few : labels < maximumLabels) :
    skipLoop message (fuel + 1) offset labels =
      skipLoop message fuel (offset + 1 + length.toNat) (labels + 1) := by
  have within : offset < message.length := (List.getElem?_eq_some_iff.mp found).1
  have short := le_63_of_plain plain
  conv_lhs => unfold skipLoop
  rw [if_neg (Nat.not_le.mpr within), byteAt_some found]
  refine (if_neg (by rw [plain]; decide)).trans ?_
  refine (if_neg (not_or.mpr ⟨not_not.mpr plain, Nat.not_lt.mpr short⟩)).trans ?_
  refine (if_neg nonzero).trans ?_
  rw [if_neg (by omega), if_neg (by omega)]

/-- A name with few labels is skipped, or it is refused for its pointer. -/
theorem skipLoop_nameAt {offset jumps next done fuel : Nat} {labels : List Bytes}
    (name : NameAt message offset jumps labels next) (few : done + labels.length ≤ maximumLabels)
    (fueled : labels.length < fuel) :
    PointsForward message offset ∧ skipLoop message fuel offset done = fail .malformedResponse ∨
      ¬PointsForward message offset ∧ skipLoop message fuel offset done = .ok next := by
  induction name generalizing done fuel with
  | @root offset found =>
    obtain ⟨fuel, rfl⟩ := Nat.exists_eq_succ_of_ne_zero (Nat.ne_zero_of_lt fueled)
    refine .inr ⟨fun forward => ?_, ?_⟩
    · cases forward with
      | here other marked =>
        cases found.symm.trans other
        cases marked
      | later other plain nonzero =>
        exact nonzero (Option.some.inj (other.symm.trans found))
    · unfold skipLoop
      rw [if_neg (Nat.not_le.mpr (List.getElem?_eq_some_iff.mp found).1), byteAt_some found]
      rfl
  | @label offset jumps next length labels found plain nonzero inside rest hypothesis =>
    obtain ⟨fuel, rfl⟩ := Nat.exists_eq_succ_of_ne_zero (Nat.ne_zero_of_lt fueled)
    rw [length_cons] at few fueled
    rw [skipLoop_label found plain nonzero inside (by omega)]
    obtain ⟨forward, skipped⟩ | ⟨back, skipped⟩ :=
      @hypothesis (done + 1) fuel (by omega) (by omega)
    · exact .inl ⟨.later found plain nonzero forward, skipped⟩
    · refine .inr ⟨fun forward => ?_, skipped⟩
      cases forward with
      | here other marked =>
        cases found.symm.trans other
        cases plain.symm.trans marked
      | later other _ _ later =>
        cases found.symm.trans other
        exact back later
  | @pointer offset jumps next high low labels found marked second inside rest hypothesis =>
    obtain ⟨fuel, rfl⟩ := Nat.exists_eq_succ_of_ne_zero (Nat.ne_zero_of_lt fueled)
    have within := (List.getElem?_eq_some_iff.mp found).1
    have room := (List.getElem?_eq_some_iff.mp second).1
    unfold skipLoop
    rw [if_neg (Nat.not_le.mpr within), byteAt_some found]
    by_cases forward : offset ≤ pointerOf high low
    · refine .inl ⟨.here found marked second forward, ?_⟩
      refine (if_pos marked).trans ((if_neg (Nat.not_le.mpr room)).trans ?_)
      rw [byteAt_some second]
      exact if_pos (.inl forward)
    · refine .inr ⟨fun pointsForward => ?_, ?_⟩
      · cases pointsForward with
        | here other _ next ahead =>
          cases found.symm.trans other
          cases second.symm.trans next
          exact forward ahead
        | later other plain =>
          cases found.symm.trans other
          cases marked.symm.trans plain
      · refine (if_pos marked).trans ((if_neg (Nat.not_le.mpr room)).trans ?_)
        rw [byteAt_some second]
        exact if_neg (not_or.mpr ⟨forward, Nat.not_le.mpr inside⟩)

theorem labels_nonempty {offset jumps next : Nat} {labels : List Bytes}
    (name : NameAt message offset jumps labels next) : ∀ label ∈ labels, label ≠ [] := by
  induction name with
  | root => exact fun label member => absurd member not_mem_nil
  | @label offset jumps next length labels found plain nonzero inside rest hypothesis =>
    refine forall_mem_cons.mpr ⟨?_, hypothesis⟩
    have positive : 0 < length.toNat := Nat.pos_of_ne_zero fun zero =>
      nonzero (UInt8.toNat_inj.mp zero)
    refine length_pos_iff.mp ?_
    rw [length_take, length_drop]
    omega
  | pointer _ _ _ _ _ hypothesis => exact hypothesis

/-- A text has at least two bytes for each label but the last. -/
theorem two_mul_length_le {labels : List Bytes} (nonempty : ∀ label ∈ labels, label ≠ []) :
    2 * labels.length ≤ (joinLabels labels).length + 1 := by
  have dotted (rest : List Bytes) (nonempty : ∀ label ∈ rest, label ≠ []) :
      2 * rest.length ≤ ((rest.map (dot :: ·)).flatten).length := by
    induction rest with
    | nil => exact Nat.zero_le _
    | cons label rest hypothesis =>
      obtain ⟨first, others⟩ := forall_mem_cons.mp nonempty
      have positive := length_pos_iff.mpr first
      have later := hypothesis others
      rw [map_cons, flatten_cons, length_append, length_cons, length_cons]
      omega
  cases labels with
  | nil => exact Nat.zero_le _
  | cons label rest =>
    obtain ⟨first, others⟩ := forall_mem_cons.mp nonempty
    have positive := length_pos_iff.mpr first
    have later := dotted rest others
    rw [joinLabels_cons, length_append, length_cons]
    omega

/-- A name the kernel reads is skipped, or it is refused for its pointer. -/
theorem skipName_decoded {offset : Nat} {decoded : DecodedName}
    (done : decodeName message offset = .ok decoded) :
    PointsForward message offset ∧ skipName message offset = fail .malformedResponse ∨
      ¬PointsForward message offset ∧ skipName message offset = .ok decoded.nextOffset := by
  obtain ⟨jumps, labels, name, -, -, text, short⟩ := decodeName_sound done
  have few := two_mul_length_le (labels_nonempty name)
  have longest : maximumNameBytes = 253 := rfl
  have most : maximumLabels = 127 := rfl
  rw [text] at short
  exact skipLoop_nameAt name (by omega) (by omega)

end Names

/-! ### Records -/

/-- An address of four bytes on the internet. -/
def IsAddress (head : RecordHead) : Prop :=
  head.recordClass = classInternet ∧ head.recordType = typeA ∧ head.dataLength = 4

instance (head : RecordHead) : Decidable (IsAddress head) := inferInstanceAs (Decidable (_ ∧ _))

/-- The first address among records that the kernel reads. -/
def firstAddress (message : Bytes) : Nat → Nat → Parse (Option RecordHead)
  | 0, _ => .ok none
  | remaining + 1, offset => do
    let head ← readRecord message offset
    if IsAddress head then .ok (some head) else firstAddress message remaining head.dataEnd

/-- An owner up to the first address does not point back. -/
inductive Astray (message : Bytes) : Nat → Nat → Prop where
  | here {remaining offset : Nat} (forward : PointsForward message offset) :
    Astray message (remaining + 1) offset
  | later {remaining offset : Nat} {head : RecordHead}
    (record : readRecord message offset = .ok head) (other : ¬IsAddress head)
    (rest : Astray message remaining head.dataEnd) : Astray message (remaining + 1) offset

/-- What the kit answers with a record, if there is one. -/
def resolve (message : Bytes) : Option RecordHead → Codec Resolution
  | none => fail .notFound
  | some head => do
    let address ← lift (readAddress message head.dataOffset)
    .ok { address, ttlSeconds := head.ttl }

section Records

variable {message : Bytes}

/-- A record the kernel reads is read, or it is refused for its pointer. -/
theorem readAnswers_record {remaining offset : Nat} {head : RecordHead}
    (record : readRecord message offset = .ok head) :
    PointsForward message offset ∧
        readAnswers message (remaining + 1) offset = fail .malformedResponse ∨
      ¬PointsForward message offset ∧ readAnswers message (remaining + 1) offset =
        if IsAddress head then resolve message (some head)
        else readAnswers message remaining head.dataEnd := by
  obtain ⟨owner, decoded, record⟩ := of_bind_ok record
  obtain ⟨forward, skipped⟩ | ⟨back, skipped⟩ := skipName_decoded decoded
  · refine .inl ⟨forward, ?_⟩
    unfold readAnswers
    rw [skipped]
    rfl
  refine .inr ⟨back, ?_⟩
  conv_lhs => unfold readAnswers
  dsimp only at record
  split at record
  · cases record
  rename_i room
  obtain ⟨recordType, typeRead, record⟩ := of_bind_ok record
  obtain ⟨recordClass, classRead, record⟩ := of_bind_ok record
  obtain ⟨ttl, ttlRead, record⟩ := of_bind_ok record
  obtain ⟨dataLength, lengthRead, record⟩ := of_bind_ok record
  split at record
  · cases record
  rename_i whole
  have same := Except.ok.inj record
  have fixed : resourceRecordFixedBytes = 10 := rfl
  have inside : ¬message.length < owner.nextOffset + 10 + dataLength := whole
  have addressIff : IsAddress head ↔ recordType = 1 ∧ recordClass = 1 ∧ dataLength = 4 := by
    rw [← same]
    exact and_left_comm
  rw [skipped, ok_bind, if_neg (by omega), typeRead, classRead, ttlRead, lengthRead]
  refine (if_neg (by omega)).trans ?_
  by_cases address : IsAddress head
  · refine (if_pos (addressIff.mp address)).trans (Eq.trans ?_ (if_pos address).symm)
    rw [← same]
    rfl
  · refine (if_neg (addressIff.not.mp address)).trans (Eq.trans ?_ (if_neg address).symm)
    rw [← same]
    rfl

/-- The kit finds the first address the kernel reads, or it stops at a pointer. -/
theorem readAnswers_first {remaining offset : Nat} {found : Option RecordHead}
    (first : firstAddress message remaining offset = .ok found) :
    Astray message remaining offset ∧
        readAnswers message remaining offset = fail .malformedResponse ∨
      ¬Astray message remaining offset ∧
        readAnswers message remaining offset = resolve message found := by
  induction remaining generalizing offset with
  | zero =>
    cases first
    exact .inr ⟨fun astray => (by cases astray), rfl⟩
  | succ remaining hypothesis =>
    obtain ⟨head, record, first⟩ := of_bind_ok first
    obtain ⟨forward, stopped⟩ | ⟨back, found⟩ := @readAnswers_record _ remaining _ _ record
    · exact .inl ⟨.here forward, stopped⟩
    have only {other : RecordHead} (read : readRecord message offset = .ok other) : other = head :=
      Except.ok.inj (read.symm.trans record)
    rw [found]
    by_cases address : IsAddress head
    · rw [if_pos address] at first ⊢
      cases first
      refine .inr ⟨fun astray => ?_, rfl⟩
      cases astray with
      | here forward => exact back forward
      | later read other => exact other (only read ▸ address)
    · rw [if_neg address] at first ⊢
      obtain ⟨astray, stopped⟩ | ⟨straight, found⟩ := hypothesis first
      · exact .inl ⟨.later record address astray, stopped⟩
      · refine .inr ⟨fun astray => ?_, found⟩
        cases astray with
        | here forward => exact back forward
        | later read _ rest => exact straight (only read ▸ rest)

/-- The first address is one of the answers. -/
theorem firstAddress_inAnswers {remaining offset : Nat} {head : RecordHead}
    (first : firstAddress message remaining offset = .ok (some head)) :
    ∃ answer, InAnswers message offset remaining answer ∧ answer.IsAddress ∧ answer.head = head := by
  induction remaining generalizing offset with
  | zero => cases first
  | succ remaining hypothesis =>
    obtain ⟨other, read, first⟩ := of_bind_ok first
    obtain ⟨answer, rfl, record⟩ := readRecord_sound read
    split at first
    · rename_i address
      cases first
      exact ⟨answer, .first record, address, rfl⟩
    · obtain ⟨later, member, rest⟩ := hypothesis first
      exact ⟨later, member.cons record, rest⟩

/-- A pass that goes through reads up to the first address, and an address it ends with is not
before that. -/
theorem firstAddress_of_answerPass {current : Bytes} {remaining offset : Nat}
    {target : Option Bytes} {pass : Pass}
    (passed : answerPass message current remaining offset target = .ok pass) :
    ∃ found, firstAddress message remaining offset = .ok found ∧
      ∀ address ttl, pass = .answer address ttl → found ≠ none := by
  induction remaining generalizing offset target with
  | zero =>
    cases passed
    exact ⟨none, rfl, fun _ _ answers => (by cases answers)⟩
  | succ remaining hypothesis =>
    obtain ⟨head, read, passed⟩ := of_bind_ok passed
    unfold firstAddress
    rw [read, ok_bind]
    by_cases address : IsAddress head
    · rw [if_pos address]
      exact ⟨some head, rfl, fun _ _ _ => Option.some_ne_none head⟩
    rw [if_neg address]
    split at passed
    case isFalse => exact hypothesis passed
    rename_i asked
    rw [if_neg fun both => address ⟨asked.1, both⟩] at passed
    split at passed
    case isFalse => exact hypothesis passed
    obtain ⟨text, -, passed⟩ := of_bind_ok passed
    exact hypothesis passed

end Records

/-! ### Responses -/

/-- The kernel reads the packet as a response that answers the question for the name. -/
structure AnswerRead (message : Bytes) (transaction : UInt16) (name : Bytes) (flags count : Nat)
    (question : DecodedName) : Prop where
  encoded : encodedNameLength name ≠ none
  long : headerBytes ≤ message.length
  transactionRead : readNetwork16 message 0 = .ok transaction.toNat
  flagsRead : readNetwork16 message 2 = .ok flags
  accepted : flagsAccepted flags = true
  yes : flags &&& responseCodeMask = 0
  questions : readNetwork16 message 4 = .ok 1
  answers : readNetwork16 message 6 = .ok count
  nonempty : count ≠ 0
  nameRead : decodeName message headerBytes = .ok question
  same : equalName question.text name = true
  room : question.nextOffset + questionTailBytes ≤ message.length
  questionType : readNetwork16 message question.nextOffset = .ok typeA
  questionClass : readNetwork16 message (question.nextOffset + 2) = .ok classInternet

section Responses

variable {message name : Bytes} {transaction : UInt16}

/-- Where the kernel answers it has read header and question and followed the aliases. -/
theorem answerRead_of_parse {response : AResponse}
    (parsed : parseAOutcome message transaction name = .ok (.answer response)) :
    ∃ flags count question, AnswerRead message transaction name flags count question ∧
      aliasLoop message flags (question.nextOffset + questionTailBytes) count
        (maximumAliasHops + 1) name [name] 0 = .ok (.answer response) := by
  unfold parseAOutcome at parsed
  split at parsed
  · cases parsed
  rename_i encoded
  split at parsed
  · cases parsed
  rename_i long
  obtain ⟨found, transactionRead, parsed⟩ := of_bind_ok parsed
  split at parsed
  · cases parsed
  rename_i same
  obtain ⟨flags, flagsRead, parsed⟩ := of_bind_ok parsed
  split at parsed
  · cases parsed
  rename_i accepted
  obtain ⟨questions, questionsRead, parsed⟩ := of_bind_ok parsed
  obtain ⟨count, answersRead, parsed⟩ := of_bind_ok parsed
  split at parsed
  · cases parsed
  rename_i single
  obtain ⟨question, decoded, parsed⟩ := of_bind_ok parsed
  split at parsed
  · cases parsed
  rename_i asked
  split at parsed
  · cases parsed
  rename_i room
  obtain ⟨questionType, typeRead, parsed⟩ := of_bind_ok parsed
  obtain ⟨questionClass, classRead, parsed⟩ := of_bind_ok parsed
  split at parsed
  · cases parsed
  rename_i address
  obtain ⟨typeSame, classSame⟩ := not_or.mp address
  unfold parseAnswers at parsed
  split at parsed
  · split at parsed <;> cases parsed
  rename_i notError
  split at parsed
  · cases parsed
  rename_i nonempty
  refine ⟨flags, count, question, ?_, parsed⟩
  have yes : flags &&& responseCodeMask = 0 := by
    unfold flagsAccepted at accepted
    simp only [Bool.not_eq_false, Bool.and_eq_true, Bool.or_eq_true, beq_iff_eq] at accepted
    exact accepted.2.resolve_right notError
  exact
    { encoded
      long := Nat.le_of_not_lt long
      transactionRead := not_not.mp same ▸ transactionRead
      flagsRead
      accepted := Bool.not_eq_false _ ▸ accepted
      yes
      questions := not_not.mp single ▸ questionsRead
      answers := answersRead
      nonempty
      nameRead := decoded
      same := Bool.not_eq_false _ ▸ asked
      room := Nat.le_of_not_lt room
      questionType := not_not.mp typeSame ▸ typeRead
      questionClass := not_not.mp classSame ▸ classRead }

variable {flags count : Nat} {question : DecodedName}
  (read : AnswerRead message transaction name flags count question)
include read

theorem AnswerRead.parse : parseAOutcome message transaction name =
    aliasLoop message flags (question.nextOffset + questionTailBytes) count (maximumAliasHops + 1)
      name [name] 0 := by
  have accepted := read.accepted
  unfold parseAOutcome parseQuestion parseAnswers
  rw [if_neg read.encoded, if_neg (Nat.not_lt.mpr read.long), read.transactionRead, ok_bind,
    if_neg (not_not.mpr rfl), read.flagsRead, ok_bind, if_neg (Bool.not_eq_false _ ▸ accepted),
    read.questions, ok_bind, read.answers, ok_bind, if_neg (not_not.mpr rfl),
    read.nameRead, ok_bind, if_neg (Bool.not_eq_false _ ▸ read.same),
    if_neg (Nat.not_lt.mpr read.room), read.questionType, ok_bind, read.questionClass,
    ok_bind, if_neg (not_or.mpr ⟨not_not.mpr rfl, not_not.mpr rfl⟩), read.yes,
    if_neg (by decide), if_neg read.nonempty]

/-- The kit goes on to the answers, or it stops at the pointer of the question. -/
theorem AnswerRead.parseAResponse :
    PointsForward message headerBytes ∧
        Sdk.parseAResponse message transaction = fail .malformedResponse ∨
      ¬PointsForward message headerBytes ∧ Sdk.parseAResponse message transaction =
        readAnswers message count (question.nextOffset + questionTailBytes) := by
  have accepted := read.accepted
  unfold flagsAccepted at accepted
  simp only [Bool.and_eq_true, bne_iff_ne, beq_iff_eq] at accepted
  obtain ⟨⟨⟨response, -⟩, truncated⟩, -⟩ := accepted
  have header : Sdk.parseAResponse message transaction =
      skipQuestions message 1 headerBytes >>= readAnswers message count := by
    unfold Sdk.parseAResponse
    rw [if_neg (Nat.not_lt.mpr read.long), read.transactionRead, read.flagsRead, read.questions,
      read.answers]
    refine (if_neg (not_not.mpr rfl)).trans ?_
    refine (if_neg (not_or.mpr ⟨response, not_not.mpr truncated⟩)).trans ?_
    refine (if_neg (fun three => absurd (read.yes.symm.trans three) (by decide))).trans ?_
    exact if_neg (not_not.mpr read.yes)
  rw [header]
  obtain ⟨forward, skipped⟩ | ⟨back, skipped⟩ := skipName_decoded read.nameRead
  · refine .inl ⟨forward, ?_⟩
    unfold skipQuestions
    rw [skipped]
    rfl
  · refine .inr ⟨back, ?_⟩
    have room := read.room
    have tail : questionTailBytes = 4 := rfl
    unfold skipQuestions
    rw [skipped, ok_bind, if_neg (by omega)]
    rfl

/-- The kit stops at a pointer of the question or of an owner up to the first address. -/
def PointsAstray (message : Bytes) (count : Nat) (question : DecodedName) : Prop :=
  PointsForward message headerBytes ∨
    Astray message count (question.nextOffset + questionTailBytes)

theorem AnswerRead.parseAResponse_first {found : Option RecordHead}
    (first : firstAddress message count (question.nextOffset + questionTailBytes) = .ok found) :
    PointsAstray message count question ∧
        Sdk.parseAResponse message transaction = fail .malformedResponse ∨
      ¬PointsAstray message count question ∧
        Sdk.parseAResponse message transaction = resolve message found := by
  obtain ⟨forward, stopped⟩ | ⟨back, goesOn⟩ := read.parseAResponse
  · exact .inl ⟨.inl forward, stopped⟩
  rw [goesOn]
  obtain ⟨astray, stopped⟩ | ⟨straight, found⟩ := readAnswers_first first
  · exact .inl ⟨.inr astray, stopped⟩
  · exact .inr ⟨not_or.mpr ⟨back, straight⟩, found⟩

end Responses

/-! ### Agreement -/

/-- All addresses among the answers are the same, for the same time. -/
def AddressesAgree (message : Bytes) (count : Nat) (question : DecodedName) : Prop :=
  ∀ first second, InAnswers message (question.nextOffset + questionTailBytes) count first →
    InAnswers message (question.nextOffset + questionTailBytes) count second →
    first.IsAddress → second.IsAddress →
    readAddress message first.head.dataOffset = readAddress message second.head.dataOffset ∧
      first.head.ttl = second.head.ttl

/-- The first address among the records is the name's own, with no alias of the name before it. -/
inductive Direct (message name : Bytes) : Nat → Nat → Prop where
  | here {remaining offset : Nat} {head : RecordHead}
    (record : readRecord message offset = .ok head) (address : IsAddress head)
    (owner : equalName head.owner name = true) : Direct message name (remaining + 1) offset
  | later {remaining offset : Nat} {head : RecordHead}
    (record : readRecord message offset = .ok head) (other : ¬IsAddress head)
    (noAlias : ¬(head.recordClass = classInternet ∧ equalName head.owner name = true ∧
      head.recordType = typeCname))
    (rest : Direct message name remaining head.dataEnd) : Direct message name (remaining + 1) offset

section Agreement

variable {message name : Bytes} {transaction : UInt16}

/-- A pass over such records ends at the first address. -/
theorem answerPass_direct {remaining offset : Nat} (direct : Direct message name remaining offset) :
    ∃ head, firstAddress message remaining offset = .ok (some head) ∧
      answerPass message name remaining offset none = (do
        let address ← readAddress message head.dataOffset
        .ok (.answer address head.ttl)) := by
  induction direct with
  | @here remaining offset head record address owner =>
    refine ⟨head, ?_, ?_⟩
    · unfold firstAddress
      rw [record]
      exact if_pos address
    · unfold answerPass
      rw [record]
      exact (if_pos ⟨address.1, owner⟩).trans (if_pos address.2)
  | @later remaining offset head record other noAlias rest hypothesis =>
    obtain ⟨found, first, passed⟩ := hypothesis
    refine ⟨found, ?_, ?_⟩
    · unfold firstAddress
      rw [record]
      exact (if_neg other).trans first
    · rw [← passed]
      conv_lhs => unfold answerPass
      rw [record, ok_bind]
      split
      · rename_i asked
        rw [if_neg fun both => other ⟨asked.1, both⟩]
        exact if_neg fun both => noAlias ⟨asked.1, asked.2, both.1⟩
      · rfl

/-- An answer of the kernel is that of one of its passes. -/
theorem answerPass_of_aliasLoop {flags offset count fuel aliasHops : Nat} {current : Bytes}
    {visited : List Bytes} {response : AResponse}
    (answered : aliasLoop message flags offset count fuel current visited aliasHops =
      .ok (.answer response)) :
    ∃ final, answerPass message final count offset none =
      .ok (.answer response.address response.ttl) := by
  induction fuel generalizing current visited aliasHops with
  | zero => cases answered
  | succ fuel hypothesis =>
    obtain ⟨pass, passed, answered⟩ := of_bind_ok answered
    rcases pass with ⟨address, ttl⟩ | _ | target
    · cases answered
      exact ⟨current, passed⟩
    · cases answered
    · dsimp only at answered
      split at answered
      · cases answered
      split at answered
      · cases answered
      exact hypothesis answered

/-- The first address can be read. -/
theorem readAddress_first {remaining offset : Nat} {head : RecordHead}
    (first : firstAddress message remaining offset = .ok (some head)) :
    ∃ address, readAddress message head.dataOffset = .ok address := by
  induction remaining generalizing offset with
  | zero => cases first
  | succ remaining hypothesis =>
    obtain ⟨other, read, first⟩ := of_bind_ok first
    split at first
    case isFalse => exact hypothesis first
    rename_i address
    cases first
    have inside := readRecord_inside read
    unfold RecordHead.dataEnd at inside
    rw [address.2.2] at inside
    unfold readAddress
    rw [byteAt_of_lt (by omega), byteAt_of_lt (by omega), byteAt_of_lt (by omega),
      byteAt_of_lt (by omega)]
    exact ⟨_, rfl⟩

theorem resolve_some {head : RecordHead} {address : Address}
    (read : readAddress message head.dataOffset = .ok address) :
    resolve message (some head) = .ok { address, ttlSeconds := head.ttl } := by
  show lift (readAddress message head.dataOffset) >>= _ = _
  rw [read]
  rfl

/-- Where the kernel answers, the kit answers with the first address, or it stops at a pointer. -/
theorem parseAResponse_of_answer {response : AResponse}
    (parsed : parseAOutcome message transaction name = .ok (.answer response)) :
    ∃ flags count question, AnswerRead message transaction name flags count question ∧
      (parseAResponse message transaction = fail .malformedResponse ↔
        PointsAstray message count question) ∧
      (¬PointsAstray message count question →
        ∃ resolution, parseAResponse message transaction = .ok resolution ∧
          (AddressesAgree message count question → resolution =
            { address := response.address, ttlSeconds := response.ttl })) := by
  obtain ⟨flags, count, question, read, answered⟩ := answerRead_of_parse parsed
  refine ⟨flags, count, question, read, ?_⟩
  obtain ⟨final, passed⟩ := answerPass_of_aliasLoop answered
  obtain ⟨found, first, finds⟩ := firstAddress_of_answerPass passed
  obtain ⟨head, rfl⟩ := Option.ne_none_iff_exists'.mp (finds _ _ rfl)
  obtain ⟨address, addressRead⟩ := readAddress_first first
  obtain ⟨astray, stopped⟩ | ⟨straight, goesOn⟩ := read.parseAResponse_first first
  · exact ⟨iff_of_true stopped astray, fun straight => absurd astray straight⟩
  rw [goesOn, resolve_some addressRead]
  refine ⟨iff_of_false (fun failed => by cases failed) straight, fun _ => ⟨_, rfl, fun agree => ?_⟩⟩
  obtain ⟨answer, member, isAddress, -, answerRead, time⟩ :=
    (answerPass_sound passed).address _ _ rfl
  obtain ⟨other, otherMember, otherAddress, rfl⟩ := firstAddress_inAnswers first
  obtain ⟨same, sameTime⟩ := agree other answer otherMember member otherAddress isAddress
  have addresses := Except.ok.inj (addressRead.symm.trans (same.trans answerRead))
  rw [addresses, sameTime, time]

/-- An address that stands for the name itself is the kernel's answer too. -/
theorem parseAOutcome_of_direct {flags count : Nat} {question : DecodedName} {resolution : Resolution}
    (read : AnswerRead message transaction name flags count question)
    (direct : Direct message name count (question.nextOffset + questionTailBytes))
    (parsed : parseAResponse message transaction = .ok resolution) :
    ∃ response, parseAOutcome message transaction name = .ok (.answer response) ∧
      response.address = resolution.address ∧ response.ttl = resolution.ttlSeconds := by
  obtain ⟨head, first, passed⟩ := answerPass_direct direct
  obtain ⟨-, stopped⟩ | ⟨-, goesOn⟩ := read.parseAResponse_first first
  · cases stopped.symm.trans parsed
  obtain ⟨address, addressRead⟩ := readAddress_first first
  rw [goesOn, resolve_some addressRead] at parsed
  cases parsed
  rw [addressRead] at passed
  rw [read.parse]
  unfold aliasLoop
  rw [passed]
  exact ⟨_, rfl, rfl, rfl⟩

end Agreement

/-- A response with an address of another name before the one of the question. -/
def foreignFirst : Bytes :=
  (builtResponse 7 0x8180 [0x61]).bytes
    [questionAddress ⟨[[0x62]], none⟩ ⟨192, 0, 2, 43⟩ 300,
      questionAddress ⟨[], some 0⟩ ⟨192, 0, 2, 42⟩ 300]

/-- A response whose answer is owned by a name behind it. -/
def ownerBehind : Bytes :=
  header 7 0x8180 1 1 ++ question [0x61] ++ network16 (0xC000 ||| 35) ++
    recordFixed typeA classInternet 300 4 ++ [192, 0, 2, 42] ++ [1, 0x61, 0]

/-- A response with the one address of the question. -/
def plainResponse : Bytes :=
  (builtResponse 7 0x8180 [0x61]).bytes [questionAddress ⟨[], some 0⟩ ⟨192, 0, 2, 42⟩ 300]

end ZigOs.Sdk
