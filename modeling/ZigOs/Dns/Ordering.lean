/-
This file proves that the order of the answers does not matter. A pass over the records of
a response looks for the first address or alias of the current name, and where a name has
at most one of these the first is the only one. It also reads the built responses back:
what was written is what the parser answers.
-/

import ZigOs.Dns.Wire

namespace ZigOs.Dns

open List Except

/-! ### Responses -/

/-- A response to one question, with whatever sections follow the answers. -/
structure Response where
  transactionId : UInt16
  flags : UInt16
  question : List Bytes
  questionType : UInt16
  questionClass : UInt16
  authorityCount : UInt16
  additionalCount : UInt16
  rest : Bytes

/-- The message of a response with the given answers. -/
def Response.bytes (response : Response) (records : List WireRecord) : Bytes :=
  network16 response.transactionId.toNat ++ (network16 response.flags.toNat ++ (network16 1 ++
    (network16 records.length ++ (network16 response.authorityCount.toNat ++
      (network16 response.additionalCount.toNat ++ ((encodeLabels response.question ++ [0]) ++
        (network16 response.questionType.toNat ++ (network16 response.questionClass.toNat ++
          (records.flatMap (WireRecord.bytes response.question) ++ response.rest)))))))))

/-- Where the answers start. -/
def Response.answersOffset (response : Response) : Nat :=
  headerBytes + (encodeLabels response.question ++ [0]).length + questionTailBytes

/-- What the data of a record offers to who asks for an address. -/
inductive Finding where
  | nothing
  | address (address : Address)
  | target (text : Bytes)

def WireRecord.finding (question : List Bytes) (record : WireRecord) : Finding :=
  match record.data with
  | .raw [first, second, third, fourth] =>
    if record.recordType.toNat = typeA then .address { first, second, third, fourth } else .nothing
  | .raw _ => .nothing
  | .name target => .target (joinLabels (target.meaning question))

/-- The record is on the internet and its owner is the current name. -/
def WireRecord.Concerns (question : List Bytes) (current : Bytes) (record : WireRecord) : Prop :=
  record.recordClass.toNat = classInternet ∧
    equalName (joinLabels (record.owner.meaning question)) current = true

instance (question : List Bytes) (current : Bytes) (record : WireRecord) :
    Decidable (record.Concerns question current) := inferInstanceAs (Decidable (_ ∧ _))

/-- What a pass over records finds for a name. -/
def passOver (question : List Bytes) (current : Bytes) :
    List WireRecord → Option Bytes → Parse Pass
  | [], target => .ok (.finish target)
  | record :: rest, target =>
    if record.Concerns question current then
      match record.finding question with
      | .nothing => passOver question current rest target
      | .address address => .ok (.answer address record.ttl.toNat)
      | .target text =>
        if target.isSome then passOver question current rest target
        else if encodedNameLength text = none then .error .refused
        else passOver question current rest (some text)
    else passOver question current rest target

variable {record : WireRecord} {offset : Nat} {current : Bytes} {records : List WireRecord}

section Passes

variable {message : Bytes} {question : List Bytes}

theorem finding_name {record : WireRecord} {target : WireName} (data : record.data = .name target) :
    record.finding question = .target (joinLabels (target.meaning question)) := by
  unfold WireRecord.finding
  rw [data]

theorem finding_address {record : WireRecord} {first second third fourth : UInt8}
    (data : record.data = .raw [first, second, third, fourth])
    (address : record.recordType.toNat = typeA) :
    record.finding question = .address ⟨first, second, third, fourth⟩ := by
  unfold WireRecord.finding
  rw [data]
  exact if_pos address

theorem finding_other {bytes : Bytes} (data : record.data = .raw bytes)
    (other : record.recordType.toNat ≠ typeA) : record.finding question = .nothing := by
  unfold WireRecord.finding
  rw [data]
  split
  · exact if_neg other
  · rfl
  · rename_i impossible
    cases impossible

/-- The root is no name that is decoded. -/
theorem decodeName_root {jumps next : Nat} (root : NameAt message offset jumps [] next) :
    decodeName message offset = .error .refused := by
  rcases outcome : decodeName message offset with stop | decoded
  · rw [decodeName_settles stop outcome]
  · obtain ⟨otherJumps, labels, name, nonempty, -⟩ := decodeName_sound outcome
    exact absurd (name.unique root).1 nonempty

variable (asks : Asks message question) (valid : DomainName question)
include asks valid

/-- The target of an alias is read, unless it is no name that can be asked for. -/
theorem readTarget_wire {target : WireName} (data : record.data = .name target)
    (named : DomainName (target.meaning question))
    (stands : Stands message offset (record.bytes question)) :
    readTarget message (record.head question offset) =
      if encodedNameLength (joinLabels (target.meaning question)) = none then .error .refused
      else .ok (joinLabels (target.meaning question)) := by
  have place := (stands_append.mp (stands_append.mp stands).2).2
  have bytes : record.data.bytes question = target.bytes question := by rw [data]; rfl
  rw [bytes] at place
  unfold readTarget
  by_cases root : target.meaning question = []
  · obtain ⟨jumps, -, found⟩ := nameAt_wire asks valid named.front place
    rw [root] at found ⊢
    have refused : decodeName message (record.head question offset).dataOffset = .error .refused :=
      decodeName_root found
    rw [refused]
    rfl
  · have decoded := decodeName_wire asks valid named root place
    have ends : (record.head question offset).dataOffset + (target.bytes question).length =
        (record.head question offset).dataEnd := by
      rw [← bytes]
      rfl
    have here : decodeName message (record.head question offset).dataOffset = .ok
        { nextOffset := (record.head question offset).dataEnd
          text := joinLabels (target.meaning question) } := ends ▸ decoded
    rw [here, ok_bind]
    exact if_neg (not_not.mpr rfl)

/-- A pass over a response computes on its records. -/
theorem answerPass_wire {target : Option Bytes}
    (wellFormed : ∀ record ∈ records, record.WellFormed question)
    (named : ∀ record ∈ records, record.owner.meaning question ≠ [])
    (stands : Stands message offset (records.flatMap (WireRecord.bytes question))) :
    answerPass message current records.length offset target =
      passOver question current records target := by
  induction records generalizing offset target with
  | nil => rfl
  | cons record rest hypothesis =>
    obtain ⟨first, others⟩ := stands_append.mp stands
    rw [forall_mem_cons] at wellFormed named
    have later (target : Option Bytes) : answerPass message current rest.length
        (record.head question offset).dataEnd target = passOver question current rest target :=
      hypothesis wellFormed.2 named.2 (record.head_dataEnd ▸ others)
    rw [length_cons]
    unfold answerPass passOver
    rw [readRecord_wire asks valid wellFormed.1 named.1 first, ok_bind]
    by_cases concerns : record.Concerns question current
    case neg => exact (if_neg concerns).trans ((later target).trans (if_neg concerns).symm)
    refine (if_pos concerns).trans (Eq.trans ?_ (if_pos concerns).symm)
    have suits := wellFormed.1.data
    rcases data : record.data with alias' | bytes
    · rw [data] at suits
      obtain ⟨cname, named⟩ := suits
      rw [finding_name data]
      refine (if_neg fun both => ?_).trans ?_
      · cases cname.symm.trans both.1
      cases target with
      | some text =>
        exact (if_neg fun both => by cases both.2).trans (later _)
      | none =>
        refine (if_pos ⟨cname, rfl⟩).trans ?_
        rw [readTarget_wire asks valid data named first]
        dsimp only [Option.isSome_none]
        split
        · rfl
        · exact later _
    · rw [data] at suits
      obtain ⟨-, internet⟩ := suits
      obtain ⟨notCname, four⟩ := internet concerns.1
      by_cases address : record.recordType.toNat = typeA
      · obtain ⟨one, two, three, last, rfl⟩ : ∃ one two three last, bytes = [one, two, three, last] := by
          have length := four address
          rcases bytes with - | ⟨one, _ | ⟨two, _ | ⟨three, _ | ⟨last, _ | ⟨more, bytes⟩⟩⟩⟩⟩ <;>
            simp only [length_cons, length_nil] at length <;> first | omega | skip
          exact ⟨one, two, three, last, rfl⟩
        have place := (stands_append.mp (stands_append.mp first).2).2
        rw [recordFixed_length, data] at place
        have read : readAddress message (record.head question offset).dataOffset =
            .ok ⟨one, two, three, last⟩ := Stands.readAddress place
        have length : (record.head question offset).dataLength = 4 := by
          show (record.data.bytes question).length = 4
          rw [data]
          rfl
        rw [finding_address data address]
        refine (if_pos ⟨address, length⟩).trans ?_
        rw [read]
        rfl
      · rw [finding_other data address]
        refine (if_neg fun both => address both.1).trans ?_
        exact (if_neg fun both => notCname both.1).trans (later target)

end Passes

/-! ### The order of the records -/

/-- The record holds an address or an alias on the internet. -/
def WireRecord.Resolves (record : WireRecord) : Prop :=
  record.recordClass.toNat = classInternet ∧
    (record.recordType.toNat = typeA ∨ record.recordType.toNat = typeCname)

/-- No name owns two addresses, two aliases, or one of each. -/
def OneAnswerEach (question : List Bytes) (records : List WireRecord) : Prop :=
  records.Pairwise fun first second => first.Resolves → second.Resolves →
    equalName (joinLabels (first.owner.meaning question))
      (joinLabels (second.owner.meaning question)) = false

/-- The record has something to say about the current name. -/
def WireRecord.offers (question : List Bytes) (current : Bytes) (record : WireRecord) : Bool :=
  decide (record.Concerns question current) &&
    match record.finding question with
    | .nothing => false
    | .address _ | .target _ => true

variable {others : List WireRecord}

section Ordering

variable {question : List Bytes} {current : Bytes}

theorem offers_concerns (offers : record.offers question current = true) :
    record.Concerns question current :=
  of_decide_eq_true (Bool.and_eq_true_iff.mp offers).1

theorem offers_resolves (wellFormed : record.WellFormed question)
    (offers : record.offers question current = true) : record.Resolves := by
  refine ⟨(offers_concerns offers).1, ?_⟩
  have finds := (Bool.and_eq_true_iff.mp offers).2
  have suits := wellFormed.data
  rcases data : record.data with target | bytes
  · rw [data] at suits
    exact .inr suits.1
  · by_cases address : record.recordType.toNat = typeA
    · exact .inl address
    · rw [finding_other data address] at finds
      cases finds

/-- Records that have nothing to say are passed over. -/
theorem passOver_filter (records : List WireRecord) (target : Option Bytes) :
    passOver question current records target =
      passOver question current (records.filter (WireRecord.offers question current)) target := by
  induction records generalizing target with
  | nil => rfl
  | cons record rest hypothesis =>
    by_cases offers : record.offers question current = true
    · rw [filter_cons_of_pos offers]
      unfold passOver
      simp only [hypothesis]
    · rw [filter_cons_of_neg offers, ← hypothesis]
      conv_lhs => unfold passOver
      split
      · rename_i concerns
        have nothing : record.finding question = .nothing := by
          unfold WireRecord.offers at offers
          rw [decide_eq_true concerns, Bool.true_and] at offers
          rcases found : record.finding question with - | address | text
          · rfl
          · rw [found] at offers
            exact absurd rfl offers
          · rw [found] at offers
            exact absurd rfl offers
        rw [nothing]
      · rfl

/-- At most one record has something to say about a name. -/
theorem filter_offers (wellFormed : ∀ record ∈ records, record.WellFormed question)
    (unique : OneAnswerEach question records) :
    records.filter (WireRecord.offers question current) = [] ∨
      ∃ record, records.filter (WireRecord.offers question current) = [record] := by
  have apart : (records.filter (WireRecord.offers question current)).Pairwise fun _ _ => False := by
    refine (unique.filter (WireRecord.offers question current)).imp_of_mem
      fun {first second} member other differ => ?_
    obtain ⟨firstMember, firstOffers⟩ := mem_filter.mp member
    obtain ⟨secondMember, secondOffers⟩ := mem_filter.mp other
    have differs := differ (offers_resolves (wellFormed first firstMember) firstOffers)
      (offers_resolves (wellFormed second secondMember) secondOffers)
    exact Bool.eq_false_iff.mp differs (equalName_trans (offers_concerns firstOffers).2
      (equalName_symm (offers_concerns secondOffers).2))
  rcases found : records.filter (WireRecord.offers question current) with
    - | ⟨record, _ | ⟨other, rest⟩⟩
  · exact .inl rfl
  · exact .inr ⟨record, rfl⟩
  · rw [found] at apart
    exact False.elim ((pairwise_cons.mp apart).1 other mem_cons_self)

/-- A pass finds the same in every order. -/
theorem passOver_perm (wellFormed : ∀ record ∈ records, record.WellFormed question)
    (unique : OneAnswerEach question records) (permuted : records.Perm others)
    (target : Option Bytes) :
    passOver question current records target = passOver question current others target := by
  rw [passOver_filter records, passOver_filter others]
  have same := permuted.filter (WireRecord.offers question current)
  rcases filter_offers wellFormed unique with empty | ⟨record, single⟩
  · rw [empty] at same ⊢
    rw [same.nil_eq]
  · rw [single] at same ⊢
    rw [perm_singleton.mp same.symm]

end Ordering

/-! ### Parsing a response -/

/-- Where the fields of a response stand. -/
structure Response.StandsIn (response : Response) (records : List WireRecord) (message : Bytes) :
    Prop where
  transactionId : readNetwork16 message 0 = .ok response.transactionId.toNat
  flags : readNetwork16 message 2 = .ok response.flags.toNat
  questions : readNetwork16 message 4 = .ok 1
  answers : readNetwork16 message 6 = .ok records.length
  long : headerBytes ≤ message.length
  asks : Asks message response.question
  tail : response.answersOffset ≤ message.length
  questionType : readNetwork16 message (headerBytes + (encodeLabels response.question ++ [0]).length) =
    .ok response.questionType.toNat
  questionClass : readNetwork16 message
      (headerBytes + (encodeLabels response.question ++ [0]).length + 2) =
    .ok response.questionClass.toNat
  records : Stands message response.answersOffset
    (records.flatMap (WireRecord.bytes response.question))

theorem stands_self (message : Bytes) : Stands message 0 message := prefix_rfl

theorem Response.standsIn (response : Response) (few : records.length < 2 ^ 16) :
    response.StandsIn records (response.bytes records) := by
  obtain ⟨transactionId, rest⟩ := stands_append.mp (stands_self (response.bytes records))
  obtain ⟨flags, rest⟩ := stands_append.mp rest
  obtain ⟨questions, rest⟩ := stands_append.mp rest
  obtain ⟨answers, rest⟩ := stands_append.mp rest
  obtain ⟨authority, rest⟩ := stands_append.mp rest
  obtain ⟨additional, rest⟩ := stands_append.mp rest
  obtain ⟨asks, rest⟩ := stands_append.mp rest
  obtain ⟨questionType, rest⟩ := stands_append.mp rest
  obtain ⟨questionClass, rest⟩ := stands_append.mp rest
  have long := additional.inside (cons_ne_nil _ _)
  have tail := questionClass.inside (cons_ne_nil _ _)
  exact
    { transactionId := transactionId.read16 response.transactionId.toNat_lt
      flags := flags.read16 response.flags.toNat_lt
      questions := questions.read16 (by decide)
      answers := answers.read16 few
      long
      asks
      tail
      questionType := questionType.read16 response.questionType.toNat_lt
      questionClass := questionClass.read16 response.questionClass.toNat_lt
      records := (stands_append.mp rest).1 }

variable {message : Bytes}

/-- The question is read behind the header. -/
theorem Asks.name {question : List Bytes} (asks : Asks message question)
    (valid : DomainName question) : ∃ jumps, jumps ≤ maximumCompressionJumps ∧
      NameAt message headerBytes jumps question
        (headerBytes + (encodeLabels question ++ [0]).length) := by
  obtain ⟨jumps, few, found⟩ := @nameAt_wire message question asks valid headerBytes
    ⟨question, none⟩ valid.wire asks
  have meaning : WireName.meaning question ⟨question, none⟩ = question := append_nil question
  rw [meaning] at found
  exact ⟨jumps, few.trans (by decide), found⟩

variable {response : Response}

/-- The parser goes through the header and the question to the answers. -/
theorem Response.StandsIn.parse (stands : response.StandsIn records message)
    (valid : DomainName response.question) (transactionId : UInt16) (name : Bytes) :
    parseAOutcome message transactionId name =
      if encodedNameLength name = none then .error .refused
      else if response.transactionId.toNat ≠ transactionId.toNat then .error .refused
      else if flagsAccepted response.flags.toNat = false then .error .refused
      else if response.question = [] then .error .refused
      else if equalName (joinLabels response.question) name = false then .error .refused
      else if response.questionType.toNat ≠ typeA ∨
        response.questionClass.toNat ≠ classInternet then .error .refused
      else parseAnswers message name response.flags.toNat records.length response.answersOffset := by
  refine congrArg (ite _ _) ?_
  rw [if_neg (Nat.not_lt.mpr stands.long), stands.transactionId, ok_bind]
  refine congrArg (ite _ _) ?_
  rw [stands.flags, ok_bind]
  refine congrArg (ite _ _) ?_
  rw [stands.questions, ok_bind, stands.answers, ok_bind,
    if_neg (not_not.mpr rfl)]
  obtain ⟨jumps, few, name⟩ := stands.asks.name valid
  unfold parseQuestion
  by_cases root : response.question = []
  · rw [if_pos root]
    have refused : decodeName message headerBytes = .error .refused :=
      decodeName_root (root ▸ name)
    rw [refused]
    rfl
  · rw [if_neg root, decodeName_complete name root few valid.short, ok_bind]
    refine congrArg (ite _ _) ?_
    have tail := stands.tail
    unfold Response.answersOffset at tail
    rw [if_neg (Nat.not_lt.mpr tail), stands.questionType, ok_bind,
      stands.questionClass, ok_bind]
    rfl

/-- Passes that find the same make the parser answer the same. -/
theorem aliasLoop_congr {other : Bytes} {flags count fuel aliasHops : Nat} {visited : List Bytes}
    (same : ∀ current, answerPass message current count offset none =
      answerPass other current count offset none) :
    aliasLoop message flags offset count fuel current visited aliasHops =
      aliasLoop other flags offset count fuel current visited aliasHops := by
  induction fuel generalizing current visited aliasHops with
  | zero => rfl
  | succ fuel hypothesis =>
    unfold aliasLoop
    simp only [same, hypothesis]

/-- The parser answers the same in every order of the records. -/
theorem parse_perm (valid : DomainName response.question)
    (wellFormed : ∀ record ∈ records, record.WellFormed response.question)
    (named : ∀ record ∈ records, record.owner.meaning response.question ≠ [])
    (unique : OneAnswerEach response.question records) (few : records.length < 2 ^ 16)
    (permuted : records.Perm others) (transactionId : UInt16) (name : Bytes) :
    parseAOutcome (response.bytes records) transactionId name =
      parseAOutcome (response.bytes others) transactionId name := by
  have stands := response.standsIn few
  have otherStands := response.standsIn (permuted.length_eq ▸ few)
  have passes (current : Bytes) :
      answerPass (response.bytes records) current records.length response.answersOffset none =
        answerPass (response.bytes others) current records.length response.answersOffset none := by
    rw [answerPass_wire stands.asks valid wellFormed named stands.records, permuted.length_eq,
      answerPass_wire otherStands.asks valid
        (fun record member => wellFormed record (permuted.mem_iff.mpr member))
        (fun record member => named record (permuted.mem_iff.mpr member)) otherStands.records]
    exact passOver_perm wellFormed unique permuted none
  rw [stands.parse valid, otherStands.parse valid]
  unfold parseAnswers
  rw [aliasLoop_congr passes, permuted.length_eq]

/-! ### Reading built responses -/

variable {length : Nat}

theorem encodedNameLength_some {name : Bytes} (encoded : encodedNameLength name = some length) :
    name ≠ [] ∧ name.length ≤ maximumNameBytes ∧ (∀ label ∈ name.splitOn dot, validLabel label = true) ∧
      length = (encodeName name).length := by
  unfold encodedNameLength at encoded
  split at encoded
  · cases encoded
  rename_i allowed
  split at encoded
  · rename_i valid
    cases encoded
    refine ⟨fun empty => allowed (.inl empty),
      Nat.le_of_not_lt fun long => allowed (.inr (.inl long)), all_eq_true.mp valid, ?_⟩
    unfold encodeName
    rw [length_append, length_singleton, Nat.add_comm]
    refine congrArg (· + 1) ?_
    unfold encodeLabels
    rw [length_flatMap]
    refine congrArg List.sum (map_congr_left fun label _ => ?_)
    exact Nat.add_comm 1 label.length
  · cases encoded

theorem validLabel_wire {label : Bytes} (valid : validLabel label = true) : WireLabel label := by
  unfold validLabel at valid
  simp only [Bool.and_eq_true, bne_iff_ne, decide_eq_true_eq] at valid
  exact ⟨valid.1.1.1.1, valid.1.1.1.2⟩

/-- A name that can be asked for is a domain name. -/
theorem domainName_of_encoded {name : Bytes}
    (encoded : encodedNameLength name = some length) : DomainName (name.splitOn dot) := by
  obtain ⟨-, short, valid, -⟩ := encodedNameLength_some encoded
  refine ⟨fun label member => validLabel_wire (valid label member), ?_⟩
  rwa [joinLabels, intercalate_splitOn]

/-- The response that is built for a name, without its answers. -/
def builtResponse (transactionId flags : UInt16) (name : Bytes) : Response where
  transactionId
  flags
  question := name.splitOn dot
  questionType := 1
  questionClass := 1
  authorityCount := 0
  additionalCount := 0
  rest := []

/-- An address for the question. -/
def questionAddress (owner : WireName) (address : Address) (ttl : UInt32) : WireRecord where
  owner
  recordType := 1
  recordClass := 1
  ttl
  data := .raw address.bytes

/-- An alias of the question. -/
def questionAlias (canonicalName : Bytes) (ttl : UInt32) : WireRecord where
  owner := ⟨[], some 0⟩
  recordType := 5
  recordClass := 1
  ttl
  data := .name ⟨canonicalName.splitOn dot, none⟩

theorem builtResponse_bytes (transactionId flags : UInt16) (name : Bytes) (records : List WireRecord) :
    (builtResponse transactionId flags name).bytes records =
      header transactionId flags.toNat 1 records.length ++ question name ++
        records.flatMap (WireRecord.bytes (name.splitOn dot)) := by
  unfold Response.bytes builtResponse header question encodeName
  simp only [append_assoc, append_nil]
  rfl

variable {transactionId : UInt16}

section Built

variable {name : Bytes} {length : Nat} (encoded : encodedNameLength name = some length)
include encoded

/-- A built response reaches its answers. -/
theorem parse_built {flags : UInt16} (few : records.length < 2 ^ 16)
    (accepted : flagsAccepted flags.toNat = true) :
    parseAOutcome ((builtResponse transactionId flags name).bytes records) transactionId name =
      parseAnswers ((builtResponse transactionId flags name).bytes records) name flags.toNat
        records.length (builtResponse transactionId flags name).answersOffset := by
  have valid := domainName_of_encoded encoded
  have stands := (builtResponse transactionId flags name).standsIn few
  have same : equalName (joinLabels (name.splitOn dot)) name = true := by
    rw [joinLabels, intercalate_splitOn]
    exact equalName_refl name
  rw [stands.parse valid, if_neg (encoded ▸ Option.some_ne_none length)]
  refine (if_neg (not_not.mpr rfl)).trans ?_
  refine (if_neg (Bool.not_eq_false _ ▸ accepted)).trans ?_
  refine (if_neg (splitOn_ne_nil dot name)).trans ?_
  refine (if_neg (Bool.not_eq_false _ ▸ same)).trans ?_
  exact if_neg (show ¬((1 : UInt16).toNat ≠ typeA ∨ (1 : UInt16).toNat ≠ classInternet) by decide)

/-- A pass over the answers of a built response. -/
theorem answerPass_built {transactionId flags : UInt16} {records : List WireRecord}
    (few : records.length < 2 ^ 16)
    (wellFormed : ∀ record ∈ records, record.WellFormed (name.splitOn dot))
    (named : ∀ record ∈ records, record.owner.meaning (name.splitOn dot) ≠ []) (current : Bytes) :
    answerPass ((builtResponse transactionId flags name).bytes records) current records.length
        (builtResponse transactionId flags name).answersOffset none =
      passOver (name.splitOn dot) current records none :=
  have stands := (builtResponse transactionId flags name).standsIn few
  answerPass_wire stands.asks (domainName_of_encoded encoded) wellFormed named stands.records

omit encoded in
theorem questionAddress_wellFormed {question : List Bytes} {owner : WireName}
    (named : DomainName (owner.meaning question)) (address : Address) (ttl : UInt32) :
    (questionAddress owner address ttl).WellFormed question where
  owner := named
  data := by
    refine ⟨?_, fun _ => ⟨?_, fun _ => rfl⟩⟩
    · show 4 < 2 ^ 16
      decide
    · show (1 : UInt16).toNat ≠ typeCname
      decide

omit encoded in

omit encoded in
theorem meaning_written (question : List Bytes) (name : Bytes) :
    (⟨name.splitOn dot, none⟩ : WireName).meaning question = name.splitOn dot :=
  append_nil _

end Built

variable {capacity : Nat}

theorem buildAQuery_some {name query : Bytes}
    (built : buildAQuery capacity transactionId name = some query) :
    ∃ length, encodedNameLength name = some length := by
  obtain ⟨length, encoded, -⟩ := Option.bind_eq_some_iff.mp built
  exact ⟨length, encoded⟩

/-- The address record that answers the question itself. -/
theorem questionAddress_bytes (question : List Bytes) (address : Address) (ttl : UInt32) :
    (questionAddress ⟨[], some 0⟩ address ttl).bytes question =
      questionPointer ++ recordFixed typeA classInternet ttl.toNat 4 ++ address.bytes :=
  (append_assoc ..).symm

variable {address : Address} {ttl : UInt32}

/-- What is built for a name and an address is read back. -/
theorem parse_buildAResponse {name : Bytes}
    (built : buildAResponse capacity transactionId name address ttl = some message) :
    parseAOutcome message transactionId name = .ok (.answer
      { address
        ttl := ttl.toNat
        authoritative := true
        recursionAvailable := true
        aliasHops := 0 }) := by
  obtain ⟨query, queried, built⟩ := Option.bind_eq_some_iff.mp built
  obtain ⟨length, encoded⟩ := buildAQuery_some queried
  split at built
  · cases built
  have same : message = (builtResponse transactionId 0x8580 name).bytes
      [questionAddress ⟨[], some 0⟩ address ttl] := by
    rw [builtResponse_bytes, flatMap_singleton, questionAddress_bytes]
    exact (Option.some.inj built).symm
  have valid := domainName_of_encoded encoded
  have wellFormed : ∀ record ∈ [questionAddress ⟨[], some 0⟩ address ttl],
      record.WellFormed (name.splitOn dot) := fun record member => by
    rw [mem_singleton.mp member]
    exact @questionAddress_wellFormed (name.splitOn dot) ⟨[], some 0⟩ valid address ttl
  have named : ∀ record ∈ [questionAddress ⟨[], some 0⟩ address ttl],
      record.owner.meaning (name.splitOn dot) ≠ [] := fun record member =>
    mem_singleton.mp member ▸ splitOn_ne_nil dot name
  have concerns : (questionAddress ⟨[], some 0⟩ address ttl).Concerns (name.splitOn dot) name := by
    refine ⟨rfl, ?_⟩
    show equalName ([dot].intercalate (name.splitOn dot)) name = true
    rw [intercalate_splitOn]
    exact equalName_refl name
  have few : [questionAddress ⟨[], some 0⟩ address ttl].length < 2 ^ 16 :=
    show 1 < 2 ^ 16 by decide
  rw [same, parse_built encoded few (by decide)]
  refine (if_neg (by decide)).trans ((if_neg Nat.one_ne_zero).trans ?_)
  unfold aliasLoop
  rw [answerPass_built encoded few wellFormed named]
  unfold passOver
  rw [if_pos concerns]
  rfl

/-- A name error that is built is read back. -/
theorem parse_buildNameErrorResponse {name : Bytes}
    (built : buildNameErrorResponse capacity transactionId name = some message) :
    parseAOutcome message transactionId name = .ok .nameError := by
  obtain ⟨query, queried, built⟩ := Option.bind_eq_some_iff.mp built
  obtain ⟨length, encoded⟩ := buildAQuery_some queried
  have same : message = (builtResponse transactionId 0x8583 name).bytes [] := by
    rw [builtResponse_bytes, flatMap_nil, append_nil]
    exact (Option.some.inj built).symm
  rw [same, parse_built encoded (by decide) (by decide)]
  rfl

variable {canonicalName : Bytes}

theorem buildCname_bytes {canonicalLength : Nat}
    (encoded : encodedNameLength canonicalName = some canonicalLength) (question : List Bytes)
    (address : Address) (ttl : UInt32) : [questionAlias canonicalName ttl,
      questionAddress ⟨canonicalName.splitOn dot, none⟩ address ttl].flatMap
        (WireRecord.bytes question) =
      (questionPointer ++ recordFixed typeCname classInternet ttl.toNat canonicalLength ++
        encodeName canonicalName) ++
      (encodeName canonicalName ++ recordFixed typeA classInternet ttl.toNat 4 ++ address.bytes) := by
  obtain ⟨-, -, -, rfl⟩ := encodedNameLength_some encoded
  rw [flatMap_cons, flatMap_singleton]
  simp only [append_assoc]
  rfl

/-- What is built for an alias is read back, unless the alias is the name itself. -/
theorem parse_buildCnameAResponse {aliasName : Bytes}
    (differ : equalName aliasName canonicalName = false)
    (built : buildCnameAResponse capacity transactionId aliasName canonicalName address ttl =
      some message) : parseAOutcome message transactionId aliasName = .ok (.answer
      { address
        ttl := ttl.toNat
        authoritative := true
        recursionAvailable := true
        aliasHops := 1 }) := by
  obtain ⟨canonicalLength, canonical, built⟩ := Option.bind_eq_some_iff.mp built
  obtain ⟨query, queried, built⟩ := Option.bind_eq_some_iff.mp built
  obtain ⟨length, encoded⟩ := buildAQuery_some queried
  split at built
  · cases built
  have same : message = (builtResponse transactionId 0x8580 aliasName).bytes
      [questionAlias canonicalName ttl,
        questionAddress ⟨canonicalName.splitOn dot, none⟩ address ttl] := by
    rw [builtResponse_bytes, buildCname_bytes canonical]
    refine (Option.some.inj built).symm.trans ?_
    simp only [append_assoc]
    rfl
  have valid := domainName_of_encoded encoded
  have written := meaning_written (aliasName.splitOn dot) canonicalName
  have canonicalNamed : DomainName ((⟨canonicalName.splitOn dot, none⟩ : WireName).meaning
      (aliasName.splitOn dot)) := written.symm ▸ domainName_of_encoded canonical
  have canonicalOwned : (⟨canonicalName.splitOn dot, none⟩ : WireName).meaning
      (aliasName.splitOn dot) ≠ [] := written.symm ▸ splitOn_ne_nil dot canonicalName
  have aliasText : joinLabels (aliasName.splitOn dot) = aliasName :=
    intercalate_splitOn dot
  have canonicalText : joinLabels ((⟨canonicalName.splitOn dot, none⟩ : WireName).meaning
      (aliasName.splitOn dot)) = canonicalName := by
    rw [written]
    exact intercalate_splitOn dot
  generalize first_def : questionAlias canonicalName ttl = first at same
  generalize second_def : questionAddress ⟨canonicalName.splitOn dot, none⟩ address ttl = second
    at same
  have wellFormed : ∀ record ∈ [first, second], record.WellFormed (aliasName.splitOn dot) := by
    rw [forall_mem_cons, forall_mem_singleton, ← first_def, ← second_def]
    exact ⟨⟨valid, rfl, canonicalNamed⟩, questionAddress_wellFormed canonicalNamed address ttl⟩
  have named : ∀ record ∈ [first, second],
      record.owner.meaning (aliasName.splitOn dot) ≠ [] := by
    rw [forall_mem_cons, forall_mem_singleton, ← first_def, ← second_def]
    exact ⟨splitOn_ne_nil dot aliasName, canonicalOwned⟩
  have firstConcerns (current : Bytes) : first.Concerns (aliasName.splitOn dot) current ↔
      equalName aliasName current = true := by
    rw [← first_def]
    show _ ∧ equalName (joinLabels (aliasName.splitOn dot)) current = true ↔ _
    rw [aliasText]
    exact and_iff_right rfl
  have secondConcerns (current : Bytes) : second.Concerns (aliasName.splitOn dot) current ↔
      equalName canonicalName current = true := by
    rw [← second_def]
    show _ ∧ equalName (joinLabels ((⟨canonicalName.splitOn dot, none⟩ : WireName).meaning
      (aliasName.splitOn dot))) current = true ↔ _
    rw [canonicalText]
    exact and_iff_right rfl
  have firstFinding : first.finding (aliasName.splitOn dot) = .target canonicalName := by
    rw [← first_def]
    refine (@finding_name _ (questionAlias canonicalName ttl) ⟨canonicalName.splitOn dot, none⟩
      rfl).trans ?_
    rw [canonicalText]
  have secondFinding : second.finding (aliasName.splitOn dot) = .address address := by
    rw [← second_def]
    exact @finding_address _
      (questionAddress ⟨canonicalName.splitOn dot, none⟩ address ttl) _ _ _ _ rfl rfl
  have differs : equalName canonicalName aliasName = false :=
    Bool.eq_false_iff.mpr fun equal => Bool.eq_false_iff.mp differ (equalName_symm equal)
  have few : [first, second].length < 2 ^ 16 := show 2 < 2 ^ 16 by decide
  -- the pass for the asked name finds the alias and goes past the address
  have firstPass : passOver (aliasName.splitOn dot) aliasName [first, second] none =
      .ok (.finish (some canonicalName)) := by
    unfold passOver
    rw [if_pos ((firstConcerns aliasName).mpr (equalName_refl aliasName)), firstFinding]
    refine (if_neg Bool.false_ne_true).trans ?_
    refine (if_neg (canonical ▸ Option.some_ne_none canonicalLength)).trans ?_
    exact if_neg fun concerns =>
      Bool.eq_false_iff.mp differs ((secondConcerns aliasName).mp concerns)
  -- the pass for its target goes past the alias and finds the address
  have secondPass : passOver (aliasName.splitOn dot) canonicalName [first, second] none =
      .ok (.answer address second.ttl.toNat) := by
    refine (if_neg fun concerns =>
      Bool.eq_false_iff.mp differ ((firstConcerns canonicalName).mp concerns)).trans ?_
    unfold passOver
    rw [if_pos ((secondConcerns canonicalName).mpr (equalName_refl canonicalName)), secondFinding]
  rw [same, parse_built encoded few (by decide)]
  refine (if_neg (by decide)).trans ((if_neg (Nat.succ_ne_zero 1)).trans ?_)
  have passes (current : Bytes) := @answerPass_built _ _ encoded transactionId 0x8580 _ few
    wellFormed named current
  have unseen : ¬[aliasName].any (equalName canonicalName) = true := by
    rw [any_cons, differs]
    exact Bool.false_ne_true
  unfold aliasLoop
  rw [passes, firstPass]
  refine (if_neg unseen).trans ?_
  unfold aliasLoop
  rw [passes, secondPass, ← second_def]
  rfl

/-- The order of the answers does not matter, and what is built is read back. -/
theorem resolution_ordered :
    (∀ (response : Response) (records others : List WireRecord) (transactionId : UInt16)
      (name : Bytes), DomainName response.question →
      (∀ record ∈ records, record.WellFormed response.question) →
      (∀ record ∈ records, record.owner.meaning response.question ≠ []) →
      OneAnswerEach response.question records → records.length < 2 ^ 16 → records.Perm others →
      parseAOutcome (response.bytes records) transactionId name =
        parseAOutcome (response.bytes others) transactionId name) ∧
    (∀ (capacity : Nat) (transactionId : UInt16) (name message : Bytes) (address : Address)
      (ttl : UInt32), buildAResponse capacity transactionId name address ttl = some message →
      parseAOutcome message transactionId name = .ok (.answer
        { address
          ttl := ttl.toNat
          authoritative := true
          recursionAvailable := true
          aliasHops := 0 })) ∧
    (∀ (capacity : Nat) (transactionId : UInt16) (name message : Bytes),
      buildNameErrorResponse capacity transactionId name = some message →
      parseAOutcome message transactionId name = .ok .nameError) ∧
    (∀ (capacity : Nat) (transactionId : UInt16) (aliasName canonicalName message : Bytes)
      (address : Address) (ttl : UInt32), equalName aliasName canonicalName = false →
      buildCnameAResponse capacity transactionId aliasName canonicalName address ttl =
        some message →
      parseAOutcome message transactionId aliasName = .ok (.answer
        { address
          ttl := ttl.toNat
          authoritative := true
          recursionAvailable := true
          aliasHops := 1 })) :=
  ⟨fun _ _ _ transactionId name valid wellFormed named unique few permuted =>
      parse_perm valid wellFormed named unique few permuted transactionId name,
    fun _ _ _ _ _ _ built => parse_buildAResponse built,
    fun _ _ _ _ built => parse_buildNameErrorResponse built,
    fun _ _ _ _ _ _ _ differ built => parse_buildCnameAResponse differ built⟩

/-- Records of two owners may change places, and what is built for two names is read back. -/
theorem twoOwners_ordered :
    (parseAOutcome ((builtResponse 7 0x8180 [0x61]).bytes
        [questionAddress ⟨[], some 0⟩ ⟨192, 0, 2, 42⟩ 300,
          questionAddress ⟨[[0x62]], none⟩ ⟨192, 0, 2, 43⟩ 300]) 7 [0x61] =
      parseAOutcome ((builtResponse 7 0x8180 [0x61]).bytes
        [questionAddress ⟨[[0x62]], none⟩ ⟨192, 0, 2, 43⟩ 300,
          questionAddress ⟨[], some 0⟩ ⟨192, 0, 2, 42⟩ 300]) 7 [0x61]) ∧
    (∃ message, buildAResponse 512 7 [0x61] ⟨192, 0, 2, 42⟩ 300 = some message ∧
      parseAOutcome message 7 [0x61] = .ok (.answer
        { address := ⟨192, 0, 2, 42⟩
          ttl := 300
          authoritative := true
          recursionAvailable := true
          aliasHops := 0 })) ∧
    (∃ message, buildNameErrorResponse 512 7 [0x61] = some message ∧
      parseAOutcome message 7 [0x61] = .ok .nameError) ∧
    ∃ message, buildCnameAResponse 512 7 [0x61] [0x62] ⟨192, 0, 2, 42⟩ 300 = some message ∧
      parseAOutcome message 7 [0x61] = .ok (.answer
        { address := ⟨192, 0, 2, 42⟩
          ttl := 300
          authoritative := true
          recursionAvailable := true
          aliasHops := 1 }) := by
  obtain ⟨ordered, address, nameError, alias'⟩ := resolution_ordered
  have asked : DomainName [[0x61]] := ⟨by unfold WireLabel; decide, by decide⟩
  have other : DomainName [[0x62]] := ⟨by unfold WireLabel; decide, by decide⟩
  refine ⟨ordered _ _ _ 7 [0x61] asked ?_ ?_ ?_ (by decide) (.swap _ _ _),
    ⟨_, rfl, address 512 7 [0x61] _ ⟨192, 0, 2, 42⟩ 300 rfl⟩, ⟨_, rfl, nameError 512 7 _ _ rfl⟩,
    _, rfl, alias' 512 7 [0x61] [0x62] _ ⟨192, 0, 2, 42⟩ 300 (by decide) rfl⟩
  · rw [forall_mem_cons, forall_mem_singleton]
    exact ⟨@questionAddress_wellFormed [[0x61]] ⟨[], some 0⟩ asked _ _,
      @questionAddress_wellFormed [[0x61]] ⟨[[0x62]], none⟩ other _ _⟩
  · rw [forall_mem_cons, forall_mem_singleton]
    exact ⟨cons_ne_nil _ _, cons_ne_nil _ _⟩
  · refine pairwise_pair.mpr fun _ _ => ?_
    decide

/-- Two well-formed records of different owners that are read differently when they change
places. -/
def OrderMatters (response : Response) (first second : WireRecord) : Prop :=
  DomainName response.question ∧ first.WellFormed response.question ∧
    second.WellFormed response.question ∧
    first.owner.meaning response.question ≠ second.owner.meaning response.question ∧
    ∃ (transactionId : UInt16) (name : Bytes),
      parseAOutcome (response.bytes [first, second]) transactionId name ≠
        parseAOutcome (response.bytes [second, first]) transactionId name

/-- A record of the root that holds nothing. -/
def rootRecord : WireRecord where
  owner := ⟨[], none⟩
  recordType := 16
  recordClass := 1
  ttl := 300
  data := .raw []

/-- A record of the root is refused only where it comes before the answer, a label with a dot is
taken for two labels, and an alias of itself is no hop. -/
theorem order_matters :
    OrderMatters (builtResponse 7 0x8180 [0x61]) (questionAddress ⟨[], some 0⟩ ⟨192, 0, 2, 42⟩ 300)
      rootRecord ∧
    OrderMatters (builtResponse 7 0x8180 [0x61, 0x2E, 0x62])
      (questionAddress ⟨[], some 0⟩ ⟨192, 0, 2, 42⟩ 300)
      (questionAddress ⟨[[0x61, 0x2E, 0x62]], none⟩ ⟨192, 0, 2, 43⟩ 300) ∧
    (buildCnameAResponse 512 7 [0x61] [0x61] ⟨192, 0, 2, 42⟩ 300).map
        (fun message => parseAOutcome message 7 [0x61]) =
      some (.ok (.answer
        { address := ⟨192, 0, 2, 42⟩
          ttl := 300
          authoritative := true
          recursionAvailable := true
          aliasHops := 0 })) := by
  have single : DomainName [[0x61]] := ⟨by unfold WireLabel; decide, by decide⟩
  have double : DomainName [[0x61], [0x62]] := ⟨by unfold WireLabel; decide, by decide⟩
  have dotted : DomainName [[0x61, 0x2E, 0x62]] := ⟨by unfold WireLabel; decide, by decide⟩
  have root : DomainName [] := ⟨fun _ member => absurd member not_mem_nil, Nat.zero_le _⟩
  have first : (questionAddress ⟨[], some 0⟩ ⟨192, 0, 2, 42⟩ 300).WellFormed [[0x61]] :=
    @questionAddress_wellFormed [[0x61]] ⟨[], some 0⟩ single _ _
  have second : (questionAddress ⟨[], some 0⟩ ⟨192, 0, 2, 42⟩ 300).WellFormed [[0x61], [0x62]] :=
    @questionAddress_wellFormed [[0x61], [0x62]] ⟨[], some 0⟩ double _ _
  have third : (questionAddress ⟨[[0x61, 0x2E, 0x62]], none⟩ ⟨192, 0, 2, 43⟩ 300).WellFormed
      [[0x61], [0x62]] :=
    @questionAddress_wellFormed [[0x61], [0x62]] ⟨[[0x61, 0x2E, 0x62]], none⟩ dotted _ _
  have empty : rootRecord.WellFormed [[0x61]] :=
    ⟨root, by decide, fun _ => ⟨by decide, fun address => absurd address (by decide)⟩⟩
  exact ⟨⟨single, first, empty, cons_ne_nil _ _, 7, [0x61], by decide +kernel⟩,
    ⟨double, second, third, by decide, 7, [0x61, 0x2E, 0x62], by decide +kernel⟩,
    by decide +kernel⟩

end ZigOs.Dns
