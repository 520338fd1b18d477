/-
This file proves that an answer belongs to the question when no label carries a dot. The
parser compares names as text, and the text of one label with a dot is that of two labels.
Where the names the comparisons meet are free of dots inside their labels, the question
has the labels of the expected name, and the address is that of a record the aliases lead
to. Whatever the message, the parser ends and reads nothing outside of it.
-/

import ZigOs.Dns.Decoding

namespace ZigOs.Dns

open List Except

variable {offset remaining flags fuel aliasHops : Nat} {head : RecordHead} {current name : Bytes}
  {target : Option Bytes} {visited : List Bytes} {transactionId : UInt16}

/-! ### The parser ends inside the message -/

section Settling

variable {message : Bytes}

theorem readRecord_settles : Settles (readRecord message offset) := by
  refine settles_bind decodeName_settles fun owner _ => ?_
  refine settles_ite (fun _ => settles_refused) fun small => ?_
  have room : owner.nextOffset + 10 ≤ message.length := Nat.le_of_not_lt small
  refine settles_bind (readNetwork16_settles (by omega)) fun _ _ => ?_
  refine settles_bind (readNetwork16_settles (by omega)) fun _ _ => ?_
  refine settles_bind (readNetwork32_settles (by omega)) fun _ _ => ?_
  refine settles_bind (readNetwork16_settles (by omega)) fun _ _ => ?_
  exact settles_ite (fun _ => settles_refused) fun _ => settles_ok _

/-- The data of a record is inside the message. -/
theorem readRecord_inside
    (read : readRecord message offset = .ok head) : head.dataEnd ≤ message.length := by
  obtain ⟨owner, -, read⟩ := of_bind_ok read
  dsimp only at read
  split at read
  · cases read
  obtain ⟨_, -, read⟩ := of_bind_ok read
  obtain ⟨_, -, read⟩ := of_bind_ok read
  obtain ⟨_, -, read⟩ := of_bind_ok read
  obtain ⟨_, -, read⟩ := of_bind_ok read
  split at read
  · cases read
  · cases read
    exact Nat.le_of_not_lt ‹_›

theorem readTarget_settles : Settles (readTarget message head) := by
  refine settles_bind decodeName_settles fun decoded _ => ?_
  refine settles_ite (fun _ => settles_refused) fun _ => ?_
  exact settles_ite (fun _ => settles_refused) fun _ => settles_ok _

theorem answerPass_settles : Settles (answerPass message current remaining offset target) := by
  induction remaining generalizing offset target with
  | zero => exact settles_ok _
  | succ remaining hypothesis =>
    refine settles_bind readRecord_settles fun head read => ?_
    refine settles_ite (fun _ => ?_) fun _ => hypothesis
    refine settles_ite (fun address => ?_) fun _ => ?_
    · have inside := readRecord_inside read
      unfold RecordHead.dataEnd at inside
      exact settles_bind (readAddress_settles (by omega)) fun _ _ => settles_ok _
    · refine settles_ite (fun _ => ?_) fun _ => hypothesis
      exact settles_bind readTarget_settles fun _ _ => hypothesis

/-- There are more passes than aliases that may be followed. -/
theorem aliasLoop_settles {answersOffset answerCount : Nat} (few : aliasHops ≤ maximumAliasHops)
    (fueled : maximumAliasHops < fuel + aliasHops) :
    Settles (aliasLoop message flags answersOffset answerCount fuel current visited aliasHops) := by
  induction fuel generalizing current visited aliasHops with
  | zero => omega
  | succ fuel hypothesis =>
    refine settles_bind answerPass_settles fun pass _ => ?_
    rcases pass with ⟨address, ttl⟩ | _ | target
    · exact settles_ok _
    · exact settles_refused
    · refine settles_ite (fun _ => settles_refused) fun more => ?_
      exact settles_ite (fun _ => settles_refused) fun _ =>
        hypothesis (Nat.lt_of_not_le more) (by omega)

theorem parseAOutcome_settles : Settles (parseAOutcome message transactionId name) := by
  refine settles_ite (fun _ => settles_refused) fun _ => ?_
  refine settles_ite (fun _ => settles_refused) fun long => ?_
  have room : 12 ≤ message.length := Nat.le_of_not_lt long
  refine settles_bind (readNetwork16_settles (by omega)) fun _ _ => ?_
  refine settles_ite (fun _ => settles_refused) fun _ => ?_
  refine settles_bind (readNetwork16_settles (by omega)) fun flags _ => ?_
  refine settles_ite (fun _ => settles_refused) fun _ => ?_
  refine settles_bind (readNetwork16_settles (by omega)) fun _ _ => ?_
  refine settles_bind (readNetwork16_settles (by omega)) fun answerCount _ => ?_
  refine settles_ite (fun _ => settles_refused) fun _ => ?_
  refine settles_bind decodeName_settles fun questionName _ => ?_
  refine settles_ite (fun _ => settles_refused) fun _ => ?_
  refine settles_ite (fun _ => settles_refused) fun small => ?_
  have tail : questionName.nextOffset + 4 ≤ message.length := Nat.le_of_not_lt small
  refine settles_bind (readNetwork16_settles (by omega)) fun _ _ => ?_
  refine settles_bind (readNetwork16_settles (by omega)) fun _ _ => ?_
  refine settles_ite (fun _ => settles_refused) fun _ => ?_
  refine settles_ite (fun _ => settles_ite (fun _ => settles_refused) fun _ => settles_ok _)
    fun _ => ?_
  exact settles_ite (fun _ => settles_refused) fun _ => 
    aliasLoop_settles (by decide) (by decide)

end Settling

/-! ### Labels and their text -/

/-- No label carries a dot. -/
def DotFree (labels : List Bytes) : Prop := ∀ label ∈ labels, dot ∉ label

/-- The labels are the same up to the case of ASCII letters. -/
def SameLabels (first second : List Bytes) : Prop :=
  first.map (·.map asciiLower) = second.map (·.map asciiLower)

instance (labels : List Bytes) : Decidable (DotFree labels) :=
  inferInstanceAs (Decidable (∀ label ∈ labels, _))

instance (first second : List Bytes) : Decidable (SameLabels first second) :=
  inferInstanceAs (Decidable (_ = _))

theorem asciiLower_eq_dot : ∀ {byte : UInt8}, asciiLower byte = dot → byte = dot := by
  have bytes : ∀ value : Fin 256, asciiLower (UInt8.ofNat value) = dot → UInt8.ofNat value = dot := by
    decide +kernel
  intro byte lower
  have this := bytes ⟨byte.toNat, byte.toNat_lt⟩
  rw [UInt8.ofNat_toNat] at this
  exact this lower

theorem map_joinLabels (labels : List Bytes) :
    (joinLabels labels).map asciiLower = joinLabels (labels.map (·.map asciiLower)) := by
  cases labels with
  | nil => rfl
  | cons label rest =>
    have lowerDot : asciiLower dot = dot := by decide
    rw [map_cons, joinLabels_cons, joinLabels_cons, map_append, map_flatten]
    simp only [map_map, Function.comp_def, map_cons, lowerDot]

variable {labels : List Bytes}

theorem DotFree.lower (plain : DotFree labels) : DotFree (labels.map (·.map asciiLower)) := by
  intro label member carries
  obtain ⟨original, inside, rfl⟩ := mem_map.mp member
  obtain ⟨byte, present, lower⟩ := mem_map.mp carries
  exact plain original inside (asciiLower_eq_dot lower ▸ present)

theorem splitOn_joinLabels (plain : DotFree labels) (nonempty : labels ≠ []) :
    (joinLabels labels).splitOn dot = labels :=
  splitOn_intercalate dot plain nonempty

/-- Without dots inside the labels the text determines them. -/
theorem sameLabels_of_equalName {first second : List Bytes} (plain : DotFree first)
    (otherPlain : DotFree second) (nonempty : first ≠ []) (otherNonempty : second ≠ [])
    (equal : equalName (joinLabels first) (joinLabels second) = true) :
    SameLabels first second := by
  have texts := equalName_iff.mp equal
  rw [map_joinLabels, map_joinLabels] at texts
  unfold SameLabels
  rw [← splitOn_joinLabels plain.lower (by simpa using nonempty), texts,
    splitOn_joinLabels otherPlain.lower (by simpa using otherNonempty)]

theorem splitOn_dotFree (name : Bytes) : DotFree (name.splitOn dot) := by
  induction name with
  | nil =>
    intro label member carries
    rw [splitOn_nil, mem_singleton] at member
    rw [member] at carries
    cases carries
  | cons byte rest hypothesis =>
    rw [splitOn_cons_eq_if_modifyHead]
    split
    · intro label member
      rcases mem_cons.mp member with rfl | member
      · exact not_mem_nil
      · exact hypothesis label member
    · rename_i differs
      rcases split : rest.splitOn dot with - | ⟨head, tail⟩
      · exact absurd split (splitOn_ne_nil dot rest)
      · rw [split] at hypothesis
        intro label member carries
        rcases mem_cons.mp member with rfl | member
        · rcases mem_cons.mp carries with same | carries
          · exact differs (beq_iff_eq.mpr same.symm)
          · exact hypothesis head mem_cons_self carries
        · exact hypothesis label (mem_cons_of_mem _ member) carries

theorem joinLabels_splitOn (name : Bytes) : joinLabels (name.splitOn dot) = name :=
  intercalate_splitOn dot

theorem joinLabels_nonempty : name.splitOn dot ≠ [] := splitOn_ne_nil dot name

/-! ### The answers of a message -/

/-- A record with the labels of its owner. -/
structure Answer where
  owner : List Bytes
  head : RecordHead

/-- The record at an offset. -/
structure RecordAt (message : Bytes) (offset : Nat) (answer : Answer) : Prop where
  name : ∃ jumps next, NameAt message offset jumps answer.owner next ∧
    answer.head.dataOffset = next + resourceRecordFixedBytes ∧
    readNetwork16 message next = .ok answer.head.recordType ∧
    readNetwork16 message (next + 2) = .ok answer.head.recordClass ∧
    readNetwork32 message (next + 4) = .ok answer.head.ttl ∧
    readNetwork16 message (next + 8) = .ok answer.head.dataLength
  nonempty : answer.owner ≠ []
  text : answer.head.owner = joinLabels answer.owner

/-- The first records from an offset on. -/
inductive AnswersAt (message : Bytes) : Nat → List Answer → Prop where
  | nil (offset : Nat) : AnswersAt message offset []
  | cons {offset : Nat} {answer : Answer} {rest : List Answer}
    (first : RecordAt message offset answer) (others : AnswersAt message answer.head.dataEnd rest) :
    AnswersAt message offset (answer :: rest)

/-- One of the given number of records from an offset on. -/
def InAnswers (message : Bytes) (offset count : Nat) (answer : Answer) : Prop :=
  ∃ records, AnswersAt message offset records ∧ records.length ≤ count ∧ answer ∈ records

/-- An address of four bytes on the internet. -/
def Answer.IsAddress (answer : Answer) : Prop :=
  answer.head.recordClass = classInternet ∧ answer.head.recordType = typeA ∧
    answer.head.dataLength = 4

/-- An alias on the internet for the name with the given labels. -/
def Answer.IsAlias (message : Bytes) (answer : Answer) (target : List Bytes) : Prop :=
  answer.head.recordClass = classInternet ∧ answer.head.recordType = typeCname ∧
    ∃ jumps, NameAt message answer.head.dataOffset jumps target answer.head.dataEnd

/-- Aliases lead from a name to an address record: each owner is the name before, and the number
counts the aliases. -/
inductive Chain (message : Bytes) (within : Answer → Prop) : List Bytes → Nat → Answer → Prop where
  | here {name : List Bytes} {answer : Answer} (member : within answer) (address : answer.IsAddress)
    (owner : SameLabels answer.owner name) : Chain message within name 0 answer
  | alias {name target : List Bytes} {hops : Nat} {answer final : Answer} (member : within answer)
    (points : answer.IsAlias message target) (owner : SameLabels answer.owner name)
    (rest : Chain message within target hops final) : Chain message within name (hops + 1) final

/-- The answer belongs to the question: the question has the labels of the name, and aliases among
the answers lead from it to the record with the address. -/
def Belongs (message name : Bytes) (response : AResponse) : Prop :=
  ∃ jumps question next count, NameAt message headerBytes jumps question next ∧
    SameLabels question (name.splitOn dot) ∧ readNetwork16 message 6 = .ok count ∧
    response.aliasHops ≤ maximumAliasHops ∧
    ∃ final, Chain message (InAnswers message (next + questionTailBytes) count)
        (name.splitOn dot) response.aliasHops final ∧
      readAddress message final.head.dataOffset = .ok response.address ∧
      final.head.ttl = response.ttl

/-- The names the parser compares with the text it looks for: the expected name, and the targets
of the aliases of such names. -/
inductive Sought (message name : Bytes) (within : Answer → Prop) : Bytes → Prop where
  | expected : Sought message name within name
  | target {text : Bytes} {answer : Answer} {labels : List Bytes}
    (sought : Sought message name within text) (member : within answer)
    (same : equalName answer.head.owner text = true) (points : answer.IsAlias message labels) :
    Sought message name within (joinLabels labels)

/-- No name that is taken for one the parser looks for has a dot inside a label. -/
def LabelsPlain (message name : Bytes) : Prop :=
  ∀ jumps question next count, NameAt message headerBytes jumps question next →
    equalName (joinLabels question) name = true → readNetwork16 message 6 = .ok count →
    DotFree question ∧
    ∀ answer, InAnswers message (next + questionTailBytes) count answer →
      ∀ text, Sought message name (InAnswers message (next + questionTailBytes) count) text →
        equalName answer.head.owner text = true →
        (answer.IsAddress → DotFree answer.owner) ∧
        ∀ target, answer.IsAlias message target → DotFree answer.owner ∧ DotFree target

section Soundness

variable {message : Bytes}

theorem readRecord_sound (read : readRecord message offset = .ok head) :
    ∃ answer, answer.head = head ∧ RecordAt message offset answer := by
  obtain ⟨owner, decoded, read⟩ := of_bind_ok read
  obtain ⟨jumps, labels, name, nonempty, -, text, -⟩ := decodeName_sound decoded
  dsimp only at read
  split at read
  · cases read
  obtain ⟨recordType, typeRead, read⟩ := of_bind_ok read
  obtain ⟨recordClass, classRead, read⟩ := of_bind_ok read
  obtain ⟨ttl, ttlRead, read⟩ := of_bind_ok read
  obtain ⟨dataLength, lengthRead, read⟩ := of_bind_ok read
  split at read
  · cases read
  · cases read
    exact ⟨⟨labels, _⟩, rfl, ⟨jumps, _, name, rfl, typeRead, classRead, ttlRead, lengthRead⟩,
      nonempty, text⟩

/-- A record behind the first is among one more. -/
theorem InAnswers.cons {offset count : Nat} {first answer : Answer}
    (record : RecordAt message offset first)
    (member : InAnswers message first.head.dataEnd count answer) :
    InAnswers message offset (count + 1) answer := by
  obtain ⟨records, answers, few, inside⟩ := member
  exact ⟨first :: records, .cons record answers, Nat.succ_le_succ few,
    mem_cons_of_mem _ inside⟩

variable {count : Nat}

theorem InAnswers.first {first : Answer}
    (record : RecordAt message offset first) : InAnswers message offset (count + 1) first :=
  ⟨[first], .cons record (.nil _), by simp, mem_singleton.mpr rfl⟩

variable {answer : Answer}

theorem readTarget_sound {text : Bytes} (read : readTarget message answer.head = .ok text)
    (internet : answer.head.recordClass = classInternet)
    (cname : answer.head.recordType = typeCname) :
    ∃ labels, answer.IsAlias message labels ∧ labels ≠ [] ∧ text = joinLabels labels := by
  obtain ⟨decoded, done, read⟩ := of_bind_ok read
  obtain ⟨jumps, labels, name, nonempty, -, joined, -⟩ := decodeName_sound done
  split at read
  · cases read
  rename_i ends
  split at read
  · cases read
  · cases read
    exact ⟨labels, ⟨internet, cname, jumps, of_not_not ends ▸ name⟩, nonempty, joined⟩

/-- What a pass ends with is what one of the records says, or the target it started with. -/
structure PassSays (message current : Bytes) (offset count : Nat) (target : Option Bytes)
    (pass : Pass) : Prop where
  address : ∀ address ttl, pass = .answer address ttl →
    ∃ answer, InAnswers message offset count answer ∧ answer.IsAddress ∧
      equalName answer.head.owner current = true ∧
      readAddress message answer.head.dataOffset = .ok address ∧ answer.head.ttl = ttl
  target : ∀ text, pass = .finish (some text) → target = some text ∨
    ∃ answer labels, InAnswers message offset count answer ∧
      equalName answer.head.owner current = true ∧ answer.IsAlias message labels ∧
      labels ≠ [] ∧ text = joinLabels labels

/-- What is said behind the first record is said from it on. -/
theorem PassSays.cons {current : Bytes} {offset count : Nat} {target : Option Bytes} {pass : Pass}
    {first : Answer} (record : RecordAt message offset first)
    (tells : PassSays message current first.head.dataEnd count target pass) :
    PassSays message current offset (count + 1) target pass where
  address address ttl found := by
    obtain ⟨answer, member, rest⟩ := tells.address address ttl found
    exact ⟨answer, member.cons record, rest⟩
  target text found := by
    obtain same | ⟨answer, labels, member, rest⟩ := tells.target text found
    · exact .inl same
    · exact .inr ⟨answer, labels, member.cons record, rest⟩

theorem answerPass_sound {pass : Pass}
    (done : answerPass message current remaining offset target = .ok pass) :
    PassSays message current offset remaining target pass := by
  induction remaining generalizing offset target with
  | zero =>
    cases done
    refine ⟨fun _ _ found => ?_, fun _ found => .inl (Pass.finish.inj found)⟩
    cases found
  | succ remaining hypothesis =>
    obtain ⟨head, read, done⟩ := of_bind_ok done
    obtain ⟨answer, rfl, record⟩ := readRecord_sound read
    split at done
    case isFalse => exact (hypothesis done).cons record
    rename_i asked
    split at done
    · rename_i address
      obtain ⟨value, readValue, done⟩ := of_bind_ok done
      cases done
      refine ⟨fun other ttl found => ?_, fun _ found => by cases found⟩
      cases found
      exact ⟨answer, .first record, ⟨asked.1, address⟩, asked.2, readValue, rfl⟩
    split at done
    case isFalse => exact (hypothesis done).cons record
    rename_i cname
    obtain ⟨text, readText, done⟩ := of_bind_ok done
    obtain ⟨labels, points, nonempty, joined⟩ := readTarget_sound readText asked.1 cname.1
    have tells := (hypothesis done).cons record
    refine ⟨tells.address, fun other found => ?_⟩
    obtain same | later := tells.target other found
    · cases same
      exact .inr ⟨answer, labels, .first record, asked.2, points, nonempty, joined⟩
    · exact .inr later

theorem AnswersAt.record {records : List Answer} (answers : AnswersAt message offset records) :
    ∀ answer ∈ records, ∃ place, RecordAt message place answer := by
  induction answers with
  | nil offset => exact fun answer member => absurd member not_mem_nil
  | cons first others hypothesis =>
    intro answer member
    rcases mem_cons.mp member with rfl | member
    · exact ⟨_, first⟩
    · exact hypothesis answer member

theorem InAnswers.record
    (member : InAnswers message offset count answer) : ∃ place, RecordAt message place answer := by
  obtain ⟨records, answers, -, inside⟩ := member
  exact answers.record answer inside

/-- The owner of a record that was taken for the name has its labels. -/
theorem InAnswers.sameLabels (member : InAnswers message offset count answer)
    (owner : DotFree answer.owner) (dots : DotFree labels) (nonempty : labels ≠ [])
    (same : equalName answer.head.owner (joinLabels labels) = true) :
    SameLabels answer.owner labels := by
  obtain ⟨place, record⟩ := member.record
  exact sameLabels_of_equalName owner dots record.nonempty nonempty (record.text ▸ same)

variable {response : AResponse}

/-- The addresses the aliases lead to belong to the name they start from. -/
theorem aliasLoop_sound (plain : ∀ answer, InAnswers message offset count answer →
      ∀ text, Sought message name (InAnswers message offset count) text →
        equalName answer.head.owner text = true →
        (answer.IsAddress → DotFree answer.owner) ∧
        ∀ target, answer.IsAlias message target → DotFree answer.owner ∧ DotFree target)
    (few : aliasHops ≤ maximumAliasHops) (dots : DotFree labels) (nonempty : labels ≠ [])
    (text : joinLabels labels = current)
    (sought : Sought message name (InAnswers message offset count) current)
    (done : aliasLoop message flags offset count fuel current visited aliasHops =
      .ok (.answer response)) :
    aliasHops ≤ response.aliasHops ∧ response.aliasHops ≤ maximumAliasHops ∧
    ∃ final, Chain message (InAnswers message offset count) labels
        (response.aliasHops - aliasHops) final ∧
      readAddress message final.head.dataOffset = .ok response.address ∧
      final.head.ttl = response.ttl := by
  subst text
  induction fuel generalizing aliasHops labels visited with
  | zero => cases done
  | succ fuel hypothesis =>
    obtain ⟨pass, passed, done⟩ := of_bind_ok done
    have tells := answerPass_sound passed
    rcases pass with ⟨address, ttl⟩ | _ | text
    · cases done
      obtain ⟨answer, member, isAddress, same, read, time⟩ := tells.address address ttl rfl
      have owner := (plain answer member _ sought same).1 isAddress
      refine ⟨le_refl _, few, answer, ?_, read, time⟩
      rw [Nat.sub_self]
      exact .here member isAddress (member.sameLabels owner dots nonempty same)
    · cases done
    · obtain none | ⟨answer, target, member, same, points, more, rfl⟩ := tells.target text rfl
      · cases none
      dsimp only at done
      split at done
      · cases done
      rename_i fewer
      split at done
      · cases done
      obtain ⟨owner, targetDots⟩ := (plain answer member _ sought same).2 target points
      obtain ⟨least, most, final, chain, found⟩ := hypothesis
        (Nat.lt_of_not_le fewer) targetDots more (.target sought member same points) done
      refine ⟨Nat.le_of_succ_le least, most, final, ?_, found⟩
      have hops : response.aliasHops - aliasHops = response.aliasHops - (aliasHops + 1) + 1 := by
        omega
      rw [hops]
      exact .alias member points (member.sameLabels owner dots nonempty same) chain

/-- An answer belongs to the question if no name that is taken for one the parser looks for has a
dot inside a label. -/
theorem parseAOutcome_belongs (plain : LabelsPlain message name)
    (parsed : parseAOutcome message transactionId name = .ok (.answer response)) :
    Belongs message name response := by
  unfold parseAOutcome at parsed
  split at parsed
  · cases parsed
  split at parsed
  · cases parsed
  obtain ⟨_, -, parsed⟩ := of_bind_ok parsed
  split at parsed
  · cases parsed
  obtain ⟨flags, -, parsed⟩ := of_bind_ok parsed
  split at parsed
  · cases parsed
  obtain ⟨_, -, parsed⟩ := of_bind_ok parsed
  obtain ⟨count, counted, parsed⟩ := of_bind_ok parsed
  split at parsed
  · cases parsed
  obtain ⟨question, decoded, parsed⟩ := of_bind_ok parsed
  obtain ⟨jumps, labels, questionAt, nonempty, -, text, -⟩ := decodeName_sound decoded
  split at parsed
  · cases parsed
  rename_i asked
  split at parsed
  · cases parsed
  obtain ⟨_, -, parsed⟩ := of_bind_ok parsed
  obtain ⟨_, -, parsed⟩ := of_bind_ok parsed
  split at parsed
  · cases parsed
  unfold parseAnswers at parsed
  split at parsed
  · split at parsed <;> cases parsed
  split at parsed
  · cases parsed
  have same : equalName (joinLabels labels) name = true := by
    rw [← text]
    exact Bool.eq_true_of_not_eq_false asked
  obtain ⟨questionDots, recordDots⟩ := plain jumps labels _ count questionAt same counted
  have joined := joinLabels_splitOn name
  obtain ⟨-, most, final, chain, found⟩ := aliasLoop_sound recordDots (Nat.zero_le _)
    (splitOn_dotFree name) joinLabels_nonempty joined .expected parsed
  refine ⟨jumps, labels, _, count, questionAt, ?_, counted, most, final, chain, found⟩
  rw [← joined] at same
  exact sameLabels_of_equalName questionDots (splitOn_dotFree name) nonempty joinLabels_nonempty same

end Soundness

/-- The parser ends inside every message, and what it answers belongs to the question. -/
def AnswersBelong (message : Bytes) (transactionId : UInt16) (name : Bytes) : Prop :=
  Settles (parseAOutcome message transactionId name) ∧
    ∀ response, parseAOutcome message transactionId name = .ok (.answer response) →
      Belongs message name response

/-- A response to transaction 7 with one address for the question, whose name is one label. -/
def oneLabelResponse (label : Bytes) : Bytes :=
  header 7 0x8180 1 1 ++ (encodeLabels [label] ++ [0, 0, 1, 0, 1]) ++
    [0xC0, 0x0C, 0, 1, 0, 1, 0, 0, 1, 44, 0, 4, 192, 0, 2, 42]

/-- The label with the bytes of a, dot, b. -/
abbrev dottedLabel : Bytes := [0x61, 0x2E, 0x62]

/-- The one answer is for a name without dots. -/
theorem oneLabel_plain : LabelsPlain (oneLabelResponse [0x61]) [0x61] := by
  have one : NameAt (oneLabelResponse [0x61]) headerBytes 0 [[0x61]] 15 :=
    @NameAt.label _ 12 0 15 1 [] rfl (by decide) (by decide) (by decide) (.root rfl)
  have owner : NameAt (oneLabelResponse [0x61]) 19 1 [[0x61]] 21 :=
    @NameAt.pointer _ 19 0 15 0xC0 0x0C _ rfl (by decide) rfl (by decide) one
  have dots : DotFree [[0x61]] := by decide
  intro jumps question next count asked _ counted
  obtain ⟨rfl, rfl⟩ := asked.unique one
  have single : count = 1 := (Except.ok.inj counted).symm
  refine ⟨dots, fun answer member text _ _ => ?_⟩
  obtain ⟨records, answers, few, inside⟩ := member
  rcases answers with - | ⟨first, others⟩
  · exact absurd inside not_mem_nil
  rename_i head rest
  obtain rfl : rest = [] := eq_nil_of_length_eq_zero (by
    rw [length_cons] at few
    omega)
  obtain rfl := mem_singleton.mp inside
  obtain ⟨_, place, named, -, typed, -⟩ := first.name
  obtain ⟨same, rfl⟩ := named.unique owner
  refine ⟨fun _ => same ▸ dots, fun target points => ?_⟩
  have cname := points.2.1
  rw [← Except.ok.inj typed] at cname
  cases cname

end ZigOs.Dns
