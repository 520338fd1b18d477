/-
This file models the messages of the domain name system: the builders, the decoder of a
compressed name, and the parser of a response to a question for an address. The builders
write the fields of a message in place; here the fields stand one after the other. The
parser ends with a value, with a refusal, or at the first read that is not inside the
message.
-/

import ZigOs.Dns.Name

namespace ZigOs.Dns

abbrev headerBytes : Nat := 12
abbrev questionTailBytes : Nat := 4
abbrev resourceRecordFixedBytes : Nat := 10
abbrev maximumCompressionJumps : Nat := 16
abbrev maximumAliasHops : Nat := 8

abbrev flagResponse : Nat := 0x8000
abbrev flagAuthoritative : Nat := 0x0400
abbrev flagTruncated : Nat := 0x0200
abbrev flagRecursionDesired : Nat := 0x0100
abbrev flagRecursionAvailable : Nat := 0x0080
abbrev opcodeMask : Nat := 0x7800
abbrev responseCodeMask : Nat := 0x000F

abbrev typeA : Nat := 1
abbrev typeCname : Nat := 5
abbrev classInternet : Nat := 1

/-! ### Building messages -/

def network16 (value : Nat) : Bytes := [UInt8.ofNat (value / 256), UInt8.ofNat value]

def network32 (value : Nat) : Bytes := network16 (value / 65536) ++ network16 value

def encodeLabels (labels : List Bytes) : Bytes :=
  labels.flatMap fun label => UInt8.ofNat label.length :: label

def encodeName (name : Bytes) : Bytes := encodeLabels (name.splitOn dot) ++ [0]

def header (transactionId : UInt16) (flags questions answers : Nat) : Bytes :=
  network16 transactionId.toNat ++ network16 flags ++ network16 questions ++ network16 answers ++
    [0, 0, 0, 0]

def question (name : Bytes) : Bytes :=
  encodeName name ++ network16 typeA ++ network16 classInternet

/-- What stands between the owner of a record and its data. -/
def recordFixed (recordType recordClass ttl dataLength : Nat) : Bytes :=
  network16 recordType ++ network16 recordClass ++ network32 ttl ++ network16 dataLength

/-- A name given by the place of the question. -/
def questionPointer : Bytes := network16 (0xC000 ||| headerBytes)

def Address.bytes (address : Address) : Bytes :=
  [address.first, address.second, address.third, address.fourth]

def buildAQuery (capacity : Nat) (transactionId : UInt16) (name : Bytes) : Option Bytes := do
  let encodedNameBytes ← encodedNameLength name
  if capacity < headerBytes + encodedNameBytes + questionTailBytes then none
  else some (header transactionId flagRecursionDesired 1 0 ++ question name)

/-- The flags of every response that is built. -/
abbrev responseFlags : Nat :=
  flagResponse ||| flagAuthoritative ||| flagRecursionDesired ||| flagRecursionAvailable

def buildAResponse (capacity : Nat) (transactionId : UInt16) (name : Bytes) (address : Address)
    (ttl : UInt32) : Option Bytes := do
  let query ← buildAQuery capacity transactionId name
  if capacity < query.length + 2 + resourceRecordFixedBytes + 4 then none
  else some (header transactionId responseFlags 1 1 ++ question name ++
    (questionPointer ++ recordFixed typeA classInternet ttl.toNat 4 ++ address.bytes))

def buildNameErrorResponse (capacity : Nat) (transactionId : UInt16) (name : Bytes) :
    Option Bytes := do
  let _ ← buildAQuery capacity transactionId name
  some (header transactionId (responseFlags ||| 3) 1 0 ++ question name)

def buildCnameAResponse (capacity : Nat) (transactionId : UInt16) (aliasName canonicalName : Bytes)
    (address : Address) (ttl : UInt32) : Option Bytes := do
  let canonicalEncodedBytes ← encodedNameLength canonicalName
  let query ← buildAQuery capacity transactionId aliasName
  if capacity < query.length + 26 + canonicalEncodedBytes * 2 then none
  else some (header transactionId responseFlags 1 2 ++ question aliasName ++
    (questionPointer ++ recordFixed typeCname classInternet ttl.toNat canonicalEncodedBytes ++
      encodeName canonicalName) ++
    (encodeName canonicalName ++ recordFixed typeA classInternet ttl.toNat 4 ++ address.bytes))

/-! ### Reading a message -/

/-- Why a parse ends without a value. The bound on the steps of a loop is part of the model. -/
inductive Stop where
  | refused
  | outside
  | unfinished
  deriving DecidableEq, Repr

abbrev Parse := Except Stop

def byteAt (message : Bytes) (offset : Nat) : Parse UInt8 :=
  match message[offset]? with
  | some byte => .ok byte
  | none => .error .outside

/-- The bytes from an offset on. -/
def sliceAt (message : Bytes) (offset length : Nat) : Parse Bytes :=
  if offset + length ≤ message.length then .ok ((message.drop offset).take length)
  else .error .outside

def readNetwork16 (message : Bytes) (offset : Nat) : Parse Nat := do
  let high ← byteAt message offset
  let low ← byteAt message (offset + 1)
  return high.toNat * 256 + low.toNat

def readNetwork32 (message : Bytes) (offset : Nat) : Parse Nat := do
  let high ← readNetwork16 message offset
  let low ← readNetwork16 message (offset + 2)
  return high * 65536 + low

/-! ### Compressed names -/

structure DecodedName where
  nextOffset : Nat
  text : Bytes
  deriving DecidableEq, Repr

/-- Where a decoding is. -/
structure Walk where
  cursor : Nat
  nextOffset : Nat
  text : Bytes := []
  jumped : Bool := false
  jumpCount : Nat := 0
  labelCount : Nat := 0

def Walk.jump (walk : Walk) (pointer : Nat) : Walk :=
  { walk with
    nextOffset := if walk.jumped then walk.nextOffset else walk.cursor + 2
    cursor := pointer
    jumped := true
    jumpCount := walk.jumpCount + 1 }

/-- The text after a further label. -/
def Walk.joined (walk : Walk) (label : Bytes) : Bytes :=
  (if walk.labelCount = 0 then walk.text else walk.text ++ [dot]) ++ label

def Walk.pass (walk : Walk) (label : Bytes) : Walk :=
  { walk with
    cursor := walk.cursor + 1 + label.length
    text := walk.joined label
    labelCount := walk.labelCount + 1 }

def decodeLoop (message : Bytes) : Nat → Walk → Parse DecodedName
  | 0, _ => .error .unfinished
  | fuel + 1, walk =>
    if message.length ≤ walk.cursor then .error .refused
    else do
      let length ← byteAt message walk.cursor
      if length &&& 0xC0 = 0xC0 then
        if message.length ≤ walk.cursor + 1 ∨ maximumCompressionJumps ≤ walk.jumpCount then
          .error .refused
        else do
          let low ← byteAt message (walk.cursor + 1)
          let pointer := (length &&& 0x3F).toNat * 256 + low.toNat
          if message.length ≤ pointer then .error .refused
          else decodeLoop message fuel (walk.jump pointer)
      else if length &&& 0xC0 ≠ 0 then .error .refused
      else if length = 0 then
        if walk.labelCount = 0 then .error .refused
        else
          .ok
            { nextOffset := if walk.jumped then walk.nextOffset else walk.cursor + 1
              text := walk.text }
      else if 63 < length.toNat ∨ message.length < walk.cursor + 1 + length.toNat then
        .error .refused
      else if walk.labelCount ≠ 0 ∧ maximumNameBytes ≤ walk.text.length then .error .refused
      else do
        let label ← sliceAt message (walk.cursor + 1) length.toNat
        if maximumNameBytes < (walk.joined label).length then .error .refused
        else decodeLoop message fuel (walk.pass label)

/-- Every step takes a jump or lengthens the text, and there are bounds on both. -/
abbrev decodeSteps : Nat := maximumCompressionJumps + maximumNameBytes + 1

def decodeName (message : Bytes) (offset : Nat) : Parse DecodedName :=
  if message.length ≤ offset then .error .refused
  else decodeLoop message decodeSteps { cursor := offset, nextOffset := offset }

/-! ### Responses -/

structure AResponse where
  address : Address
  ttl : Nat
  authoritative : Bool
  recursionAvailable : Bool
  aliasHops : Nat
  deriving DecidableEq, Repr

inductive AOutcome where
  | answer (response : AResponse)
  | nameError
  deriving DecidableEq, Repr

/-- What a record says before its data, and where the data is. -/
structure RecordHead where
  owner : Bytes
  recordType : Nat
  recordClass : Nat
  ttl : Nat
  dataOffset : Nat
  dataLength : Nat
  deriving DecidableEq, Repr

def RecordHead.dataEnd (head : RecordHead) : Nat := head.dataOffset + head.dataLength

def readRecord (message : Bytes) (offset : Nat) : Parse RecordHead := do
  let owner ← decodeName message offset
  let offset := owner.nextOffset
  if message.length < offset + resourceRecordFixedBytes then .error .refused
  else do
    let recordType ← readNetwork16 message offset
    let recordClass ← readNetwork16 message (offset + 2)
    let ttl ← readNetwork32 message (offset + 4)
    let dataLength ← readNetwork16 message (offset + 8)
    let head : RecordHead :=
      { owner := owner.text
        recordType
        recordClass
        ttl
        dataOffset := offset + resourceRecordFixedBytes
        dataLength }
    if message.length < head.dataEnd then .error .refused
    else .ok head

def readAddress (message : Bytes) (offset : Nat) : Parse Address := do
  let first ← byteAt message offset
  let second ← byteAt message (offset + 1)
  let third ← byteAt message (offset + 2)
  let fourth ← byteAt message (offset + 3)
  return { first, second, third, fourth }

/-- The name an alias stands for. -/
def readTarget (message : Bytes) (head : RecordHead) : Parse Bytes := do
  let decoded ← decodeName message head.dataOffset
  if decoded.nextOffset ≠ head.dataEnd then .error .refused
  else if encodedNameLength decoded.text = none then .error .refused
  else .ok decoded.text

/-- How a pass over the answers ends. -/
inductive Pass where
  | answer (address : Address) (ttl : Nat)
  | finish (target : Option Bytes)
  deriving DecidableEq, Repr

/-- One pass over the remaining answers: it ends at the first address of the current name, and
keeps the first alias of it. -/
def answerPass (message current : Bytes) : Nat → Nat → Option Bytes → Parse Pass
  | 0, _, target => .ok (.finish target)
  | remaining + 1, offset, target => do
    let head ← readRecord message offset
    if head.recordClass = classInternet ∧ equalName head.owner current = true then
      if head.recordType = typeA ∧ head.dataLength = 4 then do
        let address ← readAddress message head.dataOffset
        .ok (.answer address head.ttl)
      else if head.recordType = typeCname ∧ target = none then do
        let found ← readTarget message head
        answerPass message current remaining head.dataEnd (some found)
      else answerPass message current remaining head.dataEnd target
    else answerPass message current remaining head.dataEnd target

/-- The passes, one for each name on the way; the names seen so far end with the current one. -/
def aliasLoop (message : Bytes) (flags answersOffset answerCount : Nat) :
    Nat → Bytes → List Bytes → Nat → Parse AOutcome
  | 0, _, _, _ => .error .unfinished
  | fuel + 1, current, visited, aliasHops => do
    let pass ← answerPass message current answerCount answersOffset none
    match pass with
    | .answer address ttl => .ok (.answer
        { address
          ttl
          authoritative := flags &&& flagAuthoritative != 0
          recursionAvailable := flags &&& flagRecursionAvailable != 0
          aliasHops })
    | .finish none => .error .refused
    | .finish (some target) =>
      if maximumAliasHops ≤ aliasHops then .error .refused
      else if visited.any (equalName target) then .error .refused
      else
        aliasLoop message flags answersOffset answerCount fuel target (visited ++ [target])
          (aliasHops + 1)

/-- What follows the question of a response. -/
def parseAnswers (message expectedName : Bytes) (flags answerCount offset : Nat) :
    Parse AOutcome :=
  if flags &&& responseCodeMask = 3 then
    if answerCount ≠ 0 then .error .refused else .ok .nameError
  else if answerCount = 0 then .error .refused
  else aliasLoop message flags offset answerCount (maximumAliasHops + 1) expectedName
    [expectedName] 0

/-- The question must be the expected one. -/
def parseQuestion (message expectedName : Bytes) (flags answerCount : Nat) : Parse AOutcome := do
  let questionName ← decodeName message headerBytes
  if equalName questionName.text expectedName = false then .error .refused
  else if message.length < questionName.nextOffset + questionTailBytes then .error .refused
  else do
    let questionType ← readNetwork16 message questionName.nextOffset
    let questionClass ← readNetwork16 message (questionName.nextOffset + 2)
    if questionType ≠ typeA ∨ questionClass ≠ classInternet then .error .refused
    else
      parseAnswers message expectedName flags answerCount
        (questionName.nextOffset + questionTailBytes)

/-- The flags are those of a whole response that says yes or that there is no such name. -/
def flagsAccepted (flags : Nat) : Bool :=
  flags &&& flagResponse != 0 && flags &&& opcodeMask == 0 && flags &&& flagTruncated == 0 &&
    (flags &&& responseCodeMask == 0 || flags &&& responseCodeMask == 3)

def parseAOutcome (message : Bytes) (expectedTransactionId : UInt16) (expectedName : Bytes) :
    Parse AOutcome :=
  if encodedNameLength expectedName = none then .error .refused
  else if message.length < headerBytes then .error .refused
  else do
    let transactionId ← readNetwork16 message 0
    if transactionId ≠ expectedTransactionId.toNat then .error .refused
    else do
      let flags ← readNetwork16 message 2
      if flagsAccepted flags = false then .error .refused
      else do
        let questionCount ← readNetwork16 message 4
        let answerCount ← readNetwork16 message 6
        if questionCount ≠ 1 then .error .refused
        else parseQuestion message expectedName flags answerCount

end ZigOs.Dns
