/-
This file models the resolver of the development kit, which encodes its own questions and
parses the answers without the kernel's code. It looks at less of a response than the kernel
does: it skips names without reading them, and it takes the first address there is.
-/

import ZigOs.Dns.Decoding

namespace ZigOs.Sdk

open Dns

abbrev maximumPacketBytes : Nat := 512
abbrev maximumLabels : Nat := 127

inductive CodecError where
  | bufferTooSmall
  | invalidName
  | malformedResponse
  | transactionMismatch
  | notFound
  | serverFailure
  deriving DecidableEq, Repr

/-- A codec fails with an error of its own, or where the model stops: at a read outside the packet
or at the bound on a loop. -/
inductive Failure where
  | codec (error : CodecError)
  | stop (stop : Stop)
  deriving DecidableEq, Repr

abbrev Codec := Except Failure

def fail {Value : Type} (error : CodecError) : Codec Value := .error (.codec error)

def lift {Value : Type} (parse : Parse Value) : Codec Value := parse.mapError .stop

structure Resolution where
  address : Address
  ttlSeconds : Nat
  deriving DecidableEq, Repr

/-! ### Questions -/

/-- The labels on the wire, while five bytes are left behind them. -/
def encodeLabels (capacity : Nat) : Nat → List Bytes → Codec Bytes
  | _, [] => .ok []
  | output, label :: rest =>
    if label.length = 0 ∨ 63 < label.length then fail .invalidName
    else if capacity < output + 1 + label.length + 5 then fail .bufferTooSmall
    else do
      let written ← encodeLabels capacity (output + 1 + label.length) rest
      .ok (UInt8.ofNat label.length :: label ++ written)

def encodeQuery (capacity : Nat) (transaction : UInt16) (name : Bytes) : Codec Bytes :=
  if capacity < 17 ∨ name.length = 0 ∨ maximumNameBytes < name.length then fail .bufferTooSmall
  else do
    let labels ← encodeLabels capacity headerBytes (name.splitOn dot)
    .ok (header transaction 0x0100 1 0 ++ (labels ++ [0]) ++ network16 1 ++ network16 1)

/-! ### Answers -/

def skipLoop (packet : Bytes) : Nat → Nat → Nat → Codec Nat
  | 0, _, _ => .error (.stop .unfinished)
  | fuel + 1, cursor, labels =>
    if packet.length ≤ cursor then fail .malformedResponse
    else do
      let length ← lift (byteAt packet cursor)
      if length &&& 0xC0 = 0xC0 then
        if packet.length ≤ cursor + 1 then fail .malformedResponse
        else do
          let low ← lift (byteAt packet (cursor + 1))
          let pointer := pointerOf length low
          if cursor ≤ pointer ∨ packet.length ≤ pointer then fail .malformedResponse
          else .ok (cursor + 2)
      else if length &&& 0xC0 ≠ 0 ∨ 63 < length.toNat then fail .malformedResponse
      else if length = 0 then .ok (cursor + 1)
      else if packet.length < cursor + 1 ∨ packet.length - (cursor + 1) < length.toNat then
        fail .malformedResponse
      else if maximumLabels < labels + 1 then fail .malformedResponse
      else skipLoop packet fuel (cursor + 1 + length.toNat) (labels + 1)

/-- Every round of the loop but the last counts a label. -/
def skipName (packet : Bytes) (offset : Nat) : Codec Nat :=
  skipLoop packet (maximumLabels + 2) offset 0

def skipQuestions (packet : Bytes) : Nat → Nat → Codec Nat
  | 0, offset => .ok offset
  | remaining + 1, offset => do
    let next ← skipName packet offset
    if packet.length < next ∨ packet.length - next < 4 then fail .malformedResponse
    else skipQuestions packet remaining (next + 4)

/-- The first address among the records that are left. -/
def readAnswers (packet : Bytes) : Nat → Nat → Codec Resolution
  | 0, _ => fail .notFound
  | remaining + 1, offset => do
    let next ← skipName packet offset
    if packet.length < next ∨ packet.length - next < 10 then fail .malformedResponse
    else do
      let recordType ← lift (readNetwork16 packet next)
      let recordClass ← lift (readNetwork16 packet (next + 2))
      let ttl ← lift (readNetwork32 packet (next + 4))
      let dataLength ← lift (readNetwork16 packet (next + 8))
      let data := next + 10
      if packet.length < data ∨ packet.length - data < dataLength then fail .malformedResponse
      else if recordType = 1 ∧ recordClass = 1 ∧ dataLength = 4 then do
        let address ← lift (readAddress packet data)
        .ok { address, ttlSeconds := ttl }
      else readAnswers packet remaining (data + dataLength)

def parseAResponse (packet : Bytes) (transaction : UInt16) : Codec Resolution :=
  if packet.length < 12 then fail .malformedResponse
  else do
    let found ← lift (readNetwork16 packet 0)
    if found ≠ transaction.toNat then fail .transactionMismatch
    else do
      let flags ← lift (readNetwork16 packet 2)
      if flags &&& 0x8000 = 0 ∨ flags &&& 0x0200 ≠ 0 then fail .malformedResponse
      else if flags &&& 0x000F = 3 then fail .notFound
      else if flags &&& 0x000F ≠ 0 then fail .serverFailure
      else do
        let questions ← lift (readNetwork16 packet 4)
        let answers ← lift (readNetwork16 packet 6)
        let offset ← skipQuestions packet questions 12
        readAnswers packet answers offset

end ZigOs.Sdk
