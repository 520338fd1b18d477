/-
This file models how the user shell expands the words of a command: substitutions
by the output of a program, wildcards by the names of a directory, a tilde by the
home directory. Every access to one of its buffers is checked. What the kernel
answers meanwhile is a parameter, one set of answers for each word.
-/

import ZigOs.Lib.Buffers
import ZigOs.Shell.Parser

namespace ZigOs.Shell

open Buffers

open Buffers (Outcome Stop)

abbrev maximumArgumentBytes : Nat := 31
abbrev maximumSubstitutionOutput : Nat := maximumArgumentBytes
abbrev maximumPath : Nat := 255
abbrev entryNameBytes : Nat := 32

/-! ### The answers of the kernel -/

/-- An entry of a directory; its name fits the record it is read into. -/
structure DirectoryEntry where
  name : Bytes
  named : name ≠ []
  fits : name.length ≤ entryNameBytes

inductive Spawned where
  | started | notFound | failed
  deriving DecidableEq, Repr

/-- What the kernel answers while one word is expanded. A directory is listed in several
calls: its entries follow one another here, and the last call may fail. -/
structure Answers where
  directory : Bytes → Option (List DirectoryEntry × Bool)
  environment : Bool
  pathVariable : Option Bytes
  pipe : Bool
  spawn : Bytes → Spawned
  closePipe : Bool
  output : List (Option Bytes)
  extra : Option Bytes
  status : Option Nat

/-! ### Words -/

/-- The command that is built, with the place of its next word. -/
structure Expansion where
  storage : Bytes
  cursor : Nat := 0
  words : List Word := []

def refused {Result : Type} : Outcome Result := .error .refused

/-- A local buffer; nothing reads what it holds at first. -/
def emptyBuffer (size : Nat) : Bytes := List.replicate size 0

def appendExpandedWord (result : Expansion) (word : Bytes) : Outcome Expansion :=
  if word.length = 0 ∨ maximumArgumentBytes < word.length ∨ result.words.length = maximumWords then
    refused
  else do
    let storage ← copy result.storage result.cursor word
    let storage ← copy storage (result.cursor + word.length) [0]
    pure {
      storage
      cursor := result.cursor + (word.length + 1)
      words := result.words ++ [{ start := result.cursor, length := word.length }] }

/-- Two strings side by side in a buffer of the size of an argument. -/
def joinedArgument (first second : Bytes) : Outcome Bytes := do
  let buffer ← copy (emptyBuffer maximumArgumentBytes) 0 first
  let buffer ← copy buffer first.length second
  slice buffer 0 (first.length + second.length)

def home : Bytes := bytesOf "/home/root"

def expandTilde (word : Bytes) (result : Expansion) : Outcome Expansion :=
  if word.length ≠ 1 ∧ byteAt word 1 ≠ slash then refused
  else if maximumArgumentBytes < home.length + word.length - 1 then refused
  else do
    let expanded ← joinedArgument home (word.drop 1)
    appendExpandedWord result expanded

/-! ### Wildcards -/

def lastSlash (word : Bytes) : Option Nat :=
  word.zipIdx.foldl (fun found pair => if pair.1 = slash then some pair.2 else found) none

/-- Where the last component of a word begins. -/
def componentStart (word : Bytes) : Nat :=
  match lastSlash word with
  | some index => index + 1
  | none => 0

/-- The directory of a word as the path that is opened. -/
def directoryPath (word : Bytes) : Outcome Bytes :=
  match lastSlash word with
  | none => .ok (bytesOf ".")
  | some index => do
    let length := if index = 0 then 1 else index
    let copied ← slice word 0 length
    let directory ← copy (emptyBuffer (maximumPath + 1)) 0 copied
    let directory ← copy directory length [0]
    pure (directory.takeWhile (· != 0))

def matchesPattern (name before behind : Bytes) : Bool :=
  decide (before.length + behind.length ≤ name.length) && name.take before.length == before &&
    name.drop (name.length - behind.length) == behind

/-- The loop over the entries of a directory, with the number of matches. -/
def appendMatches (base before behind : Bytes) :
    List DirectoryEntry → Nat → Expansion → Outcome (Nat × Expansion)
  | [], found, result => pure (found, result)
  | entry :: entries, found, result =>
    if matchesPattern entry.name before behind = false then
      appendMatches base before behind entries found result
    else if maximumArgumentBytes < base.length + entry.name.length then refused
    else do
      let path ← joinedArgument base entry.name
      let result ← appendExpandedWord result path
      appendMatches base before behind entries (found + 1) result

def expandWildcard (answers : Answers) (word : Bytes) (result : Expansion) : Outcome Expansion :=
  match word.idxOf? star with
  | none => refused
  | some starIndex =>
    if star ∈ word.drop (starIndex + 1) then refused
    else if starIndex < componentStart word then refused
    else do
      let pattern ← slice word (componentStart word) word.length
      let patternStar := starIndex - componentStart word
      let before ← slice pattern 0 patternStar
      let behind ← slice pattern (patternStar + 1) pattern.length
      let path ← directoryPath word
      match answers.directory path with
      | none => refused
      | some (entries, ends) => do
        let base ← slice word 0 (componentStart word)
        let (found, result) ← appendMatches base before behind entries 0 result
        if ends && found != 0 then pure result else refused

/-! ### Substitutions -/

/-- The path of a program in a directory, in a buffer of the size of a path. -/
def buildExecutablePath (directory program : Bytes) : Outcome Bytes :=
  let front := if program.contains slash then [] else directory
  let separator := if front = [] ∨ front.getLast? = some slash then [] else [slash]
  let suffix := if (bytesOf ".elf").isSuffixOf program then [] else bytesOf ".elf"
  let length := front.length + separator.length + program.length + suffix.length
  if maximumPath < length then refused
  else do
    let output ← copy (emptyBuffer (maximumPath + 1)) 0 front
    let output ← copy output front.length separator
    let output ← copy output (front.length + separator.length) program
    let output ← copy output (front.length + separator.length + program.length) suffix
    let output ← copy output length [0]
    slice output 0 length

/-- The search through the directories of the path variable. -/
def spawnFromDirectories (answers : Answers) (program : Bytes) : List Bytes → Outcome Unit
  | [] => refused
  | directory :: directories =>
    if directory = [] then spawnFromDirectories answers program directories
    else do
      let path ← buildExecutablePath directory program
      match answers.spawn path with
      | .started => pure ()
      | .notFound => spawnFromDirectories answers program directories
      | .failed => refused

abbrev colon : UInt8 := 0x3A

def defaultPath : Bytes := bytesOf "/bin:/persist"

def spawnFromPath (answers : Answers) (program : Bytes) : Outcome Unit :=
  if program = [] then refused
  else if program.contains slash then do
    let path ← buildExecutablePath [] program
    if answers.spawn path = .started then pure () else refused
  else spawnFromDirectories answers program ((answers.pathVariable.getD defaultPath).splitOn colon)

/-- Read the output of the program until it ends or the buffer is full. A read returns at
most what it was asked for; `none` is one that fails. -/
def readOutput (buffer : Bytes) (total : Nat) : List (Option Bytes) → Outcome (Bytes × Nat)
  | [] => pure (buffer, total)
  | chunk :: chunks =>
    if buffer.length ≤ total then pure (buffer, total)
    else
      match chunk with
      | none => refused
      | some chunk =>
        let received := chunk.take (buffer.length - total)
        if received = [] then pure (buffer, total)
        else do
          let buffer ← copy buffer total received
          readOutput buffer (total + received.length) chunks

/-- The length without the line ends at the end of the output. -/
def trimOutput (buffer : Bytes) (total : Nat) : Nat := trimEnd isLineEnd buffer total

def captureSubstitution (answers : Answers) (program : Bytes) : Outcome Bytes :=
  if answers.environment = false then refused
  else if answers.pipe = false then refused
  else do
    spawnFromPath answers program
    if answers.closePipe = false then refused
    else do
      let (output, total) ← readOutput (emptyBuffer maximumSubstitutionOutput) 0 answers.output
      if total = maximumSubstitutionOutput ∧ answers.extra ≠ some [] then refused
      else if answers.status ≠ some 0 then refused
      else
        let total := trimOutput output total
        if total = 0 then refused
        else do
          let captured ← slice output 0 total
          if 0 ∈ captured then refused else pure captured

/-! ### Commands -/

def expandWord (answers : Answers) (index : Nat) (word : Bytes) (result : Expansion) :
    Outcome Expansion :=
  match substitutionProgram word with
  | some program =>
    if index = 0 then refused
    else do
      let captured ← captureSubstitution answers program
      appendExpandedWord result captured
  | none =>
    if word.contains star then
      if index = 0 then refused else expandWildcard answers word result
    else do
      let first ← read word 0
      if first = tilde then expandTilde word result else appendExpandedWord result word

/-- The loop over the words of a command. -/
def expandWords (answers : Nat → Answers) (source : Bytes) :
    Nat → List Word → Expansion → Outcome Expansion
  | _, [], result => pure result
  | index, word :: words, result => do
    let bytes ← slice source word.start (word.start + word.length)
    let result ← expandWord (answers index) index bytes result
    expandWords answers source (index + 1) words result

/-- Expand a command whose words stand in the source into the storage of a new one. -/
def expandCommand (answers : Nat → Answers) (source : Bytes) (command : Command) (storage : Bytes) :
    Outcome (Bytes × Command) := do
  let result ← expandWords answers source 0 command.words { storage }
  pure (result.storage, { words := result.words })

end ZigOs.Shell
