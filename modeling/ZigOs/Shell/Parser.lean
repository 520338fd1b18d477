/-
This file models how the user shell takes a line apart: lists at semicolons,
pipelines at the conditional operators, commands at single bars, words at spaces.
The source works in place: every separator becomes a zero, and a word is kept as
its place in the storage of the line. `none` stands for a line that is refused;
the callers drop its storage.
-/

import ZigOs.Error

namespace ZigOs.Shell

abbrev maximumLine : Nat := 512
abbrev maximumWords : Nat := 8
abbrev maximumConditionalCommands : Nat := 4
abbrev maximumSequentialLists : Nat := 4
abbrev maximumPipelineStages : Nat := 4

/-! ### Bytes -/

abbrev tab : UInt8 := 0x09
abbrev lineFeed : UInt8 := 0x0A
abbrev carriageReturn : UInt8 := 0x0D
abbrev space : UInt8 := 0x20
abbrev dollar : UInt8 := 0x24
abbrev ampersand : UInt8 := 0x26
abbrev openParenthesis : UInt8 := 0x28
abbrev closeParenthesis : UInt8 := 0x29
abbrev star : UInt8 := 0x2A
abbrev slash : UInt8 := 0x2F
abbrev semicolon : UInt8 := 0x3B
abbrev equals : UInt8 := 0x3D
abbrev underscore : UInt8 := 0x5F
abbrev bar : UInt8 := 0x7C
abbrev tilde : UInt8 := 0x7E

def isSpace (byte : UInt8) : Bool := byte == space || byte == tab

def isLineEnd (byte : UInt8) : Bool := byte == carriageReturn || byte == lineFeed

/-- The bytes of a name that the source writes as a string. -/
def bytesOf (text : String) : Bytes := text.toList.map fun character => UInt8.ofNat character.toNat

def byteAt (storage : Bytes) (index : Nat) : UInt8 := storage.getD index 0

/-! ### The parsed line -/

structure Word where
  start : Nat
  length : Nat
  deriving DecidableEq

/-- A command; its storage is that of the line. -/
structure Command where
  words : List Word := []
  deriving DecidableEq

inductive ConditionalOperator where
  | always | andIf | orIf
  deriving DecidableEq, Repr

structure Pipeline where
  stages : List Command := []
  deriving DecidableEq

structure ConditionalCommand where
  operator : ConditionalOperator := .always
  pipeline : Pipeline := {}
  deriving DecidableEq

structure ConditionalList where
  commands : List ConditionalCommand := []
  deriving DecidableEq

structure CommandLine where
  storage : Bytes
  lists : List ConditionalList := []
  background : Bool := false
  deriving DecidableEq

def Word.slice (storage : Bytes) (word : Word) : Bytes :=
  (storage.drop word.start).take word.length

def Command.slices (storage : Bytes) (command : Command) : List Bytes :=
  command.words.map (Word.slice storage)

/-! ### What words mean -/

def isBuiltin (name : Bytes) : Bool :=
  (["help", "echo", "pwd", "cd", "ls", "cat", "cp", "write", "append", "mkdir", "rm", "rmdir", "mv",
    "chmod", "sync", "pid", "status", "fg", "bg", "run", "shutdown", "exit"].map bytesOf).contains name

def isNameByte (byte : UInt8) (index : Nat) : Bool :=
  (0x61 ≤ byte && byte ≤ 0x7A) || (0x41 ≤ byte && byte ≤ 0x5A) || byte == underscore ||
    (index != 0 && 0x30 ≤ byte && byte ≤ 0x39)

def assignmentNameLength (value : Bytes) : Option Nat := do
  let nameLength ← value.idxOf? equals
  if nameLength = 0 then none
  else if ((value.take nameLength).zipIdx.all fun pair => isNameByte pair.1 pair.2) then
    some nameLength
  else none

/-- The program between `$(` and `)`. -/
def substitutionProgram (word : Bytes) : Option Bytes :=
  if word.length < 4 ∨ byteAt word 0 ≠ dollar ∨ byteAt word 1 ≠ openParenthesis ∨
      byteAt word (word.length - 1) ≠ closeParenthesis then
    none
  else
    let program := (word.drop 2).take (word.length - 3)
    if program = [] ∨ openParenthesis ∈ program ∨ closeParenthesis ∈ program then none
    else some program

def commandHasExpansion (words : List Bytes) : Bool :=
  words.any fun value =>
    (substitutionProgram value).isSome || value.contains star || byteAt value 0 == tilde

/-- Whether a pipeline may run a command: it is neither part of the shell nor an
assignment, and nothing of it is expanded. -/
def isExternal (words : List Bytes) : Bool :=
  !(isBuiltin (words.headD []) || (assignmentNameLength (words.headD [])).isSome ||
    commandHasExpansion words)

/-! ### Commands -/

def segmentHasContent (storage : Bytes) (segmentStart segmentEnd : Nat) : Bool :=
  ((storage.take segmentEnd).drop segmentStart).any fun byte => !isSpace byte

/-- Zero the spaces at an index; what remains of the segment is counted along. -/
def skipSpaces (storage : Bytes) (index : Nat) : Nat → Bytes × Nat × Nat
  | 0 => (storage, index, 0)
  | remaining + 1 =>
    if isSpace (byteAt storage index) then skipSpaces (storage.set index 0) (index + 1) remaining
    else (storage, index, remaining + 1)

/-- The end of the word at an index, and what remains of the segment there. -/
def skipWord (storage : Bytes) (index : Nat) : Nat → Nat × Nat
  | 0 => (index, 0)
  | remaining + 1 =>
    if isSpace (byteAt storage index) then (index, remaining + 1)
    else skipWord storage (index + 1) remaining

/-- The loop over the words of a segment. -/
def scanWords (words : List Word) (storage : Bytes) (index remaining : Nat) :
    Nat → Option (Bytes × Command)
  | 0 => some (storage, { words })
  | rounds + 1 =>
    if remaining = 0 then some (storage, { words })
    else
      let (storage, start, remaining) := skipSpaces storage index remaining
      if remaining = 0 then some (storage, { words })
      else if words.length = maximumWords then none
      else
        let (index, remaining) := skipWord storage start remaining
        let words := words ++ [{ start, length := index - start }]
        if remaining = 0 then scanWords words storage index 0 rounds
        else scanWords words (storage.set index 0) (index + 1) (remaining - 1) rounds

def parseCommandSegment (storage : Bytes) (segmentStart segmentEnd : Nat) :
    Option (Bytes × Command) := do
  let (storage, command) ←
    scanWords [] storage segmentStart (segmentEnd - segmentStart) (segmentEnd - segmentStart)
  if command.words = [] then none else some (storage, command)

/-! ### Pipelines -/

/-- The loop over the bars of a segment, with the command that ends it. -/
def scanStages (stages : List Command) (storage : Bytes) (stageStart scan : Nat) :
    Nat → Option (Bytes × Pipeline)
  | 0 => do
    let (storage, command) ← parseCommandSegment storage stageStart scan
    some (storage, { stages := stages ++ [command] })
  | remaining + 1 =>
    if byteAt storage scan ≠ bar then scanStages stages storage stageStart (scan + 1) remaining
    else if maximumPipelineStages - 1 ≤ stages.length then none
    else do
      let (storage, command) ← parseCommandSegment (storage.set scan 0) stageStart scan
      scanStages (stages ++ [command]) storage (scan + 1) (scan + 1) remaining

def parsePipelineSegment (storage : Bytes) (segmentStart segmentEnd : Nat) :
    Option (Bytes × Pipeline) :=
  if segmentHasContent storage segmentStart segmentEnd = false then none
  else scanStages [] storage segmentStart segmentStart (segmentEnd - segmentStart)

/-! ### Conditional lists -/

def operatorAt (storage : Bytes) (scan : Nat) : Option ConditionalOperator :=
  if byteAt storage scan = ampersand ∧ byteAt storage (scan + 1) = ampersand then some .andIf
  else if byteAt storage scan = bar ∧ byteAt storage (scan + 1) = bar then some .orIf
  else none

def finishConditionals (commands : List ConditionalCommand) (operator : ConditionalOperator)
    (storage : Bytes) (commandStart segmentEnd : Nat) : Option (Bytes × ConditionalList) := do
  let (storage, pipeline) ← parsePipelineSegment storage commandStart segmentEnd
  some (storage, { commands := commands ++ [{ operator, pipeline }] })

/-- The loop over the operators of a list; the byte before its end is never looked at. -/
def scanConditionals (commands : List ConditionalCommand) (nextOperator : ConditionalOperator)
    (storage : Bytes) (commandStart scan : Nat) : Nat → Option (Bytes × ConditionalList)
  | 0 => finishConditionals commands nextOperator storage commandStart scan
  | 1 => finishConditionals commands nextOperator storage commandStart (scan + 1)
  | remaining + 2 =>
    match operatorAt storage scan with
    | none =>
      if byteAt storage scan = ampersand then none
      else scanConditionals commands nextOperator storage commandStart (scan + 1) (remaining + 1)
    | some operator =>
      if maximumConditionalCommands - 1 ≤ commands.length then none
      else do
        let (storage, pipeline) ←
          parsePipelineSegment ((storage.set scan 0).set (scan + 1) 0) commandStart scan
        scanConditionals (commands ++ [{ operator := nextOperator, pipeline }]) operator storage
          (scan + 2) (scan + 2) remaining

def parseConditionalList (storage : Bytes) (segmentStart segmentEnd : Nat) :
    Option (Bytes × ConditionalList) :=
  if segmentHasContent storage segmentStart segmentEnd = false then none
  else scanConditionals [] .always storage segmentStart segmentStart (segmentEnd - segmentStart)

/-! ### Lines -/

def validBackgroundList (storage : Bytes) (list : ConditionalList) : Bool :=
  match list.commands with
  | [{ operator := .always, pipeline }] =>
    pipeline.stages.all fun stage => isExternal (stage.slices storage)
  | _ => false

/-- The loop over the semicolons of a line, with the list that follows the last one. -/
def scanLists (lists : List ConditionalList) (storage : Bytes) (segmentStart scan : Nat) :
    Nat → Option (Bytes × List ConditionalList)
  | 0 =>
    if segmentHasContent storage segmentStart scan then
      if lists.length = maximumSequentialLists then none
      else do
        let (storage, list) ← parseConditionalList storage segmentStart scan
        some (storage, lists ++ [list])
    else if lists = [] then none
    else some (storage, lists)
  | remaining + 1 =>
    if byteAt storage scan ≠ semicolon then scanLists lists storage segmentStart (scan + 1) remaining
    else if lists.length = maximumSequentialLists then none
    else do
      let (storage, list) ← parseConditionalList (storage.set scan 0) segmentStart scan
      scanLists (lists ++ [list]) storage (scan + 1) (scan + 1) remaining

def parseLists (storage : Bytes) (ending : Nat) (background : Bool) : Option CommandLine := do
  let (storage, lists) ← scanLists [] storage 0 0 ending
  if background && !(lists.getLast?.any (validBackgroundList storage)) then none
  else some { storage, lists, background }

/-- The length without the bytes at the end that are dropped. -/
def trimEnd (drops : UInt8 → Bool) (storage : Bytes) : Nat → Nat
  | 0 => 0
  | length + 1 => if drops (byteAt storage length) then trimEnd drops storage length else length + 1

/-- Whether a single ampersand ends the line. -/
def endsInBackground (storage : Bytes) (ending : Nat) : Bool :=
  ending != 0 && byteAt storage (ending - 1) == ampersand &&
    (ending == 1 || byteAt storage (ending - 2) != ampersand)

/-- Read a line; the command line of the callers is a fresh one that holds its bytes. -/
def parseCommandLine (storage : Bytes) (received : Nat) : Option CommandLine :=
  let length := trimEnd isLineEnd storage (min received maximumLine)
  let storage := storage.set length 0
  if segmentHasContent storage 0 length = false then some { storage }
  else
    let ending := trimEnd isSpace storage length
    if endsInBackground storage ending then
      let storage := storage.set (ending - 1) 0
      if segmentHasContent storage 0 (ending - 1) = false then none
      else parseLists storage (ending - 1) true
    else parseLists storage ending false

end ZigOs.Shell
