/-
This file models how the console reads a command line: one scan over the bytes
that unquotes words, expands variables, skips a comment and splits the line into
the stages of a pipeline with at most one input and one output. The scanner is the
source's loop: its state is explicit and one step handles one byte, or a whole
variable.
-/

import ZigOs.Lib.Outcome
import ZigOs.Error

namespace ZigOs.RuntimeCommand

abbrev maximumLineLength : Nat := 256
abbrev maximumTokenLength : Nat := 63
abbrev maximumArguments : Nat := 12
abbrev maximumPipelineStages : Nat := 4

inductive Error where
  | emptyCommand | tooLong | tooManyArguments | tooManyStages | unterminatedQuote | danglingEscape
  | missingRedirectionTarget | duplicateRedirection | invalidBackgroundPlacement | invalidPipeline
  | invalidVariableName | environmentFull | variableValueTooLong
  deriving DecidableEq, Repr

inductive Redirection where
  | none | input | output | append
  deriving DecidableEq, Repr

/-- A command with its arguments. -/
structure Stage where
  arguments : List Bytes := []
  deriving DecidableEq

/-- A pipeline; it has a first stage from the start. -/
structure CommandLine where
  stages : List Stage := [{}]
  inputPath : Option Bytes := none
  outputPath : Option Bytes := none
  appendOutput : Bool := false
  background : Bool := false
  deriving DecidableEq

def CommandLine.stage (result : CommandLine) (index : Nat) : Stage :=
  (result.stages[index]?).getD {}

structure EnvironmentEntry where
  used : Bool := false
  key : Bytes := []
  value : Bytes := []
  deriving DecidableEq

structure Environment where
  entries : List EnvironmentEntry := []
  deriving DecidableEq

def Environment.get (environment : Environment) (key : Bytes) : Option Bytes :=
  (environment.entries.find? fun entry => entry.used && entry.key == key).map (·.value)

/-! ### Bytes -/

abbrev space : UInt8 := 0x20
abbrev tab : UInt8 := 0x09
abbrev doubleQuote : UInt8 := 0x22
abbrev hash : UInt8 := 0x23
abbrev dollar : UInt8 := 0x24
abbrev ampersand : UInt8 := 0x26
abbrev singleQuote : UInt8 := 0x27
abbrev less : UInt8 := 0x3C
abbrev greater : UInt8 := 0x3E
abbrev backslash : UInt8 := 0x5C
abbrev underscore : UInt8 := 0x5F
abbrev openBrace : UInt8 := 0x7B
abbrev bar : UInt8 := 0x7C
abbrev closeBrace : UInt8 := 0x7D

def isAlphabetic (byte : UInt8) : Bool :=
  (0x41 ≤ byte && byte ≤ 0x5A) || (0x61 ≤ byte && byte ≤ 0x7A)

def isAlphanumeric (byte : UInt8) : Bool :=
  isAlphabetic byte || (0x30 ≤ byte && byte ≤ 0x39)

def isNameByte (byte : UInt8) : Bool := isAlphanumeric byte || byte == underscore

def validVariableName (key : Bytes) : Bool :=
  match key with
  | [] => false
  | first :: rest =>
    decide (key.length ≤ maximumTokenLength) && (isAlphabetic first || first == underscore) &&
      rest.all isNameByte

def isBlank (byte : UInt8) : Bool := byte == space || byte == tab

def isOperator (byte : UInt8) : Bool :=
  byte == bar || byte == less || byte == greater || byte == ampersand

/-! ### Words -/

def appendByte (output : Bytes) (value : UInt8) : Except Error Bytes :=
  if output.length ≥ maximumTokenLength then .error .tooLong else .ok (output ++ [value])

/-- Append the bytes of a value one by one. -/
def appendValue (output : Bytes) : Bytes → Except Error Bytes
  | [] => .ok output
  | byte :: rest => do
    let longer ← appendByte output byte
    appendValue longer rest

/-- The name after a dollar sign and the index of its last byte, a closing brace included. -/
def variableName (text : Bytes) (dollarIndex : Nat) : Except Error (Option (Bytes × Nat)) :=
  if text[dollarIndex + 1]? = some openBrace then
    let name := (text.drop (dollarIndex + 2)).takeWhile (· != closeBrace)
    if dollarIndex + 2 + name.length ≥ text.length then .error .invalidVariableName
    else if name = [] then .ok none
    else .ok (some (name, dollarIndex + 2 + name.length))
  else
    let name := (text.drop (dollarIndex + 1)).takeWhile isNameByte
    if name = [] then .ok none else .ok (some (name, dollarIndex + name.length))

/-- Append the value of a variable. A dollar sign that no name follows stands for itself. -/
def expandVariable (text : Bytes) (dollarIndex : Nat) (environment : Environment)
    (output : Bytes) : Except Error (Nat × Bytes) := do
  match ← variableName text dollarIndex with
  | none =>
    let longer ← appendByte output dollar
    pure (dollarIndex, longer)
  | some (key, last) =>
    if validVariableName key = false then .error .invalidVariableName
    else
      let longer ← appendValue output ((environment.get key).getD [])
      pure (last, longer)

/-- A token of the source holds what fits its buffer. -/
def setToken (value : Bytes) : Except Error Bytes :=
  if value.length > maximumTokenLength then .error .tooLong else .ok value

def Stage.push (stage : Stage) (value : Bytes) : Except Error Stage :=
  if stage.arguments.length ≥ maximumArguments then .error .tooManyArguments
  else do
    let token ← setToken value
    pure { stage with arguments := stage.arguments ++ [token] }

/-- A word is the path of a redirection that waits for one, and else the next argument. -/
def commitToken (result : CommandLine) (stageIndex : Nat) (value : Bytes)
    (expectation : Redirection) : Except Error CommandLine :=
  match expectation with
  | .input => do
    let token ← setToken value
    pure { result with inputPath := some token }
  | .output => do
    let token ← setToken value
    pure { result with outputPath := some token, appendOutput := false }
  | .append => do
    let token ← setToken value
    pure { result with outputPath := some token, appendOutput := true }
  | .none => do
    let stage ← (result.stage stageIndex).push value
    pure { result with stages := result.stages.set stageIndex stage }

/-! ### The scanner -/

structure Scanner where
  result : CommandLine := {}
  stageIndex : Nat := 0
  index : Nat := 0
  token : Bytes := []
  quote : UInt8 := 0
  escaped : Bool := false
  tokenStarted : Bool := false
  expectRedirection : Redirection := .none
  deriving DecidableEq

namespace Scanner

/-- Take a byte into the word that is being read. -/
def take (scanner : Scanner) (byte : UInt8) : Except Error Scanner := do
  let token ← appendByte scanner.token byte
  pure { scanner with token := token, tokenStarted := true }

def expand (scanner : Scanner) (text : Bytes) (environment : Environment) :
    Except Error Scanner := do
  let (index, token) ← expandVariable text scanner.index environment scanner.token
  pure { scanner with index := index, token := token, tokenStarted := true }

/-- End the word that is being read. -/
def finishToken (scanner : Scanner) : Except Error Scanner :=
  if scanner.tokenStarted then do
    let result ← commitToken scanner.result scanner.stageIndex scanner.token
      scanner.expectRedirection
    pure { scanner with
      result := result
      token := []
      tokenStarted := false
      expectRedirection := .none }
  else pure scanner

/-- The loop ends with this step. -/
def stop (scanner : Scanner) (text : Bytes) : Scanner := { scanner with index := text.length }

def openStage (scanner : Scanner) : Except Error Scanner :=
  if scanner.expectRedirection ≠ .none ∨
      (scanner.result.stage scanner.stageIndex).arguments.length = 0 then
    .error .invalidPipeline
  else if scanner.stageIndex + 1 ≥ maximumPipelineStages then .error .tooManyStages
  else .ok { scanner with
    stageIndex := scanner.stageIndex + 1
    result := { scanner.result with stages := scanner.result.stages ++ [{}] } }

def redirectInput (scanner : Scanner) : Except Error Scanner :=
  if scanner.expectRedirection ≠ .none ∨ scanner.result.inputPath.isSome then
    .error .duplicateRedirection
  else .ok { scanner with expectRedirection := .input }

def redirectOutput (scanner : Scanner) (text : Bytes) : Except Error Scanner :=
  if scanner.expectRedirection ≠ .none ∨ scanner.result.outputPath.isSome then
    .error .duplicateRedirection
  else if text[scanner.index + 1]? = some greater then
    .ok { scanner with expectRedirection := .append, index := scanner.index + 1 }
  else .ok { scanner with expectRedirection := .output }

/-- Only blanks and a comment may follow. -/
def runInBackground (scanner : Scanner) (text : Bytes) : Except Error Scanner :=
  match ((text.drop (scanner.index + 1)).dropWhile isBlank).head? with
  | none => .ok ({ scanner with result := { scanner.result with background := true } }.stop text)
  | some byte =>
    if byte ≠ hash then .error .invalidBackgroundPlacement
    else .ok ({ scanner with result := { scanner.result with background := true } }.stop text)

def operate (scanner : Scanner) (text : Bytes) (character : UInt8) : Except Error Scanner :=
  if character = bar then scanner.openStage
  else if character = less then scanner.redirectInput
  else if character = greater then scanner.redirectOutput text
  else scanner.runInBackground text

/-- A byte inside quotes; `none` is the end of the line. -/
def scanQuoted (scanner : Scanner) (text : Bytes) (environment : Environment) :
    Option UInt8 → Except Error Scanner
  | none => .error .unterminatedQuote
  | some character =>
    if character = scanner.quote then .ok { scanner with quote := 0, tokenStarted := true }
    else if character = dollar ∧ scanner.quote = doubleQuote then scanner.expand text environment
    else scanner.take character

/-- A byte outside quotes; `none` is the end of the line. -/
def scanPlain (scanner : Scanner) (text : Bytes) (environment : Environment) :
    Option UInt8 → Except Error Scanner
  | none => (stop · text) <$> scanner.finishToken
  | some character =>
    if character = singleQuote ∨ character = doubleQuote then
      .ok { scanner with quote := character, tokenStarted := true }
    else if character = dollar then scanner.expand text environment
    else if isBlank character then scanner.finishToken
    else if character = hash then (stop · text) <$> scanner.finishToken
    else if isOperator character then do (← scanner.finishToken).operate text character
    else scanner.take character

/-- One round of the loop. -/
def step (scanner : Scanner) (text : Bytes) (environment : Environment) : Except Error Scanner :=
  let character := text[scanner.index]?
  if scanner.escaped then
    match character with
    | none => .error .danglingEscape
    | some byte => do
      let taken ← scanner.take byte
      pure { taken with escaped := false }
  else if character = some backslash ∧ scanner.quote ≠ singleQuote then
    .ok { scanner with escaped := true, tokenStarted := true }
  else if scanner.quote ≠ 0 then scanner.scanQuoted text environment character
  else scanner.scanPlain text environment character

/-- The loop runs while the index is within the line or at its end. -/
def run (text : Bytes) (environment : Environment) : Nat → Scanner → Except Error Scanner
  | 0, scanner => .ok scanner
  | fuel + 1, scanner =>
    if text.length < scanner.index then .ok scanner
    else do
      let next ← scanner.step text environment
      run text environment fuel { next with index := next.index + 1 }

/-- What is left to check when the line was read. -/
def finish (scanner : Scanner) : Except Error CommandLine :=
  if scanner.quote ≠ 0 then .error .unterminatedQuote
  else if scanner.escaped then .error .danglingEscape
  else if scanner.expectRedirection ≠ .none then .error .missingRedirectionTarget
  else if scanner.result.stages.any (·.arguments.length == 0) then .error .invalidPipeline
  else if (scanner.result.stage 0).arguments.length = 0 then .error .emptyCommand
  else .ok scanner.result

end Scanner

/-- Every round moves on by a byte at least, so one round for each byte and one for the end of the
line are enough. -/
def parse (text : Bytes) (environment : Environment) : Except Error CommandLine :=
  if text.length > maximumLineLength then .error .tooLong
  else do
    let scanner ← Scanner.run text environment (text.length + 1) {}
    scanner.finish

/-! ### Enough rounds -/

namespace Scanner

variable {scanner next : Scanner} {text : Bytes} {environment : Environment}

end Scanner

end ZigOs.RuntimeCommand
