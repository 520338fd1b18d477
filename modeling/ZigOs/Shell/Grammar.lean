/-
This file states the language of the user shell: its tokens, its syntax and which
sequences of tokens are lines. Nothing here follows the scanners of the shell.
The slack reading of the tokens differs from the plain one in one place: a single
ampersand directly before a semicolon or the end belongs to the word before it.
-/

import ZigOs.Shell.Parser

namespace ZigOs.Shell

/-! ### Tokens -/

inductive Token where
  | word (bytes : Bytes)
  | semicolon | bar | orIf | ampersand | andIf
  deriving DecidableEq

/-- What was read but is not a token yet: a word, a bar or an ampersand that may turn out
to be doubled, the ampersand with the word it stands behind. -/
inductive Pending where
  | word (bytes : Bytes)
  | bar
  | ampersand (word : Bytes)
  deriving DecidableEq

def wordToken (bytes : Bytes) : List Token := if bytes = [] then [] else [.word bytes]

namespace Pending

def tokens : Pending → List Token
  | .word bytes => wordToken bytes
  | .bar => [.bar]
  | .ampersand bytes => wordToken bytes ++ [.ampersand]

/-- The tokens before a semicolon or the end. -/
def last (slack : Bool) : Pending → List Token
  | .ampersand bytes =>
    if slack then [.word (bytes ++ [Shell.ampersand])] else Pending.tokens (.ampersand bytes)
  | pending => pending.tokens

/-- One byte: the tokens that it ends, and what is pending behind it. -/
def step (slack : Bool) (pending : Pending) (byte : UInt8) : List Token × Pending :=
  if byte = semicolon then (pending.last slack ++ [.semicolon], .word [])
  else if byte = Shell.ampersand then
    match pending with
    | .word bytes => ([], .ampersand bytes)
    | .bar => ([.bar], .ampersand [])
    | .ampersand bytes => (wordToken bytes ++ [.andIf], .word [])
  else if byte = Shell.bar then
    match pending with
    | .bar => ([.orIf], .word [])
    | pending => (pending.tokens, .bar)
  else if isSpace byte then (pending.tokens, .word [])
  else
    match pending with
    | .word bytes => ([], .word (bytes ++ [byte]))
    | pending => (pending.tokens, .word [byte])

end Pending

/-- Read tokens from the left, operators as long as possible. -/
def tokensFrom (slack : Bool) (pending : Pending) : Bytes → List Token
  | [] => pending.last slack
  | byte :: rest =>
    (pending.step slack byte).1 ++ tokensFrom slack (pending.step slack byte).2 rest

def tokens (text : Bytes) : List Token := tokensFrom false (.word []) text

/-! ### Syntax -/

/-- Tokens of several parts with a separator between every two of them. -/
def joined (separator : Token) : List (List Token) → List Token
  | [] => []
  | [part] => part
  | part :: next :: parts => part ++ separator :: joined separator (next :: parts)

namespace Script

/-- A command is its words. -/
abbrev Command := List Bytes

abbrev Pipeline := List Command

/-- The pipelines of a list, each with the operator in front of it. -/
abbrev Conditional := List (ConditionalOperator × Pipeline)

def Command.tokens (command : Command) : List Token := command.map .word

def Pipeline.tokens (pipeline : Pipeline) : List Token := joined .bar (pipeline.map Command.tokens)

def operatorTokens : ConditionalOperator → List Token
  | .always => []
  | .andIf => [.andIf]
  | .orIf => [.orIf]

def Conditional.tokens (list : Conditional) : List Token :=
  list.flatMap fun entry => operatorTokens entry.1 ++ Pipeline.tokens entry.2

def Command.Fits (command : Command) : Prop :=
  command ≠ [] ∧ command.length ≤ maximumWords

structure Pipeline.Fits (pipeline : Pipeline) : Prop where
  nonempty : pipeline ≠ []
  count : pipeline.length ≤ maximumPipelineStages
  commands : ∀ command ∈ pipeline, Command.Fits command

/-- The first pipeline of a list is run always, the others depending on an operator. -/
structure Conditional.Fits (list : Conditional) : Prop where
  first : ∃ pipeline rest, list = (.always, pipeline) :: rest ∧ ∀ entry ∈ rest, entry.1 ≠ .always
  count : list.length ≤ maximumConditionalCommands
  pipelines : ∀ entry ∈ list, Pipeline.Fits entry.2

/-- A list that may run in the background: one pipeline of external commands. -/
def Conditional.External (list : Conditional) : Prop :=
  ∃ pipeline : Pipeline, list = [(.always, pipeline)] ∧ ∀ command ∈ pipeline, isExternal command = true

end Script

/-- What a line says: its lists, and whether the last one is to run in the background. -/
structure Script where
  lists : List Script.Conditional := []
  background : Bool := false
  deriving DecidableEq

namespace Script

def listTokens (lists : List Conditional) : List Token := joined .semicolon (lists.map Conditional.tokens)

def trailingTokens (trailing : Bool) : List Token := if trailing then [.semicolon] else []

def backgroundTokens (background : Bool) : List Token := if background then [.ampersand] else []

/-- The tokens of a script, with or without a semicolon behind its lists. -/
def tokens (script : Script) (trailing : Bool) : List Token :=
  listTokens script.lists ++ trailingTokens trailing ++ backgroundTokens script.background

structure Fits (script : Script) : Prop where
  nonempty : script.lists ≠ []
  count : script.lists.length ≤ maximumSequentialLists
  lists : ∀ list ∈ script.lists, Conditional.Fits list
  background : script.background = true → ∃ list ∈ script.lists.getLast?, Conditional.External list

/-- The text of a token. -/
def text : Token → Bytes
  | .word bytes => bytes
  | .semicolon => [Shell.semicolon]
  | .bar => [Shell.bar]
  | .orIf => [Shell.bar, Shell.bar]
  | .ampersand => [Shell.ampersand]
  | .andIf => [Shell.ampersand, Shell.ampersand]

/-- Write tokens with single spaces between them. -/
def spaced : List Token → Bytes
  | [] => []
  | [token] => text token
  | token :: next :: rest => text token ++ space :: spaced (next :: rest)

def print (script : Script) : Bytes := spaced (script.tokens false)

end Script

/-! ### Lines -/

/-- The line that was received, without the bytes that end it. -/
def receivedLine (storage : Bytes) (received : Nat) : Bytes :=
  (storage.take (min received maximumLine)).rdropWhile isLineEnd

/-- The tokens of a line whose last ampersand is no part of a word if it stands alone. -/
def slackTokens (line : Bytes) : List Token :=
  let text := line.rdropWhile isSpace
  if endsInBackground text text.length then tokensFrom true (.word []) text.dropLast ++ [.ampersand]
  else tokensFrom true (.word []) text

def ConditionalList.script (storage : Bytes) (list : ConditionalList) : Script.Conditional :=
  list.commands.map fun entry =>
    (entry.operator, entry.pipeline.stages.map (Command.slices storage))

/-- What a parsed line says. -/
def CommandLine.script (line : CommandLine) : Script :=
  { lists := line.lists.map (ConditionalList.script line.storage), background := line.background }

/-- The tokens of a line without the semicolon that may stand behind its lists. -/
def withoutTrailing (line : List Token) : List Token :=
  let lists := if line.getLast? = some .ampersand then line.dropLast else line
  (if lists.getLast? = some .semicolon then lists.dropLast else lists) ++
    (if line.getLast? = some .ampersand then [.ampersand] else [])

/-- The lines of the shell: blank ones and scripts. -/
def Sentence (line : List Token) : Prop :=
  line = [] ∨ ∃ (script : Script) (trailing : Bool), script.Fits ∧ line = script.tokens trailing

end ZigOs.Shell
