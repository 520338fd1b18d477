/-
This file models the line editor of the console: a buffer with a cursor that is
edited in place, a decoder for the escape sequences of the cursor keys, and a ring
of the lines that were submitted. Every access to a buffer is checked; `none` is an
index out of range or a length below zero.
-/

import ZigOs.Lib.Shifting
import ZigOs.RuntimeCommand.Parser

namespace ZigOs.RuntimeCommand

open Shifting

abbrev maximumHistory : Nat := 16

inductive EscapeState where
  | none | escape | bracket | deleteTilde
  deriving DecidableEq, Repr

inductive EditorEvent where
  | none | redraw | submitted (line : Bytes) | cancelled | endOfInput
  deriving DecidableEq

/-- A buffer for one line, with room for a last zero. -/
def blankLine : Bytes := List.replicate (maximumLineLength + 1) 0

structure LineEditor where
  buffer : Bytes := blankLine
  length : Nat := 0
  cursor : Nat := 0
  history : List Bytes := List.replicate maximumHistory blankLine
  historyLengths : List Nat := List.replicate maximumHistory 0
  historyCount : Nat := 0
  historyHead : Nat := 0
  historyView : Option Nat := none
  escapeState : EscapeState := .none

namespace LineEditor

def line (editor : LineEditor) : Option Bytes := slice editor.buffer editor.length

def reset (editor : LineEditor) : LineEditor :=
  { editor with
    buffer := blankLine
    length := 0
    cursor := 0
    historyView := none
    escapeState := .none }

/-! ### Editing in place -/

def insertAtCursor (editor : LineEditor) (byte : UInt8) : Option LineEditor := do
  let shifted ← shiftUp editor.buffer editor.cursor editor.length
  let buffer ← write shifted editor.cursor byte
  pure { editor with
    buffer := buffer
    cursor := editor.cursor + 1
    length := editor.length + 1 }

def deleteAtCursor (editor : LineEditor) : Option LineEditor := do
  let shifted ← shiftDown editor.buffer editor.cursor (editor.length - 1 - editor.cursor)
  if editor.length = 0 then none
  else
    let buffer ← write shifted (editor.length - 1) 0
    pure { editor with
      buffer := buffer
      length := editor.length - 1 }

/-! ### The history -/

/-- A line at the beginning of a cleared buffer. -/
def copied (value : Bytes) : Option Bytes :=
  if value.length ≤ blankLine.length then
    some (value ++ List.replicate (blankLine.length - value.length) 0)
  else none

/-- The line a cell of the ring holds. -/
def cell (editor : LineEditor) (index : Nat) : Option Bytes := do
  let bytes ← editor.history[index]?
  let length ← editor.historyLengths[index]?
  slice bytes length

/-- The latest line of the ring is this one. -/
def repeats (editor : LineEditor) (value : Bytes) : Option Bool :=
  if editor.historyCount > 0 then do
    let latest ← editor.cell ((editor.historyHead + maximumHistory - 1) % maximumHistory)
    pure (latest == value)
  else pure false

/-- A line equal to the latest one is not stored again. -/
def pushHistory (editor : LineEditor) (value : Bytes) : Option LineEditor :=
  if value.length = 0 then some editor
  else do
    let stored ← editor.repeats value
    if stored then pure editor
    else
      let bytes ← copied value
      let history ← write editor.history editor.historyHead bytes
      let historyLengths ← write editor.historyLengths editor.historyHead value.length
      pure { editor with
        history := history
        historyLengths := historyLengths
        historyHead := (editor.historyHead + 1) % maximumHistory
        historyCount := min (editor.historyCount + 1) maximumHistory
        historyView := none }

/-- Show a line of the ring, counted from the oldest one. -/
def loadHistory (editor : LineEditor) (logicalIndex : Nat) : Option LineEditor :=
  if editor.historyHead + maximumHistory < editor.historyCount then none
  else do
    let oldest := (editor.historyHead + maximumHistory - editor.historyCount) % maximumHistory
    let value ← editor.cell ((oldest + logicalIndex) % maximumHistory)
    let buffer ← copied value
    pure { editor with
      buffer := buffer
      length := value.length
      cursor := value.length }

def historyPrevious (editor : LineEditor) : Option LineEditor :=
  if editor.historyCount = 0 then some editor
  else
    let current := editor.historyView.getD editor.historyCount
    if current = 0 then some editor
    else { editor with historyView := some (current - 1) }.loadHistory (current - 1)

def historyNext (editor : LineEditor) : Option LineEditor :=
  match editor.historyView with
  | none => some editor
  | some current =>
    if current + 1 ≥ editor.historyCount then some editor.reset
    else { editor with historyView := some (current + 1) }.loadHistory (current + 1)

/-! ### Keys -/

/-- The last byte of a cursor key. -/
def feedBracket (editor : LineEditor) (byte : UInt8) : Option (EditorEvent × LineEditor) :=
  if byte = 0x41 then do
    let after ← editor.historyPrevious
    pure (.redraw, after)
  else if byte = 0x42 then do
    let after ← editor.historyNext
    pure (.redraw, after)
  else if byte = 0x43 then
    some (.redraw,
      if editor.cursor < editor.length then { editor with cursor := editor.cursor + 1 } else editor)
  else if byte = 0x44 then
    some (.redraw, if editor.cursor > 0 then { editor with cursor := editor.cursor - 1 } else editor)
  else if byte = 0x48 then some (.redraw, { editor with cursor := 0 })
  else if byte = 0x46 then some (.redraw, { editor with cursor := editor.length })
  else if byte = 0x33 then some (.none, { editor with escapeState := .deleteTilde })
  else some (.none, editor)

/-- A byte inside an escape sequence; outside one the source cannot get here. -/
def feedEscape (editor : LineEditor) (byte : UInt8) : Option (EditorEvent × LineEditor) :=
  match editor.escapeState with
  | .escape =>
    some (.none, { editor with escapeState := if byte = 0x5B then .bracket else .none })
  | .bracket => { editor with escapeState := .none }.feedBracket byte
  | .deleteTilde =>
    if byte = 0x7E ∧ editor.cursor < editor.length then do
      let after ← { editor with escapeState := .none }.deleteAtCursor
      pure (.redraw, after)
    else some (.none, { editor with escapeState := .none })
  | .none => none

def feed (editor : LineEditor) (byte : UInt8) : Option (EditorEvent × LineEditor) :=
  if editor.escapeState ≠ .none then editor.feedEscape byte
  else if byte = 0x1B then some (.none, { editor with escapeState := .escape })
  else if byte = 0x0D ∨ byte = 0x0A then
    if editor.length = 0 then some (.submitted [], editor)
    else do
      let line ← editor.line
      let after ← editor.pushHistory line
      pure (.submitted line, after)
  else if byte = 0x03 then some (.cancelled, editor.reset)
  else if byte = 0x04 then
    if editor.length = 0 then some (.endOfInput, editor)
    else if editor.cursor < editor.length then do
      let after ← editor.deleteAtCursor
      pure (.redraw, after)
    else some (.redraw, editor)
  else if byte = 0x08 ∨ byte = 0x7F then
    if editor.cursor = 0 then some (.none, editor)
    else do
      let after ← { editor with cursor := editor.cursor - 1 }.deleteAtCursor
      pure (.redraw, after)
  else if byte = 0x15 then some (.redraw, editor.reset)
  else if byte = 0x01 then some (.redraw, { editor with cursor := 0 })
  else if byte = 0x05 then some (.redraw, { editor with cursor := editor.length })
  else if 0x20 ≤ byte ∧ byte ≤ 0x7E then
    if editor.length ≥ maximumLineLength then some (.none, editor)
    else do
      let after ← editor.insertAtCursor byte
      pure (.redraw, after)
  else some (.none, editor)

/-- The console resets the editor after each submitted line. -/
def next (editor : LineEditor) (byte : UInt8) : Option (EditorEvent × LineEditor) := do
  let (event, after) ← editor.feed byte
  match event with
  | .submitted _ => pure (event, after.reset)
  | _ => pure (event, after)

/-- What a stream of bytes does, with what the editor reports for each. -/
def run (editor : LineEditor) : Bytes → Option (List EditorEvent × LineEditor)
  | [] => some ([], editor)
  | byte :: rest => do
    let (event, after) ← editor.next byte
    let (events, last) ← run after rest
    pure (event :: events, last)

end LineEditor

end ZigOs.RuntimeCommand
