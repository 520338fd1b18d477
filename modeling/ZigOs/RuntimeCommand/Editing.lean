/-
This file says what the line editor is for and proves that the editor does it. A
line is what stands to the left and to the right of the cursor; a history is the
list of the lines that were stored, and showing an older line counts back from
its end. The buffer with its cursor stands for the two halves, and the ring for the
latest lines of the history.
-/

import ZigOs.Lib.Recent
import ZigOs.RuntimeCommand.LineEditor

namespace ZigOs.RuntimeCommand

open Shifting LineEditor

/-! ### A line with a cursor and a history -/

structure Editing where
  left : Bytes := []
  right : Bytes := []
  /-- Every line that was stored, the oldest first. -/
  stored : List Bytes := []
  /-- How many lines back the shown one is; zero for a line of one's own. -/
  back : Nat := 0
  escapeState : EscapeState := .none
  deriving DecidableEq

/-- Store a line that is not empty and not equal to the latest one. -/
def remember (stored : List Bytes) (line : Bytes) : List Bytes :=
  if line = [] ∨ stored.getLast? = some line then stored else stored ++ [line]

/-- How many lines can be shown. -/
def shownLines (stored : List Bytes) : Nat := min stored.length maximumHistory

/-- The line that is so many places back, the latest one being the first. -/
def recentLine (stored : List Bytes) (back : Nat) : Bytes := (stored.reverse[back - 1]?).getD []

namespace Editing

def text (editing : Editing) : Bytes := editing.left ++ editing.right

/-- A full line takes no more bytes. -/
def insert (editing : Editing) (byte : UInt8) : Editing :=
  if editing.text.length ≥ maximumLineLength then editing
  else { editing with left := editing.left ++ [byte] }

def backspace (editing : Editing) : Editing := { editing with left := editing.left.dropLast }

def delete (editing : Editing) : Editing := { editing with right := editing.right.tail }

/-- Give up the line. -/
def kill (editing : Editing) : Editing :=
  { editing with left := [], right := [], back := 0, escapeState := .none }

def toBeginning (editing : Editing) : Editing :=
  { editing with left := [], right := editing.text }

def toEnd (editing : Editing) : Editing := { editing with left := editing.text, right := [] }

def toLeft (editing : Editing) : Editing :=
  { editing with
    left := editing.left.dropLast
    right := editing.left.getLast?.toList ++ editing.right }

def toRight (editing : Editing) : Editing :=
  { editing with
    left := editing.left ++ editing.right.head?.toList
    right := editing.right.tail }

def showLine (editing : Editing) (back : Nat) : Editing :=
  { editing with left := recentLine editing.stored back, right := [], back := back }

def older (editing : Editing) : Editing :=
  if editing.back < shownLines editing.stored then editing.showLine (editing.back + 1) else editing

def newer (editing : Editing) : Editing :=
  if editing.back = 0 then editing
  else if editing.back = 1 then editing.kill
  else editing.showLine (editing.back - 1)

def feedBracket (editing : Editing) (byte : UInt8) : EditorEvent × Editing :=
  if byte = 0x41 then (.redraw, editing.older)
  else if byte = 0x42 then (.redraw, editing.newer)
  else if byte = 0x43 then (.redraw, editing.toRight)
  else if byte = 0x44 then (.redraw, editing.toLeft)
  else if byte = 0x48 then (.redraw, editing.toBeginning)
  else if byte = 0x46 then (.redraw, editing.toEnd)
  else if byte = 0x33 then (.none, { editing with escapeState := .deleteTilde })
  else (.none, editing)

def feedEscape (editing : Editing) (byte : UInt8) : EditorEvent × Editing :=
  match editing.escapeState with
  | .escape => (.none, { editing with escapeState := if byte = 0x5B then .bracket else .none })
  | .bracket => { editing with escapeState := .none }.feedBracket byte
  | _ =>
    (if byte = 0x7E ∧ editing.right ≠ [] then .redraw else .none,
      let idle := { editing with escapeState := .none }
      if byte = 0x7E then idle.delete else idle)

def feed (editing : Editing) (byte : UInt8) : EditorEvent × Editing :=
  if editing.escapeState ≠ .none then editing.feedEscape byte
  else if byte = 0x1B then (.none, { editing with escapeState := .escape })
  else if byte = 0x0D ∨ byte = 0x0A then
    (.submitted editing.text,
      { editing with stored := remember editing.stored editing.text }.kill)
  else if byte = 0x03 then (.cancelled, editing.kill)
  else if byte = 0x04 then
    (if editing.text = [] then .endOfInput else .redraw, editing.delete)
  else if byte = 0x08 ∨ byte = 0x7F then
    (if editing.left = [] then .none else .redraw, editing.backspace)
  else if byte = 0x15 then (.redraw, editing.kill)
  else if byte = 0x01 then (.redraw, editing.toBeginning)
  else if byte = 0x05 then (.redraw, editing.toEnd)
  else if 0x20 ≤ byte ∧ byte ≤ 0x7E then
    (if editing.text.length ≥ maximumLineLength then .none else .redraw, editing.insert byte)
  else (.none, editing)

def run (editing : Editing) : Bytes → List EditorEvent × Editing
  | [] => ([], editing)
  | byte :: rest =>
    let (event, after) := editing.feed byte
    let (events, last) := run after rest
    (event :: events, last)

end Editing

/-! ### What the editor holds -/

/-- The buffer holds the line, and the cursor stands between its halves. -/
structure HoldsLine (editor : LineEditor) (left right : Bytes) : Prop where
  size : editor.buffer.length = maximumLineLength + 1
  contents : ∃ rest, editor.buffer = left ++ right ++ rest
  length : editor.length = left.length + right.length
  cursor : editor.cursor = left.length
  bounded : editor.length ≤ maximumLineLength

/-- The ring holds the latest of the stored lines. -/
structure HoldsHistory (editor : LineEditor) (stored : List Bytes) : Prop where
  cells : editor.history.length = maximumHistory
  lengths : editor.historyLengths.length = maximumHistory
  count : editor.historyCount = shownLines stored
  head : editor.historyHead = stored.length % maximumHistory
  recent : Recent.Retains maximumHistory editor.cell stored
  short : ∀ line ∈ stored, line.length ≤ maximumLineLength

/-- The view of an older line counts from the oldest one that is kept. -/
def HoldsView (editor : LineEditor) (shown back : Nat) : Prop :=
  back ≤ shown ∧ editor.historyView = if back = 0 then none else some (shown - back)

structure Represents (editor : LineEditor) (editing : Editing) : Prop where
  line : HoldsLine editor editing.left editing.right
  history : HoldsHistory editor editing.stored
  view : HoldsView editor (shownLines editing.stored) editing.back
  escapeState : editor.escapeState = editing.escapeState

variable {editor : LineEditor} {editing : Editing} {left right : Bytes} {stored : List Bytes}

/-! ### The line -/

theorem HoldsLine.text (holds : HoldsLine editor left right) :
    editor.line = some (left ++ right) := by
  obtain ⟨rest, contents⟩ := holds.contents
  unfold LineEditor.line
  rw [contents, holds.length, ← List.length_append]
  exact slice_append _ _

theorem blankLine_length : blankLine.length = maximumLineLength + 1 := List.length_replicate

theorem holdsLine_blank {editor : LineEditor} (buffer : editor.buffer = blankLine)
    (length : editor.length = 0) (cursor : editor.cursor = 0) : HoldsLine editor [] [] where
  size := by rw [buffer, blankLine_length]
  contents := ⟨_, (List.nil_append _).symm⟩
  length := length
  cursor := cursor
  bounded := by
    rw [length]
    exact Nat.zero_le _

/-- The same buffer with the cursor elsewhere. -/
theorem HoldsLine.move (holds : HoldsLine editor left right) {other : LineEditor}
    {left' right' : Bytes} (same : left' ++ right' = left ++ right)
    (buffer : other.buffer = editor.buffer) (length : other.length = editor.length)
    (cursor : other.cursor = left'.length) : HoldsLine other left' right' where
  size := buffer ▸ holds.size
  contents := by
    rw [buffer, same]
    exact holds.contents
  length := by
    rw [length, holds.length, ← List.length_append, ← List.length_append, same]
  cursor := cursor
  bounded := length ▸ holds.bounded

theorem HoldsLine.insert (holds : HoldsLine editor left right) (byte : UInt8)
    (room : editor.length < maximumLineLength) :
    ∃ buffer, editor.insertAtCursor byte = some { editor with
        buffer := buffer
        cursor := editor.cursor + 1
        length := editor.length + 1 } ∧
      HoldsLine { editor with
        buffer := buffer
        cursor := editor.cursor + 1
        length := editor.length + 1 } (left ++ [byte]) right := by
  obtain ⟨rest, contents⟩ := holds.contents
  have size := holds.size
  rw [contents, List.length_append, List.length_append, ← holds.length] at size
  obtain ⟨free, others, rfl⟩ : ∃ free others, rest = free :: others :=
    List.exists_cons_of_length_pos (by omega)
  obtain ⟨gap, shifted⟩ := shiftUp_append left right others free
  refine ⟨left ++ byte :: right ++ others, ?_, ?_⟩
  · unfold insertAtCursor
    rw [contents, holds.cursor, holds.length, shifted]
    show (do
      let buffer ← write (left ++ gap :: right ++ others) left.length byte
      pure _) = _
    rw [List.append_assoc, List.cons_append, write_append]
    simp
  · exact {
      size := by
        have whole := holds.size
        rw [contents] at whole
        simp only [List.length_append, List.length_cons] at whole ⊢
        omega
      contents := ⟨others, by simp⟩
      length := by
        rw [holds.length]
        simp
        omega
      cursor := by
        rw [holds.cursor]
        simp
      bounded := room }

theorem HoldsLine.delete {byte : UInt8} (holds : HoldsLine editor left (byte :: right)) :
    ∃ buffer, editor.deleteAtCursor = some { editor with
        buffer := buffer
        length := editor.length - 1 } ∧
      HoldsLine { editor with
        buffer := buffer
        length := editor.length - 1 } left right := by
  obtain ⟨rest, contents⟩ := holds.contents
  have length := holds.length
  rw [List.length_cons] at length
  obtain ⟨gap, shifted⟩ := shiftDown_append left right rest byte
  refine ⟨left ++ right ++ 0 :: rest, ?_, ?_⟩
  · unfold deleteAtCursor
    rw [contents, holds.cursor, length, show left.length + (right.length + 1) - 1 - left.length =
      right.length by omega, shifted]
    show (if left.length + (right.length + 1) = 0 then none
      else do
        let buffer ← write (left ++ right ++ gap :: rest) (left.length + (right.length + 1) - 1) 0
        pure _) = _
    rw [if_neg (by omega), show left.length + (right.length + 1) - 1 = (left ++ right).length by
      rw [List.length_append]
      omega, write_append]
    rfl
  · exact {
      size := by
        have whole := holds.size
        rw [contents] at whole
        simp only [List.length_append, List.length_cons] at whole ⊢
        omega
      contents := ⟨0 :: rest, rfl⟩
      length := by
        show editor.length - 1 = _
        omega
      cursor := holds.cursor
      bounded := (Nat.sub_le _ _).trans holds.bounded }

/-! ### The history -/

theorem HoldsHistory.keep (holds : HoldsHistory editor stored) {other : LineEditor}
    (history : other.history = editor.history)
    (historyLengths : other.historyLengths = editor.historyLengths)
    (historyCount : other.historyCount = editor.historyCount)
    (historyHead : other.historyHead = editor.historyHead) : HoldsHistory other stored where
  cells := history ▸ holds.cells
  lengths := historyLengths ▸ holds.lengths
  count := historyCount.trans holds.count
  head := historyHead.trans holds.head
  recent := by
    have same : other.cell = editor.cell := by
      funext index
      unfold LineEditor.cell
      rw [history, historyLengths]
    rw [same]
    exact holds.recent
  short := holds.short

theorem copied_eq {value : Bytes} (short : value.length ≤ maximumLineLength) :
    copied value =
      some (value ++ List.replicate (blankLine.length - value.length) 0) := by
  unfold copied
  rw [if_pos (by rw [blankLine_length]; omega)]

theorem shownLines_pos {line : Bytes} (last : stored.getLast? = some line) :
    0 < shownLines stored := by
  have nonempty : stored ≠ [] := by
    rintro rfl
    cases last
  exact lt_min (List.length_pos_of_ne_nil nonempty) (by decide)

/-- The latest line of the ring is the last stored one. -/
theorem HoldsHistory.repeats (holds : HoldsHistory editor stored) (line : Bytes) :
    editor.repeats line = some (decide (stored.getLast? = some line)) := by
  unfold LineEditor.repeats
  rw [holds.count, holds.head]
  cases last : stored.getLast? with
  | none =>
    rw [List.getLast?_eq_none_iff.mp last, if_neg (by decide)]
    rfl
  | some latest =>
    rw [if_pos (shownLines_pos last), holds.recent.latest (by decide) last]
    show some (latest == line) = _
    rw [beq_eq_decide]
    exact congrArg some (decide_eq_decide.mpr (Option.some_inj).symm)

/-- The editor when a line went into the next cell of the ring. -/
def LineEditor.withStored (editor : LineEditor) (line : Bytes) : LineEditor :=
  { editor with
    history := editor.history.set editor.historyHead
      (line ++ List.replicate (blankLine.length - line.length) 0)
    historyLengths := editor.historyLengths.set editor.historyHead line.length
    historyHead := (editor.historyHead + 1) % maximumHistory
    historyCount := min (editor.historyCount + 1) maximumHistory
    historyView := none }

theorem HoldsHistory.store {line : Bytes} (holds : HoldsHistory editor stored)
    (inside : editor.historyHead < maximumHistory) (short : line.length ≤ maximumLineLength) :
    HoldsHistory (editor.withStored line) (stored ++ [line]) where
  cells := by
    rw [← holds.cells]
    exact List.length_set
  lengths := by
    rw [← holds.lengths]
    exact List.length_set
  count := by
    show min (editor.historyCount + 1) maximumHistory = _
    unfold shownLines
    rw [holds.count, List.length_append, List.length_singleton]
    unfold shownLines
    omega
  head := by
    show (editor.historyHead + 1) % maximumHistory = _
    rw [holds.head, List.length_append, List.length_singleton, Nat.mod_add_mod]
  recent := by
    refine holds.recent.push ?_ fun index other => ?_
    · unfold LineEditor.cell withStored
      dsimp only
      rw [← holds.head, List.getElem?_set_self (holds.cells ▸ inside),
        List.getElem?_set_self (holds.lengths ▸ inside)]
      exact slice_append _ _
    · rw [← holds.head] at other
      unfold LineEditor.cell withStored
      dsimp only
      rw [List.getElem?_set_ne other.symm, List.getElem?_set_ne other.symm]
  short := by
    intro other member
    rcases List.mem_append.mp member with old | new
    · exact holds.short other old
    · rwa [List.mem_singleton.mp new]

/-- A line is stored behind the others, and the oldest one may go. -/
theorem HoldsHistory.push (holds : HoldsHistory editor stored) (line : Bytes)
    (short : line.length ≤ maximumLineLength) :
    ∃ after, editor.pushHistory line = some after ∧ HoldsHistory after (remember stored line) ∧
      after.buffer = editor.buffer ∧ after.length = editor.length := by
  unfold pushHistory
  obtain rfl | empty := eq_or_ne line ([])
  · refine ⟨editor, rfl, ?_, rfl, rfl⟩
    unfold remember
    rwa [if_pos (.inl rfl)]
  · rw [if_neg (by rw [List.length_eq_zero_iff]; exact empty), holds.repeats line]
    by_cases again : stored.getLast? = some line
    · refine ⟨editor, ?_, ?_, rfl, rfl⟩
      · rw [decide_eq_true again]
        rfl
      · unfold remember
        rwa [if_pos (.inr again)]
    · have headInside : editor.historyHead < maximumHistory := by
        rw [holds.head]
        exact Nat.mod_lt _ (by decide)
      have pushed : remember stored line = stored ++ [line] := by
        unfold remember
        rw [if_neg (not_or.mpr ⟨empty, again⟩)]
      refine ⟨editor.withStored line, ?_, ?_, rfl, rfl⟩
      · rw [decide_eq_false again, copied_eq short]
        show (do
          let history ← write editor.history editor.historyHead
            (line ++ List.replicate (blankLine.length - line.length) 0)
          let historyLengths ← write editor.historyLengths editor.historyHead line.length
          pure { editor with
            history := history
            historyLengths := historyLengths
            historyHead := (editor.historyHead + 1) % maximumHistory
            historyCount := min (editor.historyCount + 1) maximumHistory
            historyView := none }) = _
        rw [write_of_lt (holds.cells ▸ headInside), write_of_lt (holds.lengths ▸ headInside)]
        rfl
      · rw [pushed]
        exact holds.store headInside short

/-- A line of the ring comes back into the buffer. -/
theorem HoldsHistory.load (holds : HoldsHistory editor stored) {back : Nat} (positive : 0 < back)
    (inside : back ≤ shownLines stored) :
    ∃ buffer, editor.loadHistory (shownLines stored - back) = some { editor with
        buffer := buffer
        length := (recentLine stored back).length
        cursor := (recentLine stored back).length } ∧
      HoldsLine { editor with
        buffer := buffer
        length := (recentLine stored back).length
        cursor := (recentLine stored back).length } (recentLine stored back) [] := by
  have few : shownLines stored ≤ stored.length := min_le_left _ _
  have many : shownLines stored ≤ maximumHistory := min_le_right _ _
  have found : stored[stored.length - back]? = some (recentLine stored back) := by
    unfold recentLine
    rw [List.getElem?_reverse (by omega), show stored.length - 1 - (back - 1) =
      stored.length - back by omega, List.getElem?_eq_getElem (by omega)]
    rfl
  have short := holds.short _ (List.mem_of_getElem? found)
  have cell : editor.cell (((stored.length % maximumHistory + maximumHistory -
      shownLines stored) % maximumHistory + (shownLines stored - back)) % maximumHistory) =
        some (recentLine stored back) := by
    refine holds.recent.fromOldest rfl ?_
    rw [← found]
    congr 1
    show stored.length - shownLines stored + (shownLines stored - back) = _
    omega
  refine ⟨recentLine stored back ++
    List.replicate (blankLine.length - (recentLine stored back).length) 0, ?_, ?_⟩
  · unfold loadHistory
    rw [holds.count, holds.head, if_neg (by omega)]
    dsimp only
    rw [cell]
    show (do
      let buffer ← copied (recentLine stored back)
      pure _) = _
    rw [copied_eq short]
    rfl
  · exact {
      size := by
        simp only [List.length_append, List.length_replicate, blankLine_length]
        omega
      contents := ⟨List.replicate (blankLine.length - (recentLine stored back).length) 0, by
        rw [List.append_nil]⟩
      length := rfl
      cursor := rfl
      bounded := short }

/-! ### Keys -/

/-- The editor does what the editing says, and reports the same. -/
def Refines (result : Option (EditorEvent × LineEditor)) (outcome : EditorEvent × Editing) : Prop :=
  ∃ after, result = some (outcome.1, after) ∧ Represents after outcome.2

theorem refines_some {event : EditorEvent} (represents : Represents editor editing) :
    Refines (some (event, editor)) (event, editing) := ⟨editor, rfl, represents⟩

theorem Represents.kill (represents : Represents editor editing) :
    Represents editor.reset editing.kill where
  line := holdsLine_blank rfl rfl rfl
  history := represents.history.keep rfl rfl rfl rfl
  view := ⟨Nat.zero_le _, rfl⟩
  escapeState := rfl

/-- The same line with the cursor elsewhere. -/
theorem Represents.move (represents : Represents editor editing) {left right : Bytes} {cursor : Nat}
    (same : left ++ right = editing.text) (place : cursor = left.length) :
    Represents { editor with cursor := cursor } { editing with left := left, right := right } where
  line := represents.line.move same rfl rfl place
  history := represents.history.keep rfl rfl rfl rfl
  view := represents.view
  escapeState := represents.escapeState

/-- Waiting for another byte of a sequence. -/
theorem Represents.wait (represents : Represents editor editing) (state : EscapeState) :
    Represents { editor with escapeState := state } { editing with escapeState := state } where
  line := represents.line.move rfl rfl rfl represents.line.cursor
  history := represents.history.keep rfl rfl rfl rfl
  view := represents.view
  escapeState := rfl

theorem Represents.length_text (represents : Represents editor editing) :
    editor.length = editing.text.length := by
  unfold Editing.text
  rw [represents.line.length, List.length_append]

theorem Represents.behind (represents : Represents editor editing) :
    editor.cursor < editor.length ↔ editing.right ≠ [] := by
  rw [represents.line.length, represents.line.cursor, Nat.lt_add_right_iff_pos,
    List.length_pos_iff]

/-- At the end of the line there is nothing to delete. -/
theorem Represents.delete_end (represents : Represents editor editing)
    (ended : editor.length ≤ editor.cursor) : Represents editor editing.delete := by
  have empty : editing.right = [] := by
    by_contra nonempty
    exact absurd (represents.behind.mpr nonempty) (not_lt.mpr ended)
  have same : editing.delete = editing := by
    unfold Editing.delete
    rw [empty, List.tail_nil, ← empty]
  rwa [same]

theorem Represents.delete (represents : Represents editor editing)
    (behind : editor.cursor < editor.length) :
    ∃ after, editor.deleteAtCursor = some after ∧ Represents after editing.delete := by
  have line := represents.line
  have nonempty : 0 < editing.right.length := by
    have length := line.length
    have cursor := line.cursor
    omega
  obtain ⟨byte, rest, right⟩ := List.exists_cons_of_length_pos nonempty
  rw [right] at line
  obtain ⟨buffer, deleted, holds⟩ := line.delete
  refine ⟨_, deleted, ?_⟩
  exact {
    line := by
      show HoldsLine _ editing.left editing.right.tail
      rwa [right]
    history := represents.history.keep rfl rfl rfl rfl
    view := represents.view
    escapeState := represents.escapeState }

theorem Represents.backspace (represents : Represents editor editing) (behind : 0 < editor.cursor) :
    ∃ after, { editor with cursor := editor.cursor - 1 }.deleteAtCursor = some after ∧
      Represents after editing.backspace := by
  have nonempty : editing.left ≠ [] := by
    intro empty
    have cursor := represents.line.cursor
    rw [empty] at cursor
    exact absurd cursor behind.ne'
  have split := List.dropLast_append_getLast nonempty
  have moved : Represents { editor with cursor := editor.cursor - 1 }
      { editing with
        left := editing.left.dropLast
        right := editing.left.getLast nonempty :: editing.right } := by
    refine represents.move ?_ ?_
    · unfold Editing.text
      nth_rewrite 3 [← split]
      simp
    · rw [List.length_dropLast, represents.line.cursor]
  have inside : editor.cursor - 1 < editor.length := by
    have length := represents.line.length
    have cursor := represents.line.cursor
    omega
  exact moved.delete inside

theorem Represents.insert (represents : Represents editor editing) (byte : UInt8)
    (room : editor.length < maximumLineLength) :
    ∃ after, editor.insertAtCursor byte = some after ∧ Represents after (editing.insert byte) := by
  obtain ⟨buffer, inserted, holds⟩ := represents.line.insert byte room
  refine ⟨_, inserted, ?_⟩
  unfold Editing.insert
  rw [if_neg (by rw [← represents.length_text]; exact not_le.mpr room)]
  exact {
    line := holds
    history := represents.history.keep rfl rfl rfl rfl
    view := represents.view
    escapeState := represents.escapeState }

/-- Showing a stored line, with the view that belongs to it. -/
theorem Represents.showLine (represents : Represents editor editing) {back : Nat}
    (positive : 0 < back) (inside : back ≤ shownLines editing.stored) :
    ∃ after, { editor with historyView := some (shownLines editing.stored - back) }.loadHistory
        (shownLines editing.stored - back) = some after ∧
      Represents after (editing.showLine back) := by
  have history : HoldsHistory { editor with
      historyView := some (shownLines editing.stored - back) } editing.stored :=
    represents.history.keep rfl rfl rfl rfl
  obtain ⟨buffer, loaded, holds⟩ := history.load positive inside
  refine ⟨_, loaded, ?_⟩
  exact {
    line := holds
    history := represents.history.keep rfl rfl rfl rfl
    view := ⟨inside, (if_neg positive.ne').symm⟩
    escapeState := represents.escapeState }

theorem Represents.older (represents : Represents editor editing) :
    ∃ after, editor.historyPrevious = some after ∧ Represents after editing.older := by
  obtain ⟨inside, view⟩ := represents.view
  have count := represents.history.count
  have current : editor.historyView.getD editor.historyCount =
      shownLines editing.stored - editing.back := by
    rw [view, count]
    split
    · rename_i own
      rw [own]
      rfl
    · rfl
  unfold historyPrevious Editing.older
  rw [current]
  by_cases more : editing.back < shownLines editing.stored
  · rw [if_pos more, if_neg (by omega)]
    dsimp only
    rw [if_neg (by omega), Nat.sub_sub]
    exact represents.showLine (Nat.succ_pos _) more
  · rw [if_neg more]
    refine ⟨editor, ?_, represents⟩
    split
    · rfl
    · exact if_pos (by omega)

theorem Represents.newer (represents : Represents editor editing) :
    ∃ after, editor.historyNext = some after ∧ Represents after editing.newer := by
  obtain ⟨inside, view⟩ := represents.view
  have count := represents.history.count
  unfold historyNext Editing.newer
  by_cases own : editing.back = 0
  · rw [if_pos own] at view
    rw [view, if_pos own]
    exact ⟨editor, rfl, represents⟩
  · rw [if_neg own] at view
    rw [view, if_neg own]
    dsimp only
    by_cases latest : editing.back = 1
    · rw [if_pos latest, if_pos (by omega)]
      exact ⟨_, rfl, represents.kill⟩
    · rw [if_neg latest, if_neg (by omega), show shownLines editing.stored - editing.back + 1 =
        shownLines editing.stored - (editing.back - 1) by omega]
      exact represents.showLine (by omega) (by omega)

theorem Represents.toRight (represents : Represents editor editing) :
    Represents (if editor.cursor < editor.length then { editor with cursor := editor.cursor + 1 }
      else editor) editing.toRight := by
  have length := represents.line.length
  have cursor := represents.line.cursor
  unfold Editing.toRight
  cases right : editing.right with
  | nil =>
    rw [right, List.length_nil] at length
    rw [if_neg (by omega)]
    refine represents.move ?_ ?_
    · unfold Editing.text
      rw [right]
      simp
    · rw [cursor]
      simp
  | cons byte rest =>
    rw [right, List.length_cons] at length
    rw [if_pos (by omega)]
    refine represents.move ?_ ?_
    · unfold Editing.text
      rw [right]
      simp
    · rw [cursor]
      simp

theorem Represents.toLeft (represents : Represents editor editing) :
    Represents (if editor.cursor > 0 then { editor with cursor := editor.cursor - 1 }
      else editor) editing.toLeft := by
  have cursor := represents.line.cursor
  unfold Editing.toLeft
  by_cases empty : editing.left = []
  · rw [empty, List.length_nil] at cursor
    rw [if_neg (by omega)]
    refine represents.move ?_ ?_
    · unfold Editing.text
      rw [empty]
      rfl
    · rw [cursor, empty]
      rfl
  · have nonempty := List.length_pos_of_ne_nil empty
    rw [if_pos (by omega), List.getLast?_eq_getLast_of_ne_nil empty]
    refine represents.move ?_ ?_
    · unfold Editing.text
      nth_rewrite 3 [← List.dropLast_append_getLast empty]
      simp
    · rw [cursor, List.length_dropLast]

theorem Represents.feedBracket (represents : Represents editor editing) (byte : UInt8) :
    Refines (editor.feedBracket byte) (editing.feedBracket byte) := by
  unfold LineEditor.feedBracket Editing.feedBracket
  by_cases up : byte = 0x41
  · obtain ⟨after, done, kept⟩ := represents.older
    rw [if_pos up, if_pos up, done]
    exact refines_some kept
  rw [if_neg up, if_neg up]
  by_cases down : byte = 0x42
  · obtain ⟨after, done, kept⟩ := represents.newer
    rw [if_pos down, if_pos down, done]
    exact refines_some kept
  rw [if_neg down, if_neg down]
  by_cases forward : byte = 0x43
  · rw [if_pos forward, if_pos forward]
    exact refines_some represents.toRight
  rw [if_neg forward, if_neg forward]
  by_cases backward : byte = 0x44
  · rw [if_pos backward, if_pos backward]
    exact refines_some represents.toLeft
  rw [if_neg backward, if_neg backward]
  by_cases beginning : byte = 0x48
  · rw [if_pos beginning, if_pos beginning]
    exact refines_some (represents.move rfl rfl)
  rw [if_neg beginning, if_neg beginning]
  by_cases ending : byte = 0x46
  · rw [if_pos ending, if_pos ending]
    exact refines_some (represents.move (List.append_nil _) represents.length_text)
  rw [if_neg ending, if_neg ending]
  by_cases three : byte = 0x33
  · rw [if_pos three, if_pos three]
    exact refines_some (represents.wait _)
  rw [if_neg three, if_neg three]
  exact refines_some represents

theorem Represents.feedEscape (represents : Represents editor editing) (byte : UInt8)
    (inside : editor.escapeState ≠ .none) :
    Refines (editor.feedEscape byte) (editing.feedEscape byte) := by
  have idle := represents.wait .none
  unfold LineEditor.feedEscape Editing.feedEscape
  rw [← represents.escapeState]
  cases state : editor.escapeState with
  | none => exact absurd state inside
  | escape => exact refines_some (represents.wait _)
  | bracket => exact idle.feedBracket byte
  | deleteTilde =>
    dsimp only
    have behind := represents.behind
    by_cases tilde : byte = 0x7E
    · by_cases inside : editor.cursor < editor.length
      · obtain ⟨after, deleted, kept⟩ := idle.delete inside
        rw [if_pos ⟨tilde, inside⟩, deleted, if_pos ⟨tilde, behind.mp inside⟩, if_pos tilde]
        exact refines_some kept
      · rw [if_neg fun both => inside both.2, if_neg fun both => inside (behind.mpr both.2),
          if_pos tilde]
        exact refines_some (idle.delete_end (not_lt.mp inside))
    · rw [if_neg fun both => tilde both.1, if_neg fun both => tilde both.1, if_neg tilde]
      exact refines_some idle

/-- Keys that do not submit the line. -/
theorem Represents.feedKey (represents : Represents editor editing) (byte : UInt8)
    (other : byte ≠ 0x0D ∧ byte ≠ 0x0A) : Refines (editor.feed byte) (editing.feed byte) := by
  have length := represents.length_text
  have empty : editor.length = 0 ↔ editing.text = [] := by
    rw [length, List.length_eq_zero_iff]
  unfold LineEditor.feed Editing.feed
  by_cases escaped : editor.escapeState ≠ .none
  · have sameEscaped : editing.escapeState ≠ .none := represents.escapeState ▸ escaped
    rw [if_pos escaped, if_pos sameEscaped]
    exact represents.feedEscape byte escaped
  have sameIdle : ¬ editing.escapeState ≠ .none := represents.escapeState ▸ escaped
  rw [if_neg escaped, if_neg sameIdle]
  by_cases escape : byte = 0x1B
  · rw [if_pos escape, if_pos escape]
    exact refines_some (represents.wait _)
  rw [if_neg escape, if_neg escape, if_neg (not_or.mpr other), if_neg (not_or.mpr other)]
  by_cases interrupt : byte = 0x03
  · rw [if_pos interrupt, if_pos interrupt]
    exact refines_some represents.kill
  rw [if_neg interrupt, if_neg interrupt]
  by_cases ending : byte = 0x04
  · rw [if_pos ending, if_pos ending]
    by_cases blank : editor.length = 0
    · rw [if_pos blank, if_pos (empty.mp blank)]
      exact refines_some (represents.delete_end (by omega))
    · rw [if_neg blank, if_neg (mt empty.mpr blank)]
      by_cases inside : editor.cursor < editor.length
      · obtain ⟨after, deleted, kept⟩ := represents.delete inside
        rw [if_pos inside, deleted]
        exact refines_some kept
      · rw [if_neg inside]
        exact refines_some (represents.delete_end (not_lt.mp inside))
  rw [if_neg ending, if_neg ending]
  by_cases backspace : byte = 0x08 ∨ byte = 0x7F
  · rw [if_pos backspace, if_pos backspace]
    by_cases front : editor.cursor = 0
    · have nothing : editing.left = [] :=
        List.eq_nil_of_length_eq_zero (represents.line.cursor ▸ front)
      have same : editing.backspace = editing := by
        unfold Editing.backspace
        rw [nothing, List.dropLast_nil, ← nothing]
      rw [if_pos front, if_pos nothing, same]
      exact refines_some represents
    · have something : editing.left ≠ [] := by
        intro nothing
        exact front (represents.line.cursor.trans (congrArg List.length nothing))
      obtain ⟨after, deleted, kept⟩ := represents.backspace (Nat.pos_of_ne_zero front)
      rw [if_neg front, if_neg something, deleted]
      exact refines_some kept
  rw [if_neg backspace, if_neg backspace]
  by_cases kill : byte = 0x15
  · rw [if_pos kill, if_pos kill]
    exact refines_some represents.kill
  rw [if_neg kill, if_neg kill]
  by_cases beginning : byte = 0x01
  · rw [if_pos beginning, if_pos beginning]
    exact refines_some (represents.move rfl rfl)
  rw [if_neg beginning, if_neg beginning]
  by_cases toEnd : byte = 0x05
  · rw [if_pos toEnd, if_pos toEnd]
    exact refines_some (represents.move (List.append_nil _) represents.length_text)
  rw [if_neg toEnd, if_neg toEnd]
  by_cases printable : 0x20 ≤ byte ∧ byte ≤ 0x7E
  · rw [if_pos printable, if_pos printable, ← length]
    by_cases full : editor.length ≥ maximumLineLength
    · have same : editing.insert byte = editing := if_pos (length ▸ full)
      rw [if_pos full, if_pos full, same]
      exact refines_some represents
    · obtain ⟨after, inserted, kept⟩ := represents.insert byte (not_le.mp full)
      rw [if_neg full, if_neg full, inserted]
      exact refines_some kept
  rw [if_neg printable, if_neg printable]
  exact refines_some represents

/-- Submitting a line stores it and begins a new one. -/
theorem Represents.submit (represents : Represents editor editing) {byte : UInt8}
    (idle : editor.escapeState = .none) (submits : byte = 0x0D ∨ byte = 0x0A) :
    Refines (editor.next byte) (editing.feed byte) := by
  have length := represents.length_text
  have noEscape : byte ≠ 0x1B := by
    rcases submits with rfl | rfl
    · decide
    · decide
  have fed : editing.feed byte = (.submitted editing.text,
      { editing with stored := remember editing.stored editing.text }.kill) := by
    unfold Editing.feed
    rw [if_neg (not_not.mpr (represents.escapeState ▸ idle)), if_neg noEscape, if_pos submits]
  have short : editing.text.length ≤ maximumLineLength := length ▸ represents.line.bounded
  obtain ⟨after, pushed, history, -, -⟩ := represents.history.push editing.text short
  rw [fed]
  refine ⟨after.reset, ?_, ?_⟩
  · unfold LineEditor.next LineEditor.feed
    rw [if_neg (not_not.mpr idle), if_neg noEscape, if_pos submits]
    by_cases blank : editor.length = 0
    · have empty : editing.text = [] := List.eq_nil_of_length_eq_zero (length ▸ blank)
      rw [empty] at pushed ⊢
      cases pushed
      rw [if_pos blank]
      rfl
    · rw [if_neg blank, represents.line.text]
      show ((editor.pushHistory editing.text >>= _) >>= _) = _
      rw [pushed]
      rfl
  · exact {
      line := holdsLine_blank rfl rfl rfl
      history := history.keep rfl rfl rfl rfl
      view := ⟨Nat.zero_le _, rfl⟩
      escapeState := rfl }

theorem feedEscape_event (editing : Editing) (byte : UInt8) (line : Bytes) :
    (editing.feedEscape byte).1 ≠ .submitted line := by
  intro submitted
  unfold Editing.feedEscape Editing.feedBracket at submitted
  repeat' split at submitted
  all_goals dsimp only at submitted
  all_goals
    try split at submitted
    all_goals cases submitted

/-- Only the end of a line outside an escape sequence submits it. -/
theorem feed_event {byte : UInt8}
    (other : editing.escapeState ≠ .none ∨ byte ≠ 0x0D ∧ byte ≠ 0x0A) (line : Bytes) :
    (editing.feed byte).1 ≠ .submitted line := by
  intro submitted
  unfold Editing.feed at submitted
  split at submitted
  · exact feedEscape_event editing byte line submitted
  · rename_i idle
    have key := (not_or.mpr (other.resolve_left idle))
    rw [if_neg key] at submitted
    repeat' split at submitted
    all_goals dsimp only at submitted
    all_goals
      try split at submitted
      all_goals cases submitted

/-- Every byte does to the editor what it does to the editing. -/
theorem Represents.next (represents : Represents editor editing) (byte : UInt8) :
    Refines (editor.next byte) (editing.feed byte) := by
  by_cases submits : editor.escapeState = .none ∧ (byte = 0x0D ∨ byte = 0x0A)
  · exact represents.submit submits.1 submits.2
  have other : editing.escapeState ≠ .none ∨ byte ≠ 0x0D ∧ byte ≠ 0x0A := by
    rw [← represents.escapeState, ← not_or]
    exact not_and_or.mp submits
  obtain ⟨after, fed, kept⟩ : Refines (editor.feed byte) (editing.feed byte) := by
    rcases other with escaped | key
    · unfold LineEditor.feed Editing.feed
      have sameEscaped : editor.escapeState ≠ .none := represents.escapeState ▸ escaped
      rw [if_pos sameEscaped, if_pos escaped]
      exact represents.feedEscape byte sameEscaped
    · exact represents.feedKey byte key
  refine ⟨after, ?_, kept⟩
  have quiet := feed_event other
  unfold LineEditor.next
  rw [fed]
  cases event : (editing.feed byte).1 with
  | submitted line => exact absurd event (quiet line)
  | none | redraw | cancelled | endOfInput => rfl

/-- A stream of bytes does the same to both. -/
theorem Represents.run (represents : Represents editor editing) (bytes : Bytes) :
    ∃ after, editor.run bytes = some ((editing.run bytes).1, after) ∧
      Represents after (editing.run bytes).2 := by
  induction bytes generalizing editor editing with
  | nil => exact ⟨editor, rfl, represents⟩
  | cons byte rest hypothesis =>
    obtain ⟨middle, fed, kept⟩ := represents.next byte
    obtain ⟨after, ran, kept⟩ := hypothesis kept
    refine ⟨after, ?_, kept⟩
    unfold LineEditor.run
    rw [fed]
    show (middle.run rest >>= _) = _
    rw [ran]
    rfl

theorem represents_new : Represents {} {} where
  line := holdsLine_blank rfl rfl rfl
  history :=
    { cells := List.length_replicate
      lengths := List.length_replicate
      count := rfl
      head := rfl
      recent := Recent.retains_nil _ _
      short := fun _ member => absurd member List.not_mem_nil }
  view := ⟨Nat.zero_le _, rfl⟩
  escapeState := rfl

end ZigOs.RuntimeCommand
