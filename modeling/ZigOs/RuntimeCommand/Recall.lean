/-
This file follows the line editor over whole streams of bytes. It never leaves its
buffers, the stored lines are the submitted ones without repetitions, and the keys
for older and newer lines walk through the latest of them and back to an empty
line.
-/

import ZigOs.RuntimeCommand.Editing

namespace ZigOs.RuntimeCommand

open Editing

/-- Store the line of an event that submits one. -/
def storeEvent (stored : List Bytes) : EditorEvent → List Bytes
  | .submitted line => remember stored line
  | _ => stored

/-- The lines that a run stores. -/
def storedLines (events : List EditorEvent) : List Bytes := events.foldl storeEvent []

abbrev olderKey : Bytes := [0x1B, 0x5B, 0x41]
abbrev newerKey : Bytes := [0x1B, 0x5B, 0x42]

/-- The bytes of a key that is pressed so many times. -/
def presses (key : Bytes) : Nat → Bytes
  | 0 => []
  | times + 1 => key ++ presses key times

namespace Editing

variable {editing : Editing} {stored : List Bytes} {times back : Nat}

/-! ### The stored lines -/

theorem storeEvent_other {event : EditorEvent} (other : ∀ line, event ≠ .submitted line) :
    storeEvent stored event = stored := by
  cases event with
  | submitted line => exact absurd rfl (other line)
  | none | redraw | cancelled | endOfInput => rfl

theorem older_stored (editing : Editing) : editing.older.stored = editing.stored := by
  unfold older
  split
  · rfl
  · rfl

theorem newer_stored (editing : Editing) : editing.newer.stored = editing.stored := by
  unfold newer
  split
  · rfl
  · split
    · rfl
    · rfl

theorem insert_stored (editing : Editing) (byte : UInt8) :
    (editing.insert byte).stored = editing.stored := by
  unfold insert
  split
  · rfl
  · rfl

theorem feedBracket_stored (editing : Editing) (byte : UInt8) :
    (editing.feedBracket byte).2.stored = editing.stored := by
  unfold feedBracket
  repeat' split
  all_goals first
      | exact older_stored editing
      | exact newer_stored editing
      | rfl

theorem feedEscape_stored (editing : Editing) (byte : UInt8) :
    (editing.feedEscape byte).2.stored = editing.stored := by
  unfold feedEscape
  split
  · rfl
  · exact feedBracket_stored _ byte
  · dsimp only
    split
    · rfl
    · rfl

theorem feed_stored (editing : Editing) (byte : UInt8) :
    (editing.feed byte).2.stored = storeEvent editing.stored (editing.feed byte).1 := by
  by_cases submits : editing.escapeState = .none ∧ (byte = 0x0D ∨ byte = 0x0A)
  · have noEscape : byte ≠ 0x1B := by
      rcases submits.2 with rfl | rfl
      · decide
      · decide
    unfold feed
    rw [if_neg (not_not.mpr submits.1), if_neg noEscape, if_pos submits.2]
    rfl
  · have other : editing.escapeState ≠ .none ∨ byte ≠ 0x0D ∧ byte ≠ 0x0A := by
      rw [← not_or]
      exact not_and_or.mp submits
    rw [storeEvent_other (feed_event other)]
    unfold feed
    split
    · exact feedEscape_stored editing byte
    · rename_i idle
      have key := not_or.mpr (other.resolve_left idle)
      rw [if_neg key]
      repeat' split
      all_goals first
          | exact insert_stored editing byte
          | rfl

theorem run_stored (editing : Editing) (bytes : Bytes) :
    (editing.run bytes).2.stored = (editing.run bytes).1.foldl storeEvent editing.stored := by
  induction bytes generalizing editing with
  | nil => rfl
  | cons byte rest hypothesis =>
    show ((editing.feed byte).2.run rest).2.stored = _
    rw [hypothesis, feed_stored]
    rfl

/-! ### Older and newer lines -/

theorem run_append (editing : Editing) (first second : Bytes) :
    (editing.run (first ++ second)).2 = ((editing.run first).2.run second).2 := by
  induction first generalizing editing with
  | nil => rfl
  | cons byte rest hypothesis => exact hypothesis _

theorem run_olderKey (idle : editing.escapeState = .none) :
    (editing.run olderKey).2 = editing.older := by
  obtain ⟨left, right, stored, back, escapeState⟩ := editing
  subst idle
  rfl

theorem run_newerKey (idle : editing.escapeState = .none) :
    (editing.run newerKey).2 = editing.newer := by
  obtain ⟨left, right, stored, back, escapeState⟩ := editing
  subst idle
  rfl

/-- Each press goes one line further back. -/
theorem run_older (idle : editing.escapeState = .none)
    (inside : editing.back + times ≤ shownLines editing.stored) (pressed : 0 < times) :
    (editing.run (presses olderKey times)).2 = editing.showLine (editing.back + times) := by
  induction times generalizing editing with
  | zero => exact absurd pressed (lt_irrefl _)
  | succ times hypothesis =>
    unfold presses
    rw [run_append, run_olderKey idle]
    unfold older
    rw [if_pos (by omega)]
    obtain rfl | last := eq_or_ne times 0
    · rfl
    · have further := @hypothesis (editing.showLine (editing.back + 1)) idle
        (by show editing.back + 1 + times ≤ shownLines editing.stored; omega) (by omega)
      rw [further]
      show editing.showLine (editing.back + 1 + times) = _
      rw [Nat.add_right_comm, Nat.add_assoc]

/-- Each press comes one line closer, and from the latest line to an empty one. -/
theorem run_newer (idle : editing.escapeState = .none) (few : times ≤ back) (shown : 0 < back) :
    ((editing.showLine back).run (presses newerKey times)).2 =
      if times = back then editing.kill else editing.showLine (back - times) := by
  induction times generalizing back with
  | zero =>
    rw [if_neg shown.ne]
    rfl
  | succ times hypothesis =>
    unfold presses
    rw [run_append, @run_newerKey (editing.showLine back) idle]
    unfold newer
    rw [if_neg (by exact shown.ne')]
    by_cases latest : back = 1
    · have none : times = 0 := by omega
      subst none latest
      rfl
    · rw [if_neg (by exact latest)]
      show ((editing.showLine (back - 1)).run (presses newerKey times)).2 = _
      rw [hypothesis (by omega) (by omega), Nat.sub_sub, Nat.add_comm 1 times]
      exact if_congr (by omega) rfl rfl

end Editing

/-! ### The editor over a stream of bytes -/

theorem recentLine_eq {stored : List Bytes} {back : Nat} (positive : 0 < back)
    (inside : back ≤ stored.length) :
    stored.reverse[back - 1]? = some (recentLine stored back) := by
  unfold recentLine
  rw [List.getElem?_eq_getElem (by rw [List.length_reverse]; omega)]
  rfl

/-- For every stream of bytes the editor stays within its buffers, does what the editing of a line
with a history says, and recalls the latest stored lines. -/
theorem run_recalls (bytes : Bytes) :
    ∃ events editor, LineEditor.run {} bytes = some (events, editor) ∧
      editor.cursor ≤ editor.length ∧ editor.length ≤ 256 ∧
      (run {} bytes).1 = events ∧ Represents editor (run {} bytes).2 ∧
      (run {} bytes).2.stored = storedLines events ∧
      (editor.escapeState = .none → editor.historyView = none →
        ∀ times, 1 ≤ times → times ≤ min (storedLines events).length 16 →
          ∃ upEvents shown, editor.run (presses olderKey times) = some (upEvents, shown) ∧
            shown.line = (storedLines events).reverse[times - 1]? ∧
            ∀ back, back ≤ times →
              ∃ downEvents below, shown.run (presses newerKey back) = some (downEvents, below) ∧
                below.line = if back = times then some []
                  else (storedLines events).reverse[times - back - 1]?) := by
  obtain ⟨editor, ran, represents⟩ := represents_new.run bytes
  have stored : (run {} bytes).2.stored = storedLines (run {} bytes).1 :=
    Editing.run_stored {} bytes
  refine ⟨_, editor, ran, ?_, represents.line.bounded, rfl, represents, stored, ?_⟩
  · rw [represents.line.cursor, represents.line.length]
    exact Nat.le_add_right _ _
  rw [← stored]
  revert represents
  generalize (run {} bytes).2 = editing
  intro represents escapeState noView times pressed inside
  have idle : editing.escapeState = .none := represents.escapeState ▸ escapeState
  have own : editing.back = 0 := by
    obtain ⟨-, view⟩ := represents.view
    by_contra other
    rw [if_neg other, noView] at view
    cases view
  obtain ⟨shown, pressedUp, showing⟩ := represents.run (presses olderKey times)
  rw [Editing.run_older idle (by rw [own, Nat.zero_add]; exact inside) pressed, own,
    Nat.zero_add] at showing
  refine ⟨_, shown, pressedUp, ?_, fun back few => ?_⟩
  · rw [showing.line.text, recentLine_eq pressed (inside.trans (min_le_left _ _))]
    exact congrArg some (List.append_nil _)
  · obtain ⟨below, pressedDown, lower⟩ := showing.run (presses newerKey back)
    rw [Editing.run_newer idle few pressed] at lower
    refine ⟨_, below, pressedDown, ?_⟩
    rw [lower.line.text]
    by_cases all : back = times
    · rw [if_pos all, if_pos all]
      rfl
    · rw [if_neg all, if_neg all, recentLine_eq (by omega)
        ((Nat.sub_le _ _).trans (inside.trans (min_le_left _ _)))]
      exact congrArg some (List.append_nil _)

/-- Two lines, the second one twice, and two presses back. -/
example : (run {} ([0x61, 0x0D, 0x62, 0x0D, 0x62, 0x0D] ++ presses olderKey 2)).2.text =
    [0x61] := by
  decide

end ZigOs.RuntimeCommand
