/-
This file models the program that prints the end of a file. It reads the file once and
keeps the ends of the last lines in a ring, goes back to where the last ten begin and
copies the rest. What it prints is the longest end of the file that begins with a line and
has at most ten.
-/

import ZigOs.Lib.Chunks
import Mathlib.Data.List.Count
import Mathlib.Data.List.Induction
import Mathlib.Logic.Function.Basic
import Mathlib.Tactic.ByContra

namespace ZigOs.Sdk.Tail

open Chunks Function List

abbrev Bytes : Type := List UInt8

abbrev newline : UInt8 := 10
abbrev defaultLines : Nat := 10
abbrev retainedBoundaries : Nat := defaultLines + 1
abbrev bufferBytes : Nat := 512

structure Scan where
  boundaries : Nat → Nat := fun _ => 0
  newlineCount : Nat := 0
  position : Nat := 0
  lastWasNewline : Bool := false

def Scan.next (scan : Scan) (byte : UInt8) : Scan :=
  let position := scan.position + 1
  if byte = newline then
    { boundaries := update scan.boundaries (scan.newlineCount % retainedBoundaries) position
      newlineCount := scan.newlineCount + 1
      position
      lastWasNewline := true }
  else { scan with position, lastWasNewline := false }

/-- Where the printing begins. -/
def Scan.start (scan : Scan) : Nat :=
  let logicalLines := scan.newlineCount + (!scan.lastWasNewline).toNat
  if logicalLines > defaultLines then
    scan.boundaries ((logicalLines - defaultLines - 1) % retainedBoundaries)
  else 0

/-- What the program writes for a file whose reads are given so much. -/
def tail (content : Bytes) (sizes : Nat → Nat) : Bytes :=
  let scanned := foldReads bufferBytes (List.foldl Scan.next) {} { items := content, sizes }
  if scanned.1.position = 0 then []
  else (foldReads bufferBytes (· ++ ·) [] (scanned.2.seek scanned.1.start)).1

/-! ### The last lines -/

/-- The lines of some bytes; one that is not ended counts. -/
def lineCount (bytes : Bytes) : Nat :=
  bytes.count newline + (bytes ≠ [] ∧ bytes.getLast? ≠ some newline : Bool).toNat

/-- A line of the content begins here. -/
def LineStart (content : Bytes) (position : Nat) : Prop :=
  position ≤ content.length ∧ (position = 0 ∨ content[position - 1]? = some newline)

/-- The longest end that begins with a line and has at most so many lines. -/
def LastLines (limit : Nat) (content printed : Bytes) : Prop :=
  ∃ position, LineStart content position ∧ printed = content.drop position ∧
    lineCount printed ≤ limit ∧
      ∀ other, LineStart content other → lineCount (content.drop other) ≤ limit → position ≤ other

/-- The line with this number, from zero on, ends before the position. -/
structure LineEnd (content : Bytes) (number position : Nat) : Prop where
  inside : position ≤ content.length
  ends : 0 < position ∧ content[position - 1]? = some newline
  count : (content.take position).count newline = number + 1

section Ends

variable {content : Bytes} {number position : Nat}

theorem LineEnd.append (ends : LineEnd content number position) (more : Bytes) :
    LineEnd (content ++ more) number position := by
  obtain ⟨inside, ⟨positive, newline⟩, count⟩ := ends
  refine ⟨?_, ⟨positive, ?_⟩, ?_⟩
  · rw [length_append]
    omega
  · rwa [getElem?_append_left (by omega)]
  · rwa [take_append_of_le_length inside]

/-- What the scan knows of the bytes it has seen. -/
structure Scanned (content : Bytes) (scan : Scan) : Prop where
  position : scan.position = content.length
  newlines : scan.newlineCount = content.count newline
  last : scan.lastWasNewline = decide (content.getLast? = some newline)
  boundaries : ∀ number < scan.newlineCount, scan.newlineCount ≤ number + retainedBoundaries →
    LineEnd content number (scan.boundaries (number % retainedBoundaries))

theorem Scanned.next {scan : Scan} (scanned : Scanned content scan) (byte : UInt8) :
    Scanned (content ++ [byte]) (scan.next byte) := by
  obtain ⟨position, newlines, last, boundaries⟩ := scanned
  unfold Scan.next
  obtain rfl | line := eq_or_ne byte newline
  · rw [if_pos rfl]
    refine ⟨by simp [position], by simp [newlines], by simp, fun number below recent => ?_⟩
    dsimp only at below recent ⊢
    rcases Nat.lt_or_ge number scan.newlineCount with older | newest
    · have apart : number % retainedBoundaries ≠ scan.newlineCount % retainedBoundaries := by
        have ring : retainedBoundaries = 11 := rfl
        rw [ring] at recent ⊢
        omega
      rw [update_of_ne apart]
      exact (boundaries number older (by omega)).append _
    · obtain rfl : number = scan.newlineCount := by omega
      rw [update_self, position]
      refine ⟨by simp, ⟨Nat.succ_pos _, by simp⟩, ?_⟩
      rw [take_of_length_le (by simp), count_append, ← newlines]
      rfl
  · rw [if_neg line]
    refine ⟨by simp [position], ?_, by simp [line], fun number below recent =>
      (boundaries number below recent).append _⟩
    rwa [count_append, count_singleton, if_neg (by simpa using line)]

theorem scanned_foldl (content : Bytes) : Scanned content (content.foldl Scan.next {}) := by
  induction content using List.reverseRecOn with
  | nil => exact ⟨rfl, rfl, rfl, fun number below _ => absurd below (Nat.not_lt_zero number)⟩
  | append_singleton front byte hypothesis =>
    rw [foldl_append]
    exact hypothesis.next byte

/-- An end of the file that is not empty has the lines that the front does not end. -/
theorem lineCount_drop (inside : position < content.length) :
    lineCount (content.drop position) + (content.take position).count newline =
      lineCount content := by
  have some : content ≠ [] := ne_nil_of_length_pos (Nat.zero_lt_of_lt inside)
  have split := congrArg (List.count newline) (take_append_drop position content)
  rw [count_append] at split
  have last : (content.drop position).getLast? = content.getLast? := by
    rw [getLast?_drop, if_neg (Nat.not_le.mpr inside)]
  unfold lineCount
  rw [last]
  have rest : content.drop position ≠ [] := by
    rw [ne_eq, drop_eq_nil_iff]
    omega
  simp only [rest, some, ne_eq, not_false_eq_true, true_and]
  omega

/-- An earlier line start leaves one more line to print. -/
theorem LineEnd.lt_lineCount {other : Nat} (ends : LineEnd content number position)
    (earlier : other < position) : lineCount content ≤ lineCount (content.drop other) + number := by
  obtain ⟨inside, ⟨positive, line⟩, count⟩ := ends
  have whole : (content.take position).count newline =
      (content.take (position - 1)).count newline + 1 := by
    conv_lhs => rw [← Nat.sub_add_cancel positive, take_add_one, line]
    rw [count_append]
    rfl
  have front : (content.take other).count newline ≤ (content.take (position - 1)).count newline :=
    (take_sublist_take_left (by omega)).count_le _
  have split := @lineCount_drop content other (by omega)
  omega

/-- The scan starts the printing where the last lines begin. -/
theorem Scanned.lastLines {scan : Scan} (scanned : Scanned content scan) (some : content ≠ []) :
    LastLines defaultLines content (content.drop scan.start) := by
  have total : scan.newlineCount + (!scan.lastWasNewline).toNat = lineCount content := by
    rw [scanned.newlines, scanned.last, lineCount]
    simp [some]
  have limit : defaultLines = 10 := rfl
  unfold Scan.start
  rw [total]
  dsimp only
  by_cases many : lineCount content > defaultLines
  · rw [if_pos many]
    have unended := Bool.toNat_le (!scan.lastWasNewline)
    have ends := scanned.boundaries (lineCount content - defaultLines - 1) (by omega)
      (show _ ≤ _ + (defaultLines + 1) by omega)
    generalize scan.boundaries ((lineCount content - defaultLines - 1) % retainedBoundaries) =
      position at ends
    have inside : position < content.length := by
      refine Nat.lt_of_le_of_ne ends.inside fun whole => ?_
      have count := ends.count
      have last := ends.ends.2
      rw [whole, take_length, ← scanned.newlines] at count
      omega
    have split := lineCount_drop inside
    have count := ends.count
    refine ⟨position, ⟨ends.inside, .inr ends.ends.2⟩, rfl, by omega, fun other _ few => ?_⟩
    by_contra earlier
    have more := ends.lt_lineCount (Nat.not_le.mp earlier)
    omega
  · rw [if_neg many]
    exact ⟨0, ⟨Nat.zero_le _, .inl rfl⟩, rfl, Nat.not_lt.mp many, fun _ _ _ => Nat.zero_le _⟩

end Ends

/-- However the reads are split, the program prints exactly the last lines. -/
theorem tail_lastLines (content : Bytes) (sizes : Nat → Nat) :
    LastLines defaultLines content (tail content sizes) := by
  obtain ⟨scan, same⟩ := @foldReads_eq _ _ bufferBytes (List.foldl Scan.next) {}
    { items := content, sizes } (fun _ => rfl) fun _ _ _ => foldl_append.symm
  replace scan : _ = content.foldl Scan.next {} := scan
  have scanned := scanned_foldl content
  unfold tail
  dsimp only
  rw [scan, scanned.position]
  by_cases none : content = []
  · rw [none, length_nil, if_pos rfl]
    exact ⟨0, ⟨Nat.zero_le _, .inl rfl⟩, rfl, by decide, fun _ _ _ => Nat.zero_le _⟩
  · have some : ¬content.length = 0 := fun empty => none (length_eq_zero_iff.mp empty)
    rw [if_neg some]
    obtain ⟨printed, -⟩ := @foldReads_eq _ _ bufferBytes (· ++ ·) []
      ((foldReads bufferBytes (List.foldl Scan.next) {} { items := content, sizes }).2.seek
        (content.foldl Scan.next {}).start) append_nil fun _ _ _ => append_assoc _ _ _
    rw [printed, nil_append, Source.rest, Source.seek]
    dsimp only
    rw [same]
    exact scanned.lastLines none

end ZigOs.Sdk.Tail
