/-
This file models the program that prints the lines of a file that contain a pattern. An
automaton over the borders of the pattern reads on from chunk to chunk; to print a line the
program goes back in the file and then goes on behind the line with a new read. However the
reads are split, every line with the pattern is printed once and in order.
-/

import Mathlib.Data.List.Infix
import ZigOs.Lib.Borders
import ZigOs.Lib.Chunks
import ZigOs.Lib.Outcome

namespace ZigOs.Sdk.Grep

open Borders Chunks List Except

abbrev Bytes : Type := List UInt8

abbrev newline : UInt8 := 10
abbrev maximumPatternBytes : Nat := 31
abbrev bufferBytes : Nat := 512
abbrev statusMatch : Nat := 0
abbrev statusNoMatch : Nat := 1

inductive Fault where
  | outOfBounds | endless | inputOutput
  deriving DecidableEq, Repr

abbrev Outcome (Value : Type) := Except Fault Value

def fetch {Value : Type} (buffer : List Value) (index : Nat) : Outcome Value :=
  buffer[index]?.elim (.error .outOfBounds) .ok

def store (table : List Nat) (index border : Nat) : Outcome (List Nat) :=
  if index < table.length then .ok (table.set index border) else .error .outOfBounds

/-! ### The automaton -/

/-- The loop of `buildPrefix`, with so many rounds. -/
def borderLoop (pattern : Bytes) : Nat → Nat → Nat → List Nat → Outcome (List Nat)
  | 0, _, _, _ => .error .endless
  | rounds + 1, length, index, table =>
    if index < pattern.length then
      fetch pattern index >>= fun byte =>
      fetch pattern length >>= fun expected =>
      if byte = expected then
        store table index (length + 1) >>= borderLoop pattern rounds (length + 1) (index + 1)
      else if length ≠ 0 then
        fetch table (length - 1) >>= fun border => borderLoop pattern rounds border index table
      else store table index 0 >>= borderLoop pattern rounds length (index + 1)
    else .ok table

def buildPrefix (pattern : Bytes) : Outcome (List Nat) :=
  let table := List.replicate maximumPatternBytes 0
  if pattern = [] then .ok table else borderLoop pattern (2 * pattern.length) 0 1 table

/-- Go back until the pattern goes on with the byte. -/
def fallBack (pattern : Bytes) (table : List Nat) (byte : UInt8) : Nat → Nat → Outcome Nat
  | 0, _ => .error .endless
  | rounds + 1, state =>
    if state = 0 then .ok 0
    else
      fetch pattern state >>= fun expected =>
      if expected = byte then .ok state
      else fetch table (state - 1) >>= fallBack pattern table byte rounds

/-! ### The search -/

structure Search where
  position : Nat := 0
  lineStart : Nat := 0
  matched : Bool
  matchState : Nat := 0
  anyMatch : Bool := false

namespace Search

variable (search : Search)

def take (pattern : Bytes) (table : List Nat) (byte : UInt8) : Outcome Search :=
  let search := { search with position := search.position + 1 }
  if search.matched = false ∧ pattern ≠ [] then
    fallBack pattern table byte (search.matchState + 1) search.matchState >>= fun state =>
    fetch pattern state >>= fun expected =>
    let matchState := if expected = byte then state + 1 else state
    .ok { search with matchState, matched := decide (matchState = pattern.length) }
  else .ok search

def nextLine (pattern : Bytes) : Search :=
  { search with lineStart := search.position, matched := decide (pattern = []), matchState := 0 }

end Search

/-- Copy so many bytes to the output. -/
def copyOut : Nat → Nat → Source UInt8 → Bytes → Outcome (Source UInt8 × Bytes)
  | 0, _, _, _ => .error .endless
  | rounds + 1, remaining, source, output =>
    if remaining = 0 then .ok (source, output)
    else
      let limit := min remaining bufferBytes
      let received := source.chunk limit
      if received = [] then .error .inputOutput
      else copyOut rounds (remaining - received.length) (source.advance limit) (output ++ received)

def outputRange (source : Source UInt8) (start finish : Nat) (output : Bytes) :
    Outcome (Source UInt8 × Bytes) :=
  copyOut (finish - start + 1) (finish - start) (source.seek start) output

/-- One chunk. Behind a line that was printed the rest of it is dropped and read again. -/
def scan (pattern : Bytes) (table : List Nat) :
    Search → Source UInt8 → Bytes → Bytes → Outcome (Search × Source UInt8 × Bytes)
  | search, source, output, [] => .ok (search, source, output)
  | search, source, output, byte :: chunk =>
    search.take pattern table byte >>= fun search =>
    if byte ≠ newline then scan pattern table search source output chunk
    else if search.matched then
      outputRange source search.lineStart search.position output >>= fun printed =>
      .ok ({ search.nextLine pattern with anyMatch := true }, printed.1.seek search.position, printed.2)
    else scan pattern table (search.nextLine pattern) source output chunk

/-- The status for the end of the file, and what was written. -/
def finish (search : Search) (source : Source UInt8) (output : Bytes) : Outcome (Nat × Bytes) :=
  if search.lineStart < search.position ∧ search.matched then
    outputRange source search.lineStart search.position output >>= fun printed =>
    .ok (statusMatch, printed.2)
  else .ok (if search.anyMatch then statusMatch else statusNoMatch, output)

def searchLoop (pattern : Bytes) (table : List Nat) :
    Nat → Search → Source UInt8 → Bytes → Outcome (Nat × Bytes)
  | 0, _, _, _ => .error .endless
  | rounds + 1, search, source, output =>
    let received := source.chunk bufferBytes
    if received = [] then finish search (source.advance bufferBytes) output
    else
      scan pattern table search (source.advance bufferBytes) output received >>= fun done =>
      searchLoop pattern table rounds done.1 done.2.1 done.2.2

/-- The status and the output for a file whose reads are given so much. -/
def grep (pattern content : Bytes) (sizes : Nat → Nat) : Outcome (Nat × Bytes) :=
  buildPrefix pattern >>= fun table =>
  searchLoop pattern table (content.length + 1) { matched := decide (pattern = []) }
    { items := content, sizes } []

/-! ### The lines -/

/-- The lines of the rest with their newlines, behind a line that has begun. -/
def linesFrom (line : Bytes) : Bytes → List Bytes
  | [] => if line = [] then [] else [line]
  | byte :: rest =>
    if byte = newline then (line ++ [byte]) :: linesFrom [] rest else linesFrom (line ++ [byte]) rest

def matchingFrom (pattern line rest : Bytes) : List Bytes :=
  (linesFrom line rest).filter (pattern <:+: ·)

/-- The lines of a file that contain the pattern. -/
def matchingLines (pattern content : Bytes) : List Bytes := matchingFrom pattern [] content

/-! ### The borders of the pattern -/

section Table

variable {pattern text : Bytes} {table : List Nat} {byte : UInt8}

/-- The first entries of the table are the longest borders. -/
def Filled (pattern : Bytes) (table : List Nat) (count : Nat) : Prop :=
  ∀ index < count, ∃ border, table[index]? = some border ∧
    Longest pattern (pattern.tail.take index) border

theorem fetch_of_some {Value : Type} {buffer : List Value} {index : Nat} {value : Value}
    (found : buffer[index]? = some value) : fetch buffer index = .ok value := by
  rw [fetch, found]
  rfl

theorem Filled.store {index border : Nat} (filled : Filled pattern table index)
    (longest : Longest pattern (pattern.tail.take index) border) (inside : index < table.length) :
    ∃ more, store table index border = .ok more ∧ more.length = table.length ∧
      Filled pattern more (index + 1) := by
  refine ⟨table.set index border, if_pos inside, length_set, fun other below => ?_⟩
  rcases Nat.lt_or_eq_of_le (Nat.le_of_lt_succ below) with older | rfl
  · rw [getElem?_set_ne (Nat.ne_of_gt older)]
    exact filled other older
  · exact ⟨border, getElem?_set_self inside, longest⟩

/-- The loop fills the table inside its bounds and ends. -/
theorem borderLoop_filled (fits : pattern.length ≤ maximumPatternBytes) (rounds : Nat)
    {length index : Nat} (size : table.length = maximumPatternBytes) (started : 0 < index)
    (filled : Filled pattern table index)
    (candidate : ∀ byte, pattern[index]? = some byte →
      Candidate pattern (pattern.tail.take (index - 1)) byte length)
    (enough : 2 * (pattern.length - index) + length < rounds) :
    ∃ full, borderLoop pattern rounds length index table = .ok full ∧
      Filled pattern full pattern.length := by
  induction rounds generalizing length index table with
  | zero => exact absurd enough (Nat.not_lt_zero _)
  | succ rounds hypothesis =>
    rw [borderLoop]
    by_cases below : index < pattern.length
    case neg =>
      rw [if_neg below]
      exact ⟨table, rfl, fun other inside =>
        filled other (Nat.lt_of_lt_of_le inside (Nat.not_lt.mp below))⟩
    have found := getElem?_eq_getElem below
    generalize pattern[index] = byte at found
    have current := candidate byte found
    have short := current.ends.length_le
    rw [length_take] at short
    have inside : length < pattern.length := by omega
    have next : pattern.tail.take (index - 1) ++ [byte] = pattern.tail.take index := by
      conv_rhs => rw [← Nat.sub_add_cancel started, take_add_one, getElem?_tail,
        Nat.sub_add_cancel started, found]
      rfl
    rw [if_pos below, fetch_of_some found, ok_bind,
      fetch_of_some (getElem?_eq_getElem inside), ok_bind]
    by_cases goesOn : byte = pattern[length]
    · have longest := current.hit (goesOn ▸ getElem?_eq_getElem inside)
      rw [next] at longest
      obtain ⟨more, stored, moreSize, moreFilled⟩ := filled.store longest (by omega)
      rw [if_pos goesOn, stored, ok_bind]
      exact hypothesis (moreSize.trans size) (Nat.succ_pos _) moreFilled
        (fun byte _ => longest.candidate byte) (by omega)
    have missed : pattern[length]? ≠ some byte := fun same =>
      goesOn (Option.some.inj (same.symm.trans (getElem?_eq_getElem inside)))
    rw [if_neg goesOn]
    cases length with
    | zero =>
      have longest := current.miss missed
      rw [next] at longest
      obtain ⟨more, stored, moreSize, moreFilled⟩ := filled.store longest (by omega)
      rw [if_neg (not_not.mpr rfl), stored, ok_bind]
      exact hypothesis (moreSize.trans size) (Nat.succ_pos _) moreFilled
        (fun byte _ => longest.candidate byte) (by omega)
    | succ length =>
      obtain ⟨border, entry, longest⟩ := filled length (by omega)
      have shorter := longest.ends.length_le
      rw [length_take] at shorter
      rw [if_pos (Nat.succ_ne_zero _), Nat.add_sub_cancel, fetch_of_some entry, ok_bind]
      refine hypothesis size started filled (fun other same => ?_) (by omega)
      cases (found.symm.trans same)
      exact current.fall missed longest

theorem buildPrefix_filled (fits : pattern.length ≤ maximumPatternBytes) :
    ∃ table, buildPrefix pattern = .ok table ∧ Filled pattern table pattern.length := by
  unfold buildPrefix
  dsimp only
  obtain rfl | none := eq_or_ne pattern ([])
  · exact ⟨_, if_pos rfl, fun index below => absurd below (Nat.not_lt_zero _)⟩
  · have some := length_pos_of_ne_nil none
    rw [if_neg none]
    refine borderLoop_filled fits _ length_replicate Nat.one_pos (fun index below => ?_)
      (fun byte _ => longest_nil.candidate byte) (by omega)
    obtain rfl := Nat.lt_one_iff.mp below
    refine ⟨0, getElem?_replicate.trans (if_pos (by decide)), longest_nil⟩

/-- Falling back ends at the longest end of the text with the byte. -/
theorem fallBack_longest (filled : Filled pattern table pattern.length) (rounds : Nat) {state : Nat}
    (candidate : Candidate pattern text byte state) (below : state < pattern.length)
    (enough : state < rounds) :
    ∃ next expected, fallBack pattern table byte rounds state = .ok next ∧
      pattern[next]? = some expected ∧
        Longest pattern (text ++ [byte]) (if expected = byte then next + 1 else next) := by
  induction rounds generalizing state with
  | zero => exact absurd enough (Nat.not_lt_zero _)
  | succ rounds hypothesis =>
    have found := getElem?_eq_getElem below
    generalize pattern[state] = expected at found
    rw [fallBack]
    by_cases goesOn : expected = byte
    · have longest := candidate.hit (goesOn ▸ found)
      refine ⟨state, expected, ?_, found, (if_pos goesOn).symm ▸ longest⟩
      split
      · rename_i zero
        rw [zero]
      · rw [fetch_of_some found, ok_bind, if_pos goesOn]
    have missed : pattern[state]? ≠ some byte := fun same =>
      goesOn (Option.some.inj (found.symm.trans same))
    cases state with
    | zero => exact ⟨0, expected, if_pos rfl, found, (if_neg goesOn).symm ▸ candidate.miss missed⟩
    | succ state =>
      obtain ⟨border, entry, longest⟩ := filled state (Nat.lt_of_succ_lt below)
      have shorter := longest.ends.length_le
      rw [length_take] at shorter
      rw [if_neg (Nat.succ_ne_zero _), fetch_of_some found, ok_bind, if_neg goesOn,
        Nat.add_sub_cancel, fetch_of_some entry, ok_bind]
      exact hypothesis (candidate.fall missed longest) (by omega) (by omega)

end Table

/-! ### Lines that are printed -/

section Lines

variable {pattern content output line rest : Bytes} {table : List Nat} {search : Search}
  {source : Source UInt8} {byte : UInt8}

/-- The search has read this much of a line. -/
structure Search.At (search : Search) (pattern line : Bytes) : Prop where
  position : search.position = search.lineStart + line.length
  matched : search.matched = true ↔ pattern <:+: line
  state : search.matched = false → Longest pattern line search.matchState

theorem Search.At.take (reads : search.At pattern line)
    (filled : Filled pattern table pattern.length) (byte : UInt8) :
    ∃ after, search.take pattern table byte = .ok after ∧ after.At pattern (line ++ [byte]) ∧
      after.lineStart = search.lineStart ∧ after.anyMatch = search.anyMatch := by
  obtain ⟨position, matched, state⟩ := reads
  replace position : search.position + 1 = search.lineStart + (line ++ [byte]).length := by
    rw [position, length_append]
    rfl
  unfold Search.take
  dsimp only
  by_cases going : search.matched = false ∧ pattern ≠ []
  · have longest := state going.1
    have absent : ¬pattern <:+: line := fun inside =>
      Bool.false_ne_true (going.1.symm.trans (matched.mpr inside))
    have below : search.matchState < pattern.length :=
      Nat.lt_of_le_of_ne longest.ends.1 fun full => absent (longest.eq_length_iff.mp full).isInfix
    obtain ⟨next, expected, fell, found, longer⟩ :=
      fallBack_longest filled _ (longest.candidate byte) below (Nat.lt_succ_self _)
    rw [if_pos going, fell, ok_bind, fetch_of_some found, ok_bind]
    refine ⟨_, rfl, ⟨position, ?_, fun _ => longer⟩, rfl, rfl⟩
    rw [decide_eq_true_iff, infix_concat_iff, or_iff_left absent]
    exact longer.eq_length_iff
  · have inside : pattern <:+: line := by
      by_cases none : pattern = []
      · exact none ▸ nil_infix
      · exact matched.mp (Bool.not_eq_false _ ▸ fun missed => going ⟨missed, none⟩)
    have isMatched := matched.mpr inside
    rw [if_neg going]
    refine ⟨_, rfl, ⟨position, ⟨fun _ => inside.trans ⟨[], [byte], rfl⟩, fun _ => isMatched⟩,
      fun missed => ?_⟩, rfl, rfl⟩
    exact absurd (missed.symm.trans isMatched) Bool.false_ne_true

theorem Search.nextLine_at : (search.nextLine pattern).At pattern [] :=
  ⟨rfl, decide_eq_true_iff.trans infix_nil.symm, fun _ => longest_nil⟩

theorem copyOut_eq (rounds : Nat) {remaining : Nat} (inside : remaining ≤ source.rest.length)
    (enough : remaining < rounds) :
    ∃ after, copyOut rounds remaining source output =
      .ok (after, output ++ source.rest.take remaining) ∧ after.items = source.items := by
  induction rounds generalizing remaining source output with
  | zero => exact absurd enough (Nat.not_lt_zero _)
  | succ rounds hypothesis =>
    rw [copyOut]
    by_cases none : remaining = 0
    · rw [if_pos none, none, take_zero, append_nil]
      exact ⟨source, rfl, rfl⟩
    have maximum : bufferBytes = 512 := rfl
    have more : source.chunk (min remaining bufferBytes) ≠ [] := fun empty => none (by
      rw [Source.chunk_eq_nil.mp empty] at inside
      exact Nat.eq_zero_of_le_zero inside)
    have some := length_pos_of_ne_nil more
    have short := @Source.chunk_length _ source (min remaining bufferBytes) (by omega)
    have split := @Source.chunk_append_rest _ source (min remaining bufferBytes)
    rw [← split, length_append] at inside
    have least : (source.chunk (min remaining bufferBytes)).length ≤ remaining :=
      Nat.le_trans short (Nat.min_le_left _ _)
    obtain ⟨after, copied, same⟩ := @hypothesis
      (output ++ source.chunk (min remaining bufferBytes))
      (source.advance (min remaining bufferBytes))
      (remaining - (source.chunk (min remaining bufferBytes)).length) (by omega) (by omega)
    refine ⟨after, ?_, same⟩
    dsimp only
    rw [if_neg none, if_neg more, copied, ← split, take_append, take_of_length_le least,
      append_assoc]

theorem outputRange_line {start finish : Nat} (text : source.items.drop start = line ++ rest)
    (ends : finish = start + line.length) :
    ∃ after, outputRange source start finish output = .ok (after, output ++ line) ∧
      after.items = source.items := by
  have reads : (source.seek start).rest = line ++ rest := text
  obtain ⟨after, copied, same⟩ := @copyOut_eq output (source.seek start) (finish - start + 1)
    (finish - start) (by
      rw [reads, length_append]
      omega) (Nat.lt_succ_self _)
  rw [reads, ends, Nat.add_sub_cancel_left, take_left] at copied
  exact ⟨after, by rw [outputRange, ends, Nat.add_sub_cancel_left, copied], same⟩

theorem matchingFrom_newline : matchingFrom pattern line (newline :: rest) =
    if pattern <:+: line ++ [newline] then
      (line ++ [newline]) :: matchingFrom pattern [] rest
    else matchingFrom pattern [] rest := by
  rw [matchingFrom, linesFrom, if_pos rfl, filter_cons]
  simp only [decide_eq_true_eq]
  rfl

theorem matchingFrom_nil : matchingFrom pattern line [] =
    if line ≠ [] ∧ pattern <:+: line then [line] else [] := by
  rw [matchingFrom, linesFrom]
  by_cases none : line = []
  · rw [if_pos none, if_neg fun both => both.1 none]
    rfl
  · rw [if_neg none, filter_singleton]
    simp [none]

/-- What was printed and what the rest of the file still gives are all the matching lines. -/
structure Sound (pattern content : Bytes) (search : Search) (output line rest : Bytes) : Prop where
  reads : search.At pattern line
  text : content.drop search.lineStart = line ++ rest
  printed : output ++ (matchingFrom pattern line rest).flatten = (matchingLines pattern content).flatten
  any : search.anyMatch = true ∨ matchingFrom pattern line rest ≠ [] ↔
    matchingLines pattern content ≠ []

/-- A chunk is searched to its end or to a line that is printed. -/
theorem scan_sound (filled : Filled pattern table pattern.length) (chunk : Bytes)
    (sound : Sound pattern content search output line (chunk ++ source.rest))
    (file : source.items = content) :
    ∃ after behind written line, scan pattern table search source output chunk =
      .ok (after, behind, written) ∧ behind.items = content ∧
        Sound pattern content after written line behind.rest ∧
          behind.rest.length ≤ source.rest.length + (chunk.length - 1) := by
  induction chunk generalizing search output line with
  | nil => exact ⟨search, source, output, line, rfl, file, sound, Nat.le_refl _⟩
  | cons byte chunk hypothesis =>
    obtain ⟨next, taken, nextReads, start, any⟩ := sound.reads.take filled byte
    have text : content.drop next.lineStart = (line ++ [byte]) ++ (chunk ++ source.rest) := by
      rw [start, sound.text, append_assoc]
      rfl
    have size : (byte :: chunk).length - 1 = chunk.length := rfl
    rw [scan, taken, ok_bind]
    by_cases ends : byte = newline
    case neg =>
      have same : matchingFrom pattern line (byte :: (chunk ++ source.rest)) =
          matchingFrom pattern (line ++ [byte]) (chunk ++ source.rest) := by
        rw [matchingFrom, linesFrom, if_neg ends]
        rfl
      obtain ⟨after, behind, written, line, scanned, items, sound, fewer⟩ :=
        hypothesis ⟨nextReads, text, same ▸ sound.printed, any ▸ same ▸ sound.any⟩
      exact ⟨after, behind, written, line, (if_pos ends).trans scanned, items, sound, by omega⟩
    subst ends
    have position := nextReads.position
    have behind : content.drop next.position = chunk ++ source.rest := by
      rw [position, ← drop_drop, text, drop_left]
    obtain ⟨-, -, printed, lines⟩ := sound
    rw [cons_append, matchingFrom_newline] at printed lines
    rw [if_neg (not_not.mpr rfl)]
    by_cases found : next.matched = true
    · rw [if_pos (nextReads.matched.mp found)] at printed lines
      obtain ⟨last, copied, same⟩ := @outputRange_line output _ _ source _ _ (file ▸ text) position
      rw [if_pos found, copied, ok_bind]
      have total : (last.seek next.position).rest = chunk ++ source.rest := by
        rw [← behind, ← file, ← same]
        rfl
      have fresh := @Search.nextLine_at pattern next
      refine ⟨_, _, _, [], rfl, same.trans file, ⟨⟨rfl, fresh.matched, fresh.state⟩, ?_, ?_, ?_⟩, ?_⟩
      · rwa [total]
      · rwa [total, append_assoc]
      · exact ⟨fun _ => lines.mp (.inr (cons_ne_nil _ _)), fun _ => .inl rfl⟩
      · rw [total, length_append]
        omega
    · rw [if_neg fun inside => found (nextReads.matched.mpr inside)] at printed lines
      obtain ⟨after, behind, written, line, scanned, items, sound, fewer⟩ :=
        hypothesis ⟨Search.nextLine_at, behind, printed, any ▸ lines⟩
      exact ⟨after, behind, written, line, (if_neg found).trans scanned, items, sound, by omega⟩

/-- The status and the output that a file asks for. -/
def expected (pattern content : Bytes) : Nat × Bytes :=
  (if matchingLines pattern content = [] then statusNoMatch else statusMatch,
    (matchingLines pattern content).flatten)

theorem Sound.finish (sound : Sound pattern content search output line [])
    (file : source.items = content) :
    finish search source output = .ok (expected pattern content) := by
  obtain ⟨⟨position, matched, -⟩, text, printed, any⟩ := sound
  have started : search.lineStart < search.position ↔ line ≠ [] := by
    rw [position, ← length_pos_iff]
    omega
  rw [matchingFrom_nil] at printed any
  unfold Grep.finish expected
  by_cases last : line ≠ [] ∧ pattern <:+: line
  · obtain ⟨after, copied, -⟩ := @outputRange_line output _ _ source _ _ (file ▸ text) position
    rw [if_pos last] at printed any
    rw [if_pos ⟨started.mpr last.1, matched.mpr last.2⟩, copied, ok_bind,
      if_neg (any.mp (.inr (cons_ne_nil _ _))), ← printed]
    simp
  · rw [if_neg last] at printed any
    rw [if_neg fun both => last ⟨started.mp both.1, matched.mp both.2⟩, ← printed]
    have status : search.anyMatch = true ↔ ¬matchingLines pattern content = [] :=
      (or_iff_left fun some => some rfl).symm.trans any
    by_cases none : matchingLines pattern content = []
    · rw [if_neg fun some => status.mp some none, if_pos none]
      simp
    · rw [if_pos (status.mpr none), if_neg none]
      simp

theorem searchLoop_expected (filled : Filled pattern table pattern.length) (rounds : Nat)
    (sound : Sound pattern content search output line source.rest) (file : source.items = content)
    (enough : source.rest.length < rounds) :
    searchLoop pattern table rounds search source output = .ok (expected pattern content) := by
  induction rounds generalizing search source output line with
  | zero => exact absurd enough (Nat.not_lt_zero _)
  | succ rounds hypothesis =>
    rw [searchLoop]
    by_cases over' : source.chunk bufferBytes = []
    · rw [if_pos over']
      rw [Source.chunk_eq_nil.mp over'] at sound
      exact sound.finish file
    · have fewer := length_pos_of_ne_nil over'
      rw [← @Source.chunk_append_rest _ source bufferBytes] at sound enough
      rw [length_append] at enough
      obtain ⟨after, behind, written, line, scanned, items, sound, left⟩ :=
        scan_sound filled _ sound file
      rw [if_neg over', scanned, ok_bind]
      exact hypothesis sound items (Nat.lt_of_le_of_lt left (by omega))

end Lines

/-- However the reads are split, the lines with the pattern are printed, each once. -/
theorem grep_expected (pattern content : Bytes) (sizes : Nat → Nat)
    (fits : pattern.length ≤ maximumPatternBytes) :
    grep pattern content sizes = .ok (expected pattern content) := by
  obtain ⟨table, built, filled⟩ := buildPrefix_filled fits
  rw [grep, built, ok_bind]
  refine @searchLoop_expected _ content [] [] _ _ _ filled _ ⟨⟨rfl, ?_, fun _ => longest_nil⟩, rfl,
    rfl, ⟨fun some => some.resolve_left Bool.false_ne_true, .inr⟩⟩ rfl (Nat.lt_succ_self _)
  exact decide_eq_true_iff.trans infix_nil.symm

/-- A pattern that is found across two reads, in the last line as in the first. -/
theorem splitReads_expected : grep [97, 98] [97, 97, 98, 10, 99, 10, 97, 98] (fun _ => 2) =
      .ok (statusMatch, [97, 97, 98, 10, 97, 98]) :=
  grep_expected [97, 98] [97, 97, 98, 10, 99, 10, 97, 98] (fun _ => 2) (by decide)

end ZigOs.Sdk.Grep
