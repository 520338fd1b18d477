/-
This file models the command reader of the editor. Bytes that are left over from a read, a
line that is not ended, its overflow and a line feed that belongs to a return all stay from
one call to the next. What comes out does not depend on where the reads end: the input is
cut at its line ends, and a line that is too long is reported once.
-/

import ZigOs.Lib.Chunks
import ZigOs.Lib.Outcome

namespace ZigOs.Sdk.Edit

open Chunks List

abbrev Bytes : Type := List UInt8

abbrev carriageReturn : UInt8 := 13
abbrev lineFeed : UInt8 := 10
abbrev maximumCommandBytes : Nat := 256
abbrev inputChunkBytes : Nat := 512

inductive Fault where
  | outOfBounds | endless
  deriving DecidableEq, Repr

abbrev Outcome (Value : Type) := Except Fault Value

inductive CommandRead where
  | line (contents : Bytes)
  | eof | tooLong
  deriving DecidableEq, Repr

structure CommandReader where
  pending : Bytes := List.replicate inputChunkBytes 0
  pendingStart : Nat := 0
  pendingEnd : Nat := 0
  line : Bytes := List.replicate maximumCommandBytes 0
  lineLength : Nat := 0
  overflowed : Bool := false
  ignoreNextLf : Bool := false

/-! ### Buffers -/

def load (buffer : Bytes) (index : Nat) : Outcome UInt8 :=
  buffer[index]?.elim (.error .outOfBounds) .ok

def store (buffer : Bytes) (index : Nat) (byte : UInt8) : Outcome Bytes :=
  if index < buffer.length then .ok (buffer.set index byte) else .error .outOfBounds

/-- The first bytes of a buffer, which must be as long. -/
def front (buffer : Bytes) (length : Nat) : Outcome Bytes :=
  if length ≤ buffer.length then .ok (buffer.take length) else .error .outOfBounds

/-! ### The reader -/

namespace CommandReader

variable (reader : CommandReader)

def dropLine : CommandReader := { reader with lineLength := 0, overflowed := false }

def finish : Outcome (CommandRead × CommandReader) :=
  if reader.overflowed then .ok (.tooLong, reader.dropLine)
  else front reader.line reader.lineLength >>= fun contents => .ok (.line contents, reader.dropLine)

/-- What becomes of one byte: a line is finished, or the reader goes on. -/
def take (byte : UInt8) : Outcome (Option CommandRead × CommandReader) :=
  if reader.ignoreNextLf ∧ byte = lineFeed then .ok (none, { reader with ignoreNextLf := false })
  else if byte = carriageReturn then
    (fun done => (some done.1, done.2)) <$> finish { reader with ignoreNextLf := true }
  else if byte = lineFeed then
    (fun done => (some done.1, done.2)) <$> finish { reader with ignoreNextLf := false }
  else if reader.overflowed then .ok (none, { reader with ignoreNextLf := false })
  else if reader.lineLength = reader.line.length then
    .ok (none, { reader with ignoreNextLf := false, overflowed := true })
  else
    store reader.line reader.lineLength byte >>= fun line =>
    .ok (none, { reader with ignoreNextLf := false, line, lineLength := reader.lineLength + 1 })

/-- What is returned when there is nothing more to read. -/
def finishInput : Outcome (CommandRead × CommandReader) :=
  if reader.overflowed then .ok (.tooLong, reader.dropLine)
  else if reader.lineLength = 0 then .ok (.eof, reader)
  else reader.finish

def refill (received : Bytes) : CommandReader :=
  { reader with
    pending := received ++ reader.pending.drop received.length
    pendingStart := 0
    pendingEnd := received.length }

/-- The next byte, and the reader behind it. -/
def consume : Outcome (Option CommandRead × CommandReader) :=
  load reader.pending reader.pendingStart >>= fun byte =>
  take { reader with pendingStart := reader.pendingStart + 1 } byte

/-- The loop of a call, with so many rounds. -/
def next : Nat → CommandReader → Source UInt8 → Outcome (CommandRead × CommandReader × Source UInt8)
  | 0, _, _ => .error .endless
  | rounds + 1, reader, source =>
    let empty := reader.pendingStart = reader.pendingEnd
    let received := source.chunk inputChunkBytes
    let source' := if empty then source.advance inputChunkBytes else source
    if empty ∧ received = [] then (fun done => (done.1, done.2, source')) <$> reader.finishInput
    else
      consume (if empty then reader.refill received else reader) >>= fun done =>
      done.1.elim (next rounds done.2 source') fun result => .ok (result, done.2, source')

/-- Calls up to the end of the input, at most so many, each with so many rounds. -/
def commands (rounds : Nat) : Nat → CommandReader → Source UInt8 → Outcome (List CommandRead)
  | 0, _, _ => .error .endless
  | calls + 1, reader, source =>
    next rounds reader source >>= fun done =>
    if done.1 = .eof then .ok [.eof]
    else (done.1 :: ·) <$> commands rounds calls done.2.1 done.2.2

end CommandReader

/-! ### Lines -/

/-- The input cut at its line ends, behind a line that has begun. -/
def cutLines (line : Bytes) : Bytes → List Bytes
  | [] => if line = [] then [] else [line]
  | 13 :: 10 :: rest => line :: cutLines [] rest
  | byte :: rest =>
    if byte = carriageReturn ∨ byte = lineFeed then line :: cutLines [] rest
    else cutLines (line ++ [byte]) rest

def commandOf (line : Bytes) : CommandRead :=
  if line.length ≤ maximumCommandBytes then .line line else .tooLong

/-- What the calls return for an input. -/
def expected (input : Bytes) : List CommandRead := (cutLines [] input).map commandOf ++ [.eof]

/-! ### One byte -/

/-- The input without a line feed at its front. -/
def dropLf (input : Bytes) : Bytes := if input.head? = some lineFeed then input.tail else input

/-- The lines that come out, where a line feed at the front may belong to the line before. -/
def cut (ignore : Bool) (line input : Bytes) : List Bytes :=
  cutLines line (if ignore then dropLf input else input)

section Cutting

variable {line rest : Bytes} {byte : UInt8}

theorem cutLines_return : cutLines line (carriageReturn :: rest) = line :: cut true [] rest := by
  rcases rest with _ | ⟨byte, rest⟩
  · rfl
  · obtain rfl | feed := eq_or_ne byte lineFeed
    · rfl
    · have kept : dropLf (byte :: rest) = byte :: rest := if_neg fun same => feed (Option.some.inj same)
      rw [cut, if_pos rfl, kept, cutLines]
      · exact if_pos (.inl rfl)
      · rintro _ - same
        exact feed (List.cons.inj same).1

theorem cutLines_feed : cutLines line (lineFeed :: rest) = line :: cut false [] rest := by
  rw [cutLines]
  · exact if_pos (.inr rfl)
  · rintro _ same -
    cases same

theorem cutLines_other (notReturn : byte ≠ carriageReturn) (notFeed : byte ≠ lineFeed) :
    cutLines line (byte :: rest) = cut false (line ++ [byte]) rest := by
  rw [cutLines]
  · exact if_neg (not_or.mpr ⟨notReturn, notFeed⟩)
  · rintro _ same -
    exact absurd same notReturn

theorem cut_cons (ignore : Bool) (goes : ¬(ignore = true ∧ byte = lineFeed)) :
    cut ignore line (byte :: rest) = cutLines line (byte :: rest) := by
  unfold cut
  cases ignore with
  | false => rfl
  | true =>
    exact congrArg (cutLines line) (if_neg fun same => goes ⟨rfl, Option.some.inj same⟩)

end Cutting

namespace CommandReader

/-- The reader has this line so far, or as much of it as fits. -/
structure Holds (reader : CommandReader) (line : Bytes) : Prop where
  buffer : reader.line.length = maximumCommandBytes
  overflowed : reader.overflowed = decide (maximumCommandBytes < line.length)
  lineLength : reader.lineLength = min line.length maximumCommandBytes
  contents : reader.line.take reader.lineLength = line.take maximumCommandBytes

/-- The bytes that were read and not taken. -/
def unread (reader : CommandReader) : Bytes :=
  (reader.pending.take reader.pendingEnd).drop reader.pendingStart

/-- Everything that is still to come. -/
def left (reader : CommandReader) (source : Source UInt8) : Bytes := reader.unread ++ source.rest

/-- The bytes that were read lie in their buffer. -/
structure Inside (reader : CommandReader) : Prop where
  ordered : reader.pendingStart ≤ reader.pendingEnd
  inside : reader.pendingEnd ≤ reader.pending.length

/-- What a reader with a line does with a byte in front of any rest. -/
inductive Took (before : CommandReader) (line : Bytes) (byte : UInt8) :
    Option CommandRead → CommandReader → Prop
  | on {after : CommandReader} {longer : Bytes} (holds : after.Holds longer)
      (least : longer.length ≤ line.length + 1)
      (same : ∀ rest, cut before.ignoreNextLf line (byte :: rest) = cut after.ignoreNextLf longer rest) :
      Took before line byte none after
  | finished {after : CommandReader} (holds : after.Holds [])
      (same : ∀ rest, cut before.ignoreNextLf line (byte :: rest) =
        line :: cut after.ignoreNextLf [] rest) : Took before line byte (some (commandOf line)) after

variable {reader : CommandReader} {line : Bytes} {byte : UInt8} {source : Source UInt8}

theorem Holds.dropLine (holds : reader.Holds line) : reader.dropLine.Holds [] :=
  ⟨holds.buffer, rfl, rfl, rfl⟩

theorem Holds.finish_eq (holds : reader.Holds line) :
    reader.finish = .ok (commandOf line, reader.dropLine) := by
  obtain ⟨buffer, overflowed, lineLength, contents⟩ := holds
  unfold finish commandOf
  rw [overflowed]
  by_cases long : maximumCommandBytes < line.length
  · rw [decide_eq_true long, if_pos rfl, if_neg (Nat.not_le.mpr long)]
  · rw [decide_eq_false long, if_neg Bool.false_ne_true, if_pos (Nat.not_lt.mp long), front, contents,
      take_of_length_le (Nat.not_lt.mp long), if_pos (by omega)]
    rfl

/-- One byte goes into the line, ends it or is passed over, within the buffer. -/
theorem Holds.take_took (holds : reader.Holds line) (byte : UInt8) :
    ∃ result after, reader.take byte = .ok (result, after) ∧ Took reader line byte result after ∧
      after.pending = reader.pending ∧ after.pendingStart = reader.pendingStart ∧
        after.pendingEnd = reader.pendingEnd := by
  obtain ⟨buffer, overflowed, lineLength, contents⟩ := id holds
  unfold take
  by_cases skipped : reader.ignoreNextLf = true ∧ byte = lineFeed
  · rw [if_pos skipped]
    obtain ⟨ignore, rfl⟩ := skipped
    refine ⟨_, _, rfl, .on ⟨buffer, overflowed, lineLength, contents⟩ (Nat.le_succ _) fun rest => ?_, rfl,
      rfl, rfl⟩
    rw [ignore]
    rfl
  rw [if_neg skipped]
  have goes (rest : Bytes) := @cut_cons line rest byte _ skipped
  by_cases ends : byte = carriageReturn
  · have finished := @Holds.finish_eq { reader with ignoreNextLf := true } line
      ⟨buffer, overflowed, lineLength, contents⟩
    rw [if_pos ends, finished]
    refine ⟨_, _, rfl, .finished ⟨buffer, rfl, rfl, rfl⟩ fun rest => ?_, rfl, rfl, rfl⟩
    rw [goes, ends]
    exact cutLines_return
  rw [if_neg ends]
  by_cases feed : byte = lineFeed
  · have finished := @Holds.finish_eq { reader with ignoreNextLf := false } line
      ⟨buffer, overflowed, lineLength, contents⟩
    rw [if_pos feed, finished]
    refine ⟨_, _, rfl, .finished ⟨buffer, rfl, rfl, rfl⟩ fun rest => ?_, rfl, rfl, rfl⟩
    rw [goes, feed]
    exact cutLines_feed
  rw [if_neg feed]
  have maximum : maximumCommandBytes = 256 := rfl
  have longer (rest : Bytes) := (goes rest).trans (cutLines_other ends feed)
  have length : (line ++ [byte]).length = line.length + 1 := length_append
  rw [overflowed]
  rcases Nat.lt_trichotomy line.length maximumCommandBytes with short | full | long
  · rw [decide_eq_false (by omega), if_neg Bool.false_ne_true, if_neg (by omega), store,
      if_pos (by omega)]
    refine ⟨_, _, rfl, .on ⟨?_, ?_, ?_, ?_⟩ (Nat.le_of_eq length) longer, rfl, rfl, rfl⟩
    · exact length_set.trans buffer
    · rw [length, decide_eq_false (by omega)]
    · dsimp only
      omega
    · dsimp only
      have same : reader.lineLength = line.length := by omega
      rw [take_of_length_le (Nat.le_of_lt short), same] at contents
      rw [take_of_length_le (show (line ++ [byte]).length ≤ _ by omega), same, take_add_one,
        getElem?_set_self (by omega), take_set_of_le (Nat.le_refl _), contents]
      rfl
  · rw [decide_eq_false (by omega), if_neg Bool.false_ne_true, if_pos (by omega)]
    refine ⟨_, _, rfl, .on ⟨buffer, ?_, ?_, ?_⟩ (Nat.le_of_eq length) longer, rfl, rfl, rfl⟩
    · rw [length, decide_eq_true (by omega)]
    · dsimp only
      omega
    · rw [take_append_of_le_length (by omega)]
      exact contents
  · rw [decide_eq_true long, if_pos rfl]
    refine ⟨_, _, rfl, .on ⟨buffer, ?_, ?_, ?_⟩ (Nat.le_of_eq length) longer, rfl, rfl, rfl⟩
    · rw [length, decide_eq_true (by omega)]
    · dsimp only
      omega
    · rwa [take_append_of_le_length (by omega)]

/-! ### Calls -/

/-- The byte that is taken was read, and lies inside the buffer. -/
theorem Inside.consume_took (inside : reader.Inside) (holds : reader.Holds line)
    (some : reader.pendingStart ≠ reader.pendingEnd) :
    ∃ byte result after, reader.consume = .ok (result, after) ∧ Took reader line byte result after ∧
      after.Inside ∧ reader.unread = byte :: after.unread := by
  obtain ⟨ordered, within⟩ := inside
  have below : reader.pendingStart < reader.pending.length := by omega
  obtain ⟨result, after, taken, took, pending, start, end'⟩ :=
    @Holds.take_took { reader with pendingStart := reader.pendingStart + 1 } line
      ⟨holds.buffer, holds.overflowed, holds.lineLength, holds.contents⟩
      reader.pending[reader.pendingStart]
  refine ⟨reader.pending[reader.pendingStart], result, after, ?_, ?_, ⟨?_, ?_⟩, ?_⟩
  · rwa [consume, load, getElem?_eq_getElem below]
  · cases took with
    | on holds least same => exact .on holds least same
    | finished holds same => exact .finished holds same
  · rw [start, end']
    dsimp only
    omega
  · rwa [end', pending]
  · rw [unread, unread, start, end', pending, drop_eq_getElem_cons (by
      rw [length_take]
      omega), getElem_take]

/-- A call that returns a line, or the end of the input. -/
inductive Returned (before : CommandReader) (line : Bytes) (source : Source UInt8) :
    CommandRead → CommandReader → Source UInt8 → Prop
  | eof {after : CommandReader} {rest : Source UInt8} (none : cut before.ignoreNextLf line
      (before.left source) = []) : Returned before line source .eof after rest
  | line {after : CommandReader} {rest : Source UInt8} {found : Bytes} (holds : after.Holds [])
      (inside : after.Inside)
      (fewer : (after.left rest).length < line.length + (before.left source).length)
      (same : cut before.ignoreNextLf line (before.left source) =
        found :: cut after.ignoreNextLf [] (after.left rest)) :
      Returned before line source (commandOf found) after rest

theorem Holds.finishInput_returned (holds : reader.Holds line) (none : reader.left source = [])
    (inside : reader.Inside) (rest : Source UInt8) (over' : rest.rest = []) :
    ∃ result after, reader.finishInput = .ok (result, after) ∧
      Returned reader line source result after rest := by
  have lines : cut reader.ignoreNextLf line (reader.left source) =
      if line = [] then [] else [line] := by
    rw [none]
    unfold cut dropLf
    cases reader.ignoreNextLf <;> rfl
  have finished := holds.finish_eq
  have overflowed := holds.overflowed
  have lineLength := holds.lineLength
  have maximum : maximumCommandBytes = 256 := rfl
  obtain rfl | empty := eq_or_ne line ([])
  · have isEof : reader.finishInput = .ok (.eof, reader) := by
      rw [finishInput, overflowed, if_neg (by decide), lineLength]
      rfl
    exact ⟨_, _, isEof, .eof lines⟩
  · have some := length_pos_of_ne_nil empty
    have unread : reader.unread = [] := (append_eq_nil_iff.mp none).1
    have leaves : reader.dropLine.left rest = [] := by
      show reader.unread ++ rest.rest = []
      rw [unread, over']
      rfl
    have isFinish : reader.finishInput = reader.finish := by
      rw [finishInput, if_neg (show ¬reader.lineLength = 0 by omega)]
      split
      · rename_i long
        rw [finish, if_pos long]
      · rfl
    rw [isFinish, finished]
    refine ⟨_, _, rfl, .line holds.dropLine ⟨inside.ordered, inside.inside⟩ ?_ ?_⟩
    · rw [leaves, none]
      exact Nat.add_pos_left some _
    · rw [lines, if_neg empty, leaves]
      unfold cut dropLf
      cases reader.dropLine.ignoreNextLf <;> rfl

/-- A call returns what comes first, if it has a round for every byte. -/
theorem next_returned (rounds : Nat) (holds : reader.Holds line) (inside : reader.Inside)
    (enough : (reader.left source).length < rounds) :
    ∃ result after rest, next rounds reader source = .ok (result, after, rest) ∧
      Returned reader line source result after rest := by
  induction rounds generalizing reader line source with
  | zero => exact absurd enough (Nat.not_lt_zero _)
  | succ rounds hypothesis =>
    by_cases exhausted : reader.pendingStart = reader.pendingEnd ∧ source.chunk inputChunkBytes = []
    · obtain ⟨empty, nothing⟩ := exhausted
      have over' : source.rest = [] := Source.chunk_eq_nil.mp nothing
      have unread : reader.unread = [] := drop_eq_nil_iff.mpr (by
        rw [length_take, empty]
        exact Nat.min_le_left _ _)
      have rested : (source.advance inputChunkBytes).rest = [] := by
        have split := @Source.chunk_append_rest _ source inputChunkBytes
        rw [over'] at split
        exact (append_eq_nil_iff.mp split).2
      have nothingLeft : reader.left source = [] := by
        rw [left, unread, over']
        rfl
      obtain ⟨result, after, finished, returned⟩ :=
        holds.finishInput_returned nothingLeft inside _ rested
      refine ⟨result, after, source.advance inputChunkBytes, ?_, returned⟩
      rw [next, if_pos ⟨empty, nothing⟩, if_pos empty, finished]
      rfl
    -- a reader with bytes to take, from before or from a read
    obtain ⟨ready, behind, isReady, isBehind, readyHolds, readyInside, some, same, ignore⟩ :
        ∃ ready behind, (if reader.pendingStart = reader.pendingEnd then
            reader.refill (source.chunk inputChunkBytes) else reader) = ready ∧
          (if reader.pendingStart = reader.pendingEnd then source.advance inputChunkBytes
            else source) = behind ∧ ready.Holds line ∧ ready.Inside ∧
          ready.pendingStart ≠ ready.pendingEnd ∧ ready.left behind = reader.left source ∧
          ready.ignoreNextLf = reader.ignoreNextLf := by
      by_cases empty : reader.pendingStart = reader.pendingEnd
      · rw [if_pos empty, if_pos empty]
        have more : source.chunk inputChunkBytes ≠ [] := fun none => exhausted ⟨empty, none⟩
        refine ⟨_, _, rfl, rfl, ⟨holds.buffer, holds.overflowed, holds.lineLength, holds.contents⟩,
          ⟨Nat.zero_le _, ?_⟩, Nat.ne_of_lt (length_pos_of_ne_nil more), ?_, rfl⟩
        · rw [refill, length_append]
          exact Nat.le_add_right _ _
        · have unread : reader.unread = [] := drop_eq_nil_iff.mpr (by
            rw [length_take, empty]
            exact Nat.min_le_left _ _)
          rw [left, left, unread, nil_append, ← @Source.chunk_append_rest _ source inputChunkBytes]
          exact congrArg (· ++ _) take_left
      · rw [if_neg empty, if_neg empty]
        exact ⟨_, _, rfl, rfl, holds, inside, empty, rfl, rfl⟩
    obtain ⟨byte, result, after, consumed, took, afterInside, unread⟩ :=
      readyInside.consume_took readyHolds some
    have isNext : next (rounds + 1) reader source =
        result.elim (next rounds after behind) fun result => .ok (result, after, behind) := by
      rw [next, if_neg exhausted, isReady, isBehind, consumed]
      rfl
    have split : reader.left source = byte :: after.left behind := by
      rw [← same, left, unread]
      rfl
    rw [split, length_cons] at enough
    rw [isNext]
    cases took with
    | finished afterHolds takes =>
      refine ⟨_, after, behind, rfl, .line afterHolds afterInside ?_ ?_⟩
      · rw [split, length_cons]
        omega
      · rw [split, ← ignore]
        exact takes _
    | on afterHolds least takes =>
      obtain ⟨result, last, rest, nexts, returned⟩ :=
        @hypothesis after _ behind afterHolds afterInside (by omega)
      refine ⟨result, last, rest, nexts, ?_⟩
      have whole := takes (after.left behind)
      rw [ignore, ← split] at whole
      cases returned with
      | eof none => exact .eof (whole.trans none)
      | line holds inside fewer same =>
        refine .line holds inside ?_ (whole.trans same)
        rw [split, length_cons]
        omega

/-- The calls return one result for every line and then the end of the input. -/
theorem commands_eq (rounds calls : Nat) (holds : reader.Holds []) (inside : reader.Inside)
    (enough : (reader.left source).length < rounds) (often : (reader.left source).length < calls) :
    commands rounds calls reader source =
      .ok ((cut reader.ignoreNextLf [] (reader.left source)).map commandOf ++ [.eof]) := by
  induction calls generalizing reader source with
  | zero => exact absurd often (Nat.not_lt_zero _)
  | succ calls hypothesis =>
    obtain ⟨result, after, rest, called, returned⟩ := next_returned rounds holds inside enough
    rw [commands, called, Except.ok_bind]
    cases returned with
    | eof none =>
      rw [none]
      rfl
    | @line after rest found afterHolds afterInside fewer same =>
      replace fewer : (after.left rest).length < (reader.left source).length := by
        rw [length_nil] at fewer
        omega
      have notEof : commandOf found ≠ .eof := by
        unfold commandOf
        split <;> exact fun same => by cases same
      rw [if_neg notEof, hypothesis afterHolds afterInside (Nat.lt_trans fewer enough)
        (Nat.lt_of_lt_of_le fewer (Nat.le_of_lt_succ often)), same]
      rfl

end CommandReader

/-- However the reads are split, the reader returns the lines of the input. -/
theorem commands_expected (input : Bytes) (sizes : Nat → Nat) :
    CommandReader.commands (input.length + 1) (input.length + 1) {} { items := input, sizes } =
      .ok (expected input) := by
  have left : CommandReader.left {} { items := input, sizes } = input := rfl
  have holds : CommandReader.Holds {} [] := ⟨length_replicate, rfl, rfl, rfl⟩
  have enough := Nat.lt_succ_self input.length
  rw [← left] at enough
  exact CommandReader.commands_eq _ _ holds ⟨Nat.le_refl _, Nat.zero_le _⟩ enough enough

end ZigOs.Sdk.Edit
