/-
This file proves which lines the user shell accepts. It reads a line slackly: an
ampersand that stands alone directly before a semicolon, or at the end behind
another ampersand, becomes part of a word. So the shell accepts its language, and
besides the lines that only this reading makes scripts.
-/

import ZigOs.Shell.Parsing

namespace ZigOs.Shell

open List Script

/-! ### What was read -/

section Views

variable {segment after : Bytes}

theorem Word.Reads.slice {word : Word} {bytes : Bytes} (reads : Word.Reads 0 segment word bytes) :
    word.slice (segment ++ after) = bytes := by
  obtain ⟨left, right, rfl, start, length⟩ := reads
  unfold Word.slice
  rw [start, length, Nat.zero_add, append_assoc, append_assoc, drop_left, take_left]

variable {Source Target : Type}

theorem map_eq_of_forall₂ {view : Source → Target} {sources : List Source} {targets : List Target}
    (reads : List.Forall₂ (fun source target => view source = target) sources targets) :
    sources.map view = targets := by
  induction reads with
  | nil => rfl
  | cons first _ hypothesis => exact congrArg₂ List.cons first hypothesis

theorem Command.Reads.slices {command : Command} {words : Script.Command}
    (reads : Command.Reads 0 segment command words) : command.slices (segment ++ after) = words :=
  map_eq_of_forall₂ (reads.imp fun _ _ reads => reads.slice)

theorem ConditionalList.Reads.script {list : ConditionalList} {meaning : Script.Conditional}
    (reads : ConditionalList.Reads 0 segment list meaning) : list.script (segment ++ after) = meaning :=
  map_eq_of_forall₂ (reads.imp fun _ _ reads => Prod.ext reads.1
    (map_eq_of_forall₂ (reads.2.imp fun _ _ reads => reads.slices)))

theorem exists_of_forall₂ {relates : Source → Target → Prop} {sources : List Source}
    {targets : List Target} (reads : List.Forall₂ relates sources targets) {source : Source}
    (member : source ∈ sources) : ∃ target, relates source target := by
  induction reads with
  | nil => cases member
  | cons first _ hypothesis =>
    rcases mem_cons.mp member with rfl | member
    · exact ⟨_, first⟩
    · exact hypothesis member

/-- The words of a parsed line stand in its storage. -/
def CommandLine.Placed (line : CommandLine) : Prop :=
  ∀ list ∈ line.lists, ∀ entry ∈ list.commands, ∀ stage ∈ entry.pipeline.stages, ∀ word ∈ stage.words,
    word.start + word.length ≤ line.storage.length

theorem placed_of_reads {lists : List ConditionalList} {meanings : List Script.Conditional}
    {background : Bool} (reads : List.Forall₂ (ConditionalList.Reads 0 segment) lists meanings) :
    CommandLine.Placed { storage := segment ++ after, lists, background } := by
  intro list listed entry among stage staged word member
  obtain ⟨meaning, reads⟩ := exists_of_forall₂ reads listed
  obtain ⟨meaning, -, reads⟩ := exists_of_forall₂ reads among
  obtain ⟨meaning, reads⟩ := exists_of_forall₂ reads staged
  obtain ⟨bytes, left, right, rfl, start, length⟩ := exists_of_forall₂ reads member
  simp only [length_append]
  omega

theorem validBackgroundList_iff (storage : Bytes) (list : ConditionalList) :
    validBackgroundList storage list = true ↔ Script.Conditional.External (list.script storage) := by
  unfold validBackgroundList Script.Conditional.External ConditionalList.script
  rcases list with ⟨_ | ⟨⟨operator, pipeline⟩, _ | ⟨next, rest⟩⟩⟩
  · simp
  · cases operator <;> simp
  · simp

end Views

/-! ### The end of a line -/

theorem trimEnd_take (drops : UInt8 → Bool) {storage : Bytes} {length : Nat} (inside : length ≤ storage.length) :
    storage.take (trimEnd drops storage length) = (storage.take length).rdropWhile drops ∧
      trimEnd drops storage length ≤ length := by
  induction length with
  | zero => exact ⟨by simp [trimEnd], Nat.le_refl _⟩
  | succ length hypothesis =>
    have last : storage.take (length + 1) = storage.take length ++ [byteAt storage length] := by
      unfold byteAt
      rw [getD_eq_getElem _ _ inside, take_append_getElem]
    unfold trimEnd
    rw [last, rdropWhile_concat]
    split
    · obtain ⟨same, shorter⟩ := hypothesis (Nat.le_of_succ_le inside)
      exact ⟨same, shorter.trans (Nat.le_succ _)⟩
    · exact ⟨last, Nat.le_refl _⟩

theorem byteAt_left {text after : Bytes} {index : Nat} (inside : index < text.length) :
    byteAt (text ++ after) index = byteAt text index := by
  unfold byteAt
  rw [getD_append _ _ _ _ inside]

theorem endsInBackground_append (text after : Bytes) :
    endsInBackground (text ++ after) text.length = endsInBackground text text.length := by
  unfold endsInBackground
  by_cases empty : text.length = 0
  · rw [empty]
    rfl
  · rw [byteAt_left (by omega), byteAt_left (by omega)]

theorem endsInBackground_concat (front : Bytes) (last : UInt8) :
    endsInBackground (front ++ [last]) (front ++ [last]).length = true ↔
      last = ampersand ∧ front.getLast? ≠ some ampersand := by
  have final : byteAt (front ++ [last]) ((front ++ [last]).length - 1) = last := by
    rw [length_append, length_singleton, Nat.add_sub_cancel]
    exact byteAt_append front [] last
  unfold endsInBackground
  rw [final]
  rcases eq_nil_or_concat' front with rfl | ⟨begin, previous, rfl⟩
  · simp
  · have before : byteAt (begin ++ [previous] ++ [last]) ((begin ++ [previous] ++ [last]).length - 2) =
        previous := by
      rw [append_assoc, length_append]
      exact byteAt_append begin [last] previous
    rw [before]
    simp

/-- A text that does not end in a space does not end in an ampersand of its own, unless the
reading is plain and its last byte is one. -/
theorem getLast?_tokensFrom {slack : Bool} {front : Bytes} {last : UInt8} (visible : isSpace last = false)
    (ends : (tokensFrom slack (.word []) (front ++ [last])).getLast? = some .ampersand) :
    slack = false ∧ last = ampersand ∧ ∀ bytes, (Pending.run slack (.word []) front).2 ≠ .ampersand bytes := by
  rw [tokensFrom_append] at ends
  generalize Pending.run slack (.word []) front = reached at ends ⊢
  obtain ⟨done, pending⟩ := reached
  have apart {slack : Bool} {front : List Token} {token : Token}
      (ends : (done ++ tokensFrom slack pending [last]).getLast? = some .ampersand)
      (other : token ≠ .ampersand) (same : tokensFrom slack pending [last] = front ++ [token]) : False := by
    rw [same, ← append_assoc, getLast?_concat] at ends
    exact other (Option.some.inj ends)
  obtain rfl | joins := eq_or_ne last ampersand
  · cases pending with
    | word bytes =>
      cases slack with
      | false => exact ⟨rfl, rfl, fun _ => Pending.noConfusion⟩
      | true => exact (@apart _ [] (.word (bytes ++ [ampersand])) ends Token.noConfusion rfl).elim
    | bar =>
      cases slack with
      | false => exact ⟨rfl, rfl, fun _ => Pending.noConfusion⟩
      | true => exact (@apart _ [.bar] (.word [ampersand]) ends Token.noConfusion rfl).elim
    | ampersand bytes =>
      exact (@apart _ (wordToken bytes) .andIf ends Token.noConfusion (append_nil _)).elim
  · exfalso
    by_cases separates : last = semicolon
    · subst separates
      exact @apart _ (pending.last slack) .semicolon ends Token.noConfusion (append_nil _)
    obtain rfl | pipes := eq_or_ne last bar
    · cases pending with
      | word bytes => exact @apart _ (wordToken bytes) .bar ends Token.noConfusion rfl
      | bar => exact @apart _ [] .orIf ends Token.noConfusion rfl
      | ampersand bytes =>
        exact @apart _ (wordToken bytes ++ [.ampersand]) .bar ends Token.noConfusion rfl
    · have ordinary : Ordinary last := ⟨separates, joins, pipes, visible⟩
      have begun (other : ∀ bytes, pending ≠ .word bytes) :
          tokensFrom slack pending [last] = pending.tokens ++ [.word [last]] := by
        show (pending.step slack last).1 ++ (pending.step slack last).2.last slack = _
        rw [step_ordinary_other ordinary other]
        rfl
      cases pending with
      | word bytes =>
        have read := @tokensFrom_ordinary slack [last]
          (fun byte member => mem_singleton.mp member ▸ ordinary) bytes []
        refine @apart _ [] (.word (bytes ++ [last])) ends Token.noConfusion (read.trans ?_)
        exact if_neg (append_ne_nil_of_right_ne_nil _ (cons_ne_nil _ _))
      | bar => exact apart ends Token.noConfusion (begun fun _ => Pending.noConfusion)
      | ampersand bytes => exact apart ends Token.noConfusion (begun fun _ => Pending.noConfusion)

/-! ### The parser -/

/-- A script whose lists, with or without a semicolon behind them, are read from a text. -/
structure Says (text : Bytes) (background : Bool) (script : Script) : Prop where
  background : script.background = background
  fits : script.Fits
  tokens : ∃ trailing, tokensFrom true (.word []) text =
    listTokens script.lists ++ trailingTokens trailing

theorem parseLists_settles (text after : Bytes) (background : Bool) :
    Settles (fun (result : CommandLine) script => result.script = script ∧ result.Placed)
      (Says text background)
      (parseLists (text ++ after) text.length background) := by
  have settles := @scanLists_settles [] text not_mem_nil [] (by decide) [] after
  simp only [nil_append, length_nil, Nat.zero_add] at settles
  unfold parseLists
  rcases settles.cases with
    ⟨⟨storage, lists⟩, ⟨more, trailing⟩, scanned, ⟨rewritten, stored, -, found, all, reads⟩, means⟩ |
      ⟨scanned, refused⟩
  · rw [scanned]
    obtain rfl : storage = rewritten ++ after := stored
    obtain rfl : lists = found := all
    have filled : more ≠ [] := fun none => (means.some none).1 rfl
    have views : lists.map (ConditionalList.script (rewritten ++ after)) = more :=
      map_eq_of_forall₂ (reads.imp fun _ _ reads => reads.script)
    have count : more.length ≤ maximumSequentialLists := (Nat.zero_add _).ge.trans means.count
    have external : (lists.getLast?.any (validBackgroundList (rewritten ++ after))) = true ↔
        ∃ list ∈ more.getLast?, Script.Conditional.External list := by
      rw [← views, getLast?_map]
      cases lists.getLast? with
      | none => simp
      | some last => simp [validBackgroundList_iff]
    show Settles _ _ (if background && !(lists.getLast?.any (validBackgroundList (rewritten ++ after)))
      then none else some (CommandLine.mk (rewritten ++ after) lists background))
    by_cases refuses : (background && !(lists.getLast?.any (validBackgroundList (rewritten ++ after)))) = true
    · rw [if_pos refuses]
      obtain ⟨rfl, inside⟩ := Bool.and_eq_true_iff.mp refuses
      refine .refused fun script said => ?_
      obtain ⟨trailing', tokens⟩ := said.tokens
      obtain ⟨rfl, -⟩ := lists_inj filled said.fits.nonempty means.fits said.fits.lists
        (means.tokens.symm.trans tokens)
      rw [external.mpr (said.fits.background said.background)] at inside
      cases inside
    · rw [if_neg refuses]
      refine .found (Script.mk more background) ⟨congrArg (Script.mk · background) views, placed_of_reads reads⟩
        ⟨rfl, ⟨filled, count, means.fits, fun runs => ?_⟩, trailing, means.tokens⟩
      refine external.mp ?_
      obtain rfl : background = true := runs
      simpa using refuses
  · rw [scanned]
    refine .refused fun script said => ?_
    obtain ⟨trailing, tokens⟩ := said.tokens
    exact refused (script.lists, trailing) ⟨tokens, fun none => absurd none said.fits.nonempty,
      (Nat.zero_add _).le.trans said.fits.count, said.fits.lists⟩

theorem ampersand_notMem (script : Script) (trailing : Bool) :
    .ampersand ∉ listTokens script.lists ++ trailingTokens trailing := by
  intro member
  rcases mem_append.mp member with member | member
  · rcases mem_joined member with same | ⟨part, among, member⟩
    · cases same
    · obtain ⟨list, -, rfl⟩ := mem_map.mp among
      rcases conditional_tokens member with (same | same) | same | ⟨_, same⟩ <;> cases same
  · cases trailing with
    | false => cases member
    | true => cases mem_singleton.mp member

variable {trailing : Bool}

/-- A script ends in an ampersand just when it is to run in the background. -/
theorem tokens_background {script : Script} {front : List Token}
    (same : script.tokens trailing = front ++ [.ampersand]) : script.background = true ∧
      front = listTokens script.lists ++ trailingTokens trailing := by
  unfold Script.tokens backgroundTokens at same
  by_cases runs : script.background = true
  · rw [if_pos runs] at same
    exact ⟨runs, (append_inj_left' same rfl).symm⟩
  · rw [if_neg runs, append_nil] at same
    exact absurd (same ▸ mem_append_right _ mem_cons_self) (ampersand_notMem script trailing)

theorem tokens_foreground {script : Script} {whole : List Token}
    (same : script.tokens trailing = whole) (open_end : whole.getLast? ≠ some .ampersand) :
    script.background = false ∧
      whole = listTokens script.lists ++ trailingTokens trailing := by
  unfold Script.tokens backgroundTokens at same
  by_cases runs : script.background = true
  · rw [if_pos runs] at same
    exact absurd (by rw [← same, getLast?_concat]) open_end
  · rw [if_neg runs, append_nil] at same
    exact ⟨Bool.eq_false_of_not_eq_true runs, same.symm⟩

/-- What the shell reads a line as. -/
def Reading (line : Bytes) (script : Script) : Prop :=
  script.Fits ∧ ∃ trailing, slackTokens line = script.tokens trailing

variable {line : Bytes}

section Lines

variable {storage : Bytes} {received : Nat}

/-- The storage in front of which the line stands. -/
theorem receivedLine_storage (whole : storage.length = maximumLine + 1) :
    ∃ byte after, storage = receivedLine storage received ++ byte :: after ∧
      trimEnd isLineEnd storage (min received maximumLine) = (receivedLine storage received).length := by
  obtain ⟨line, shorter⟩ := trimEnd_take isLineEnd
    (show min received maximumLine ≤ storage.length from whole ▸ (Nat.min_le_right _ _).trans (Nat.le_succ _))
  have inside : trimEnd isLineEnd storage (min received maximumLine) < storage.length :=
    lt_of_le_of_lt (shorter.trans (Nat.min_le_right _ _)) (whole ▸ Nat.lt_succ_self _)
  have rest : storage.drop (trimEnd isLineEnd storage (min received maximumLine)) ≠ [] :=
    fun none => absurd (drop_eq_nil_iff.mp none) (Nat.not_le.mpr inside)
  obtain ⟨byte, after, rest⟩ := exists_cons_of_ne_nil rest
  refine ⟨byte, after, ?_, ?_⟩
  · rw [← rest]
    exact (congrArg (· ++ _) line ▸ take_append_drop _ _).symm
  · unfold receivedLine
    rw [← line, length_take, Nat.min_eq_left (Nat.le_of_lt inside)]

/-- A line with content, up to its last visible byte. -/
theorem visible_end (content : ¬∀ byte ∈ line, isSpace byte = true) :
    ∃ front last spaces, line = front ++ last :: spaces ∧ isSpace last = false ∧
      (∀ byte ∈ spaces, isSpace byte = true) ∧ line.rdropWhile isSpace = front ++ [last] := by
  have filled : line.rdropWhile isSpace ≠ [] := mt rdropWhile_eq_nil_iff.mp content
  have parts : line.rdropWhile isSpace ++ line.rtakeWhile isSpace = line :=
    rdropWhile_append_rtakeWhile
  have visible := rdropWhile_last_not isSpace line filled
  generalize line.rdropWhile isSpace = text at filled parts visible
  obtain ⟨front, last, rfl⟩ := (eq_nil_or_concat' text).resolve_left filled
  refine ⟨front, last, line.rtakeWhile isSpace, ?_, ?_, fun _ => mem_rtakeWhile_imp, rfl⟩
  · rw [append_assoc] at parts
    exact parts.symm
  · simpa using visible

theorem slackTokens_blank (blank : ∀ byte ∈ line, isSpace byte = true) : slackTokens line = [] := by
  unfold slackTokens
  rw [rdropWhile_eq_nil_iff.mpr blank]
  rfl

theorem segmentHasContent_line (line after : Bytes) :
    segmentHasContent (line ++ after) 0 line.length = line.any fun byte => !isSpace byte := by
  have content := segmentHasContent_append [] after line
  simpa only [nil_append, length_nil, Nat.zero_add] using content

theorem parseCommandLine_blank (whole : storage.length = maximumLine + 1)
    (blank : ∀ byte ∈ receivedLine storage received, isSpace byte = true) :
    ∃ result, parseCommandLine storage received = some result ∧ result.script = {} ∧
      result.Placed := by
  obtain ⟨byte, after, parts, length⟩ := @receivedLine_storage _ received whole
  unfold parseCommandLine
  rw [length]
  generalize receivedLine storage received = line at parts blank
  subst parts
  dsimp only
  rw [set_append, segmentHasContent_line, if_pos]
  · exact ⟨_, rfl, rfl, fun _ listed => absurd listed not_mem_nil⟩
  · simpa using blank

theorem parseCommandLine_settles (whole : storage.length = maximumLine + 1)
    (content : ¬∀ byte ∈ receivedLine storage received, isSpace byte = true) :
    Settles (fun (result : CommandLine) script => result.script = script ∧ result.Placed)
      (Reading (receivedLine storage received)) (parseCommandLine storage received) := by
  obtain ⟨byte, after, parts, length⟩ := @receivedLine_storage _ received whole
  unfold parseCommandLine
  rw [length]
  generalize receivedLine storage received = line at parts content
  subst parts
  dsimp only
  have visible : (line.any fun byte => !isSpace byte) ≠ false := by simpa using content
  rw [set_append, segmentHasContent_line, if_neg visible]
  obtain ⟨front, last, spaces, rfl, seen, -, text⟩ := visible_end content
  have trimmed : trimEnd isSpace (front ++ last :: spaces ++ 0 :: after) (front ++ last :: spaces).length =
      (front ++ [last]).length := by
    obtain ⟨same, shorter⟩ := trimEnd_take isSpace
      (show (front ++ last :: spaces).length ≤ (front ++ last :: spaces ++ 0 :: after).length by simp)
    have count := congrArg List.length same
    rw [length_take, take_left, text, Nat.min_eq_left] at count
    · exact count
    · exact shorter.trans (by simp)
  have storage : front ++ last :: spaces ++ 0 :: after = front ++ [last] ++ (spaces ++ 0 :: after) := by
    simp only [append_assoc, cons_append, nil_append]
  rw [trimmed, storage, endsInBackground_append]
  by_cases runs : endsInBackground (front ++ [last]) (front ++ [last]).length = true
  · rw [if_pos runs]
    obtain ⟨rfl, single⟩ := (endsInBackground_concat front last).mp runs
    have tokens : slackTokens (front ++ ampersand :: spaces) =
        tokensFrom true (.word []) front ++ [.ampersand] := by
      unfold slackTokens
      rw [text]
      dsimp only
      rw [if_pos runs, dropLast_concat]
    have written : (front ++ [ampersand] ++ (spaces ++ 0 :: after)).set ((front ++ [ampersand]).length - 1) 0 =
        front ++ 0 :: (spaces ++ 0 :: after) := by
      rw [length_append, length_singleton, Nat.add_sub_cancel, append_assoc]
      exact set_append front (spaces ++ 0 :: after) ampersand 0
    rw [written, length_append, length_singleton, Nat.add_sub_cancel, segmentHasContent_line]
    by_cases empty : (front.any fun byte => !isSpace byte) = false
    · rw [if_pos empty]
      refine .refused fun script ⟨fits, trailing, same⟩ => ?_
      rw [tokens, tokensFrom_blank empty] at same
      obtain ⟨-, none⟩ := tokens_background same.symm
      obtain ⟨list, lists, filled⟩ := exists_cons_of_ne_nil fits.nonempty
      rw [filled] at none
      obtain ⟨-, -, alone⟩ := lists_single not_mem_nil none.symm
      exact conditional_ne_nil (fits.lists list (filled ▸ mem_cons_self)) alone
    · rw [if_neg empty]
      rcases (parseLists_settles front (0 :: (spaces ++ 0 :: after)) true).cases with
        ⟨result, script, parsed, same, said⟩ | ⟨parsed, refused⟩
      · rw [parsed]
        obtain ⟨trailing, read⟩ := said.tokens
        refine .found script same ⟨said.fits, trailing, ?_⟩
        rw [tokens, read]
        unfold Script.tokens
        rw [said.background]
        rfl
      · rw [parsed]
        refine .refused fun script ⟨fits, trailing, same⟩ => ?_
        obtain ⟨background, read⟩ := tokens_background (same.symm.trans tokens)
        exact refused script ⟨background, fits, trailing, read⟩
  · rw [if_neg runs]
    have tokens : slackTokens (front ++ last :: spaces) = tokensFrom true (.word []) (front ++ [last]) := by
      unfold slackTokens
      rw [text]
      dsimp only
      rw [if_neg runs]
    have ends : (tokensFrom true (.word []) (front ++ [last])).getLast? ≠ some .ampersand := fun ends =>
      Bool.noConfusion (getLast?_tokensFrom seen ends).1
    rcases (parseLists_settles (front ++ [last]) (spaces ++ 0 :: after) false).cases with
      ⟨result, script, parsed, same, said⟩ | ⟨parsed, refused⟩
    · rw [parsed]
      obtain ⟨trailing, read⟩ := said.tokens
      refine .found script same ⟨said.fits, trailing, ?_⟩
      rw [tokens, read]
      unfold Script.tokens
      rw [said.background]
      exact (append_nil _).symm
    · rw [parsed]
      refine .refused fun script ⟨fits, trailing, same⟩ => ?_
      rw [tokens] at same
      obtain ⟨background, read⟩ := tokens_foreground same.symm ends
      exact refused script ⟨background, fits, trailing, read⟩

end Lines

/-! ### The language -/

/-- A script reads the same way slackly: its only ampersand is the one that ends it. -/
theorem slackTokens_of_sentence (sentence : Sentence (tokens line)) :
    slackTokens line = tokens line := by
  by_cases blank : ∀ byte ∈ line, isSpace byte = true
  · rw [slackTokens_blank blank]
    have none := @tokensFrom_blanks false line blank []
    rw [append_nil] at none
    exact none.symm
  obtain ⟨front, last, spaces, rfl, visible, empty, text⟩ := visible_end blank
  have plain : tokens (front ++ last :: spaces) = tokensFrom false (.word []) (front ++ [last]) := by
    have whole := @tokensFrom_spaces (front ++ [last]) spaces empty
    rwa [append_assoc] at whole
  have filled : tokens (front ++ last :: spaces) ≠ [] := fun none => by
    rw [(blank_of_tokensFrom none).2 last (mem_append_right _ mem_cons_self)] at visible
    cases visible
  obtain ⟨script, trailing, fits, same⟩ := sentence.resolve_left filled
  have clean := ampersand_notMem script trailing
  rw [plain] at same ⊢
  unfold slackTokens
  rw [text]
  dsimp only
  by_cases runs : endsInBackground (front ++ [last]) (front ++ [last]).length = true
  · rw [if_pos runs, dropLast_concat]
    obtain ⟨rfl, single⟩ := (endsInBackground_concat front last).mp runs
    rw [tokensFrom_background single] at same ⊢
    rw [slack_eq ((tokens_background same.symm).2 ▸ clean)]
  · rw [if_neg runs]
    by_cases ends : (tokensFrom false (.word []) (front ++ [last])).getLast? = some .ampersand
    · -- The last ampersand stands behind a pair, which no list ends in.
      exfalso
      obtain ⟨-, rfl, paired⟩ := getLast?_tokensFrom visible ends
      have behind : front.getLast? = some ampersand := by
        by_contra single
        exact runs ((endsInBackground_concat front ampersand).mpr ⟨rfl, single⟩)
      obtain ⟨begin, rfl⟩ := getLast?_eq_some_iff.mp behind
      obtain ⟨done, ran⟩ := run_pair paired
      rw [tokensFrom_append, ran] at same
      obtain ⟨-, lists⟩ := tokens_background same.symm
      cases trailing with
      | false =>
        obtain ⟨bytes, word⟩ := endsInWord_lists fits.nonempty fits.lists
        have lists : done ++ [.andIf] = listTokens script.lists := lists.trans (append_nil _)
        rw [← lists, getLast?_concat] at word
        cases word
      | true =>
        have last := congrArg List.getLast? lists
        rw [getLast?_concat] at last
        cases last.trans getLast?_concat
    · exact slack_eq ((tokens_foreground same.symm ends).2 ▸ clean)

theorem withoutTrailing_tokens {script : Script} (fits : script.Fits) (trailing : Bool) :
    withoutTrailing (script.tokens trailing) = script.tokens false := by
  obtain ⟨bytes, word⟩ := endsInWord_lists fits.nonempty fits.lists
  unfold withoutTrailing Script.tokens
  generalize listTokens script.lists = lists at word
  cases script.background <;> cases trailing <;>
    simp [trailingTokens, backgroundTokens, word]

/-- What the grammar of the shell promises of its parser: it accepts the lines of the
language, and what it makes of a line is written with the tokens of the line. -/
structure Promised (storage : Bytes) (received : Nat) : Prop where
  accepts : (parseCommandLine storage received).isSome = true ↔
    Sentence (tokens (receivedLine storage received))
  prints : ∀ line, parseCommandLine storage received = some line →
    tokens line.script.print = withoutTrailing (tokens (receivedLine storage received))
  words : ∀ line, parseCommandLine storage received = some line → ∀ list ∈ line.script.lists,
    ∀ entry ∈ list, ∀ command ∈ entry.2, ∀ word ∈ command,
      semicolon ∉ word ∧ bar ∉ word ∧ ampersand ∉ word

section Acceptance

variable {storage : Bytes} {received : Nat}

theorem slackTokens_ne_nil (content : ¬∀ byte ∈ line, isSpace byte = true) :
    slackTokens line ≠ [] := by
  obtain ⟨front, last, spaces, rfl, visible, -, text⟩ := visible_end content
  unfold slackTokens
  rw [text]
  dsimp only
  split
  · exact append_ne_nil_of_right_ne_nil _ (cons_ne_nil _ _)
  · intro none
    rw [(blank_of_tokensFrom none).2 last (mem_append_right _ mem_cons_self)] at visible
    cases visible

/-- The shell accepts what a slack reading makes a line of its language. -/
theorem parseCommandLine_isSome (whole : storage.length = maximumLine + 1) :
    (parseCommandLine storage received).isSome = true ↔
      Sentence (slackTokens (receivedLine storage received)) := by
  by_cases blank : ∀ byte ∈ receivedLine storage received, isSpace byte = true
  · obtain ⟨result, parsed, -, -⟩ := parseCommandLine_blank whole blank
    rw [parsed]
    exact ⟨fun _ => .inl (slackTokens_blank blank), fun _ => rfl⟩
  · rcases (parseCommandLine_settles whole blank).cases with
      ⟨result, script, parsed, -, fits, trailing, same⟩ | ⟨parsed, refused⟩
    · rw [parsed]
      exact ⟨fun _ => .inr ⟨script, trailing, fits, same⟩, fun _ => rfl⟩
    · rw [parsed]
      refine ⟨fun some => absurd some Bool.false_ne_true, fun sentence => ?_⟩
      obtain ⟨script, trailing, fits, same⟩ := sentence.resolve_left (slackTokens_ne_nil blank)
      exact absurd ⟨fits, trailing, same⟩ (refused script)

/-- A parsed line is blank, or its script is what the line is read as. -/
theorem parseCommandLine_reading (whole : storage.length = maximumLine + 1) {line : CommandLine}
    (parsed : parseCommandLine storage received = some line) :
    (line.script = {} ∧ ∀ byte ∈ receivedLine storage received, isSpace byte = true) ∨
      Reading (receivedLine storage received) line.script := by
  by_cases blank : ∀ byte ∈ receivedLine storage received, isSpace byte = true
  · obtain ⟨result, found, same, -⟩ := parseCommandLine_blank whole blank
    cases (found.symm.trans parsed)
    exact .inl ⟨same, blank⟩
  · rcases (parseCommandLine_settles whole blank).cases with
      ⟨result, script, found, same, reading⟩ | ⟨found, -⟩
    · cases (found.symm.trans parsed)
      exact .inr (same.1 ▸ reading)
    · cases found.symm.trans parsed

theorem parseCommandLine_placed (whole : storage.length = maximumLine + 1) {line : CommandLine}
    (parsed : parseCommandLine storage received = some line) : line.Placed := by
  by_cases blank : ∀ byte ∈ receivedLine storage received, isSpace byte = true
  · obtain ⟨result, found, -, placed⟩ := parseCommandLine_blank whole blank
    cases (found.symm.trans parsed)
    exact placed
  · rcases (parseCommandLine_settles whole blank).cases with
      ⟨result, script, found, ⟨-, placed⟩, -⟩ | ⟨found, -⟩
    · cases (found.symm.trans parsed)
      exact placed
    · cases found.symm.trans parsed

end Acceptance

/-- The parser keeps what the grammar promises on every line but those that are scripts only
when a single ampersand at the end of a list is read as a part of a word. -/
theorem parseCommandLine_promised (storage : Bytes) (received : Nat)
    (whole : storage.length = maximumLine + 1) :
    Promised storage received ↔
      ¬(slackTokens (receivedLine storage received) ≠ tokens (receivedLine storage received) ∧
        Sentence (slackTokens (receivedLine storage received))) := by
  constructor
  · rintro promised ⟨differ, sentence⟩
    exact differ (slackTokens_of_sentence
      (promised.accepts.mp ((parseCommandLine_isSome whole).mpr sentence)))
  intro plain
  have agree (sentence : Sentence (slackTokens (receivedLine storage received))) :
      slackTokens (receivedLine storage received) = tokens (receivedLine storage received) := by
    by_contra differ
    exact plain ⟨differ, sentence⟩
  have reads {line : CommandLine} (parsed : parseCommandLine storage received = some line) :
      (line.script = {} ∧ tokens (receivedLine storage received) = []) ∨
        (line.script.Fits ∧ ∃ trailing,
          tokens (receivedLine storage received) = line.script.tokens trailing) := by
    have same := agree ((parseCommandLine_isSome whole).mp (parsed ▸ rfl))
    rcases parseCommandLine_reading whole parsed with ⟨empty, blank⟩ | ⟨fits, trailing, read⟩
    · exact .inl ⟨empty, same.symm.trans (slackTokens_blank blank)⟩
    · exact .inr ⟨fits, trailing, same.symm.trans read⟩
  have ordinary {bytes : Bytes} (member : .word bytes ∈ tokens (receivedLine storage received)) :
      bytes ≠ [] ∧ ∀ byte ∈ bytes, Ordinary byte := by
    obtain ⟨filled, each⟩ := word_ordinary member
    exact ⟨filled, fun byte member => (each byte member).resolve_right fun loose => by cases loose.1⟩
  refine ⟨?_, ?_, ?_⟩
  · rw [parseCommandLine_isSome whole]
    exact ⟨fun sentence => agree sentence ▸ sentence, fun sentence =>
      slackTokens_of_sentence sentence ▸ sentence⟩
  · intro line parsed
    rcases reads parsed with ⟨empty, none⟩ | ⟨fits, trailing, read⟩
    · rw [empty, none]
      rfl
    · rw [read, withoutTrailing_tokens fits]
      refine tokensFrom_spaced fun bytes member => ordinary ?_
      rw [read]
      unfold Script.tokens at member ⊢
      rcases mem_append.mp member with member | member
      · rcases mem_append.mp member with member | member
        · exact mem_append_left _ (mem_append_left _ member)
        · cases member
      · exact mem_append_right _ member
  · intro line parsed list listed entry among command stage word member
    rcases reads parsed with ⟨empty, -⟩ | ⟨-, trailing, read⟩
    · rw [empty] at listed
      cases listed
    · have member : .word word ∈ line.script.tokens trailing :=
        mem_append_left _ (mem_append_left _ (mem_listTokens listed among stage member))
      have each := (ordinary (read ▸ member)).2
      exact ⟨fun among => (each _ among).semicolon rfl, fun among => (each _ among).bar rfl,
        fun among => (each _ among).ampersand rfl⟩

/-- A storage that begins with a text. -/
def stored (text : Bytes) : Bytes := text ++ List.replicate (maximumLine + 1 - text.length) 0

/-- `a|b&&c;` -/
theorem parseCommandLine_promised_lists :
    Promised (stored [0x61, bar, 0x62, ampersand, ampersand, 0x63, semicolon]) 7 :=
  (parseCommandLine_promised _ 7 (by decide +kernel)).mpr fun slip => slip.1 (by decide +kernel)

/-- `a&;b` is accepted, with a first command whose word is `a&`. -/
theorem parseCommandLine_swallows : ¬∀ (storage : Bytes) (received : Nat),
    storage.length = maximumLine + 1 → Promised storage received := by
  intro promised
  have kept := promised (stored [0x61, ampersand, semicolon, 0x62]) 4 (by decide +kernel)
  have parsed : (parseCommandLine (stored [0x61, ampersand, semicolon, 0x62]) 4).map CommandLine.script =
      some { lists := [[(.always, [[[0x61, ampersand]]])], [(.always, [[[0x62]]])]] } := by
    decide +kernel
  obtain ⟨line, parsed, script⟩ := Option.map_eq_some_iff.mp parsed
  have words := kept.words line parsed
  rw [script] at words
  exact (words _ mem_cons_self _ mem_cons_self _ mem_cons_self _
    mem_cons_self).2.2 (mem_cons_of_mem _ mem_cons_self)

end ZigOs.Shell
