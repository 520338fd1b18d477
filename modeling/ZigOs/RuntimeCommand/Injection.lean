/-
This file proves that the values of variables cannot add syntax to a command
line. Two scans of one line under two environments are compared: they stand at the
same byte in the same state round by round, whatever the values are, and so they
find the same stages, words and redirections. Beside a scan runs a record of which
words have a variable in them; the other words are the same in both.
-/

import ZigOs.Lib.Outcome
import ZigOs.RuntimeCommand.Quoting

namespace ZigOs.RuntimeCommand

open List Except Scanner

/-! ### Which words have a variable in them -/

namespace Scanner

/-- This round reads a variable, outside quotes or inside double ones. -/
def readsVariable (scanner : Scanner) (text : Bytes) : Bool :=
  !scanner.escaped && text[scanner.index]? == some dollar &&
    (scanner.quote == 0 || scanner.quote == doubleQuote) &&
      ((variableName text scanner.index).toOption.getD none).isSome

/-- A word ended between the two states. -/
def wordEnds (scanner next : Scanner) : Bool := scanner.tokenStarted && !next.tokenStarted

end Scanner

/-- For each word of each stage: a variable occurs in it. -/
abbrev Marks := List (List Bool)

/-- A scanner with a record beside it: whether the word that is being read has a variable in it, and
which of the words before it have. -/
structure Marked where
  scanner : Scanner := {}
  expanded : Bool := false
  marks : Marks := [[]]

namespace Marked

/-- Bring the record up to date when the scanner has moved on. -/
def follow (marked : Marked) (text : Bytes) (next : Scanner) : Marked where
  scanner := next
  expanded :=
    if marked.scanner.wordEnds next then false
    else marked.expanded || marked.scanner.readsVariable text
  marks :=
    (if marked.scanner.wordEnds next ∧ marked.scanner.expectRedirection = .none then
      marked.marks.modify marked.scanner.stageIndex (· ++ [marked.expanded])
    else marked.marks) ++
      if marked.scanner.stageIndex < next.stageIndex then [[]] else []

/-- The loop with its record. -/
def run (text : Bytes) (environment : Environment) : Nat → Marked → Except Error Marked
  | 0, marked => .ok marked
  | fuel + 1, marked =>
    if text.length < marked.scanner.index then .ok marked
    else marked.scanner.step text environment >>= fun next =>
      run text environment fuel (marked.follow text { next with index := next.index + 1 })

end Marked

/-- Which words of the line have a variable in them, stage by stage. -/
def expansions (text : Bytes) (environment : Environment) : Marks :=
  ((Marked.run text environment (text.length + 1) {}).toOption.getD {}).marks

theorem Marked.run_scanner (text : Bytes) (environment : Environment) (fuel : Nat)
    (marked : Marked) :
    (Marked.run text environment fuel marked).map (·.scanner) =
      Scanner.run text environment fuel marked.scanner := by
  induction fuel generalizing marked with
  | zero => rfl
  | succ fuel hypothesis =>
    rw [run_succ]
    unfold Marked.run
    by_cases past : text.length < marked.scanner.index
    · rw [if_pos past, if_pos past]
      rfl
    · rw [if_neg past, if_neg past]
      cases stepped : marked.scanner.step text environment with
      | error failure => rfl
      | ok next => exact hypothesis _

/-! ### Two scans of one line -/

/-- Two lists of words that agree where there is no mark. -/
structure SameWhere (marks : List Bool) (first second : List Bytes) : Prop where
  firstLength : first.length = marks.length
  secondLength : second.length = marks.length
  unmarked : ∀ position : Nat, marks[position]? = some false → first[position]? = second[position]?

theorem SameWhere.push {marks : List Bool} {first second : List Bytes}
    (same : SameWhere marks first second) {mark : Bool} {one two : Bytes}
    (equal : mark = false → one = two) :
    SameWhere (marks ++ [mark]) (first ++ [one]) (second ++ [two]) where
  firstLength := by simp [same.firstLength]
  secondLength := by simp [same.secondLength]
  unmarked := by
    intro position marked
    rcases Nat.lt_trichotomy position marks.length with before | rfl | beyond
    · rw [getElem?_append_left before] at marked
      rw [getElem?_append_left (same.firstLength ▸ before),
        getElem?_append_left (same.secondLength ▸ before)]
      exact same.unmarked position marked
    · rw [getElem?_concat_length] at marked
      have last := equal (Option.some.inj marked)
      subst last
      nth_rewrite 1 [← same.firstLength]
      rw [← same.secondLength, getElem?_concat_length, getElem?_concat_length]
    · rw [getElem?_eq_none (by simp; omega)] at marked
      cases marked

/-- Two command lines of the same shape that agree on the arguments without a mark. -/
structure Resembles (marks : Marks) (first second : CommandLine) : Prop where
  firstStages : first.stages.length = marks.length
  secondStages : second.stages.length = marks.length
  arguments : ∀ index, SameWhere ((marks[index]?).getD []) (first.stage index).arguments
    (second.stage index).arguments
  input : first.inputPath.isSome = second.inputPath.isSome
  output : first.outputPath.isSome = second.outputPath.isSome
  append : first.appendOutput = second.appendOutput
  background : first.background = second.background

/-- Two scanners that stand at the same byte in the same state. -/
structure Alike (expanded : Bool) (marks : Marks) (first second : Scanner) : Prop where
  stageIndex : first.stageIndex = second.stageIndex
  index : first.index = second.index
  quote : first.quote = second.quote
  escaped : first.escaped = second.escaped
  tokenStarted : first.tokenStarted = second.tokenStarted
  expectRedirection : first.expectRedirection = second.expectRedirection
  token : expanded = false → first.token = second.token
  inStages : first.stageIndex < marks.length
  result : Resembles marks first.result second.result

variable {text : Bytes} {firstEnvironment secondEnvironment : Environment} {expanded : Bool}
  {marks : Marks} {first second firstNext secondNext : Scanner}

/-! ### One word at a time -/

variable {scanner : Scanner} {byte : UInt8}

theorem take_ok {next : Scanner} (taken : scanner.take byte = .ok next) :
    next = { scanner with token := scanner.token ++ [byte], tokenStarted := true } := by
  obtain ⟨token, appended, done⟩ := of_bind_ok taken
  unfold appendByte at appended
  split at appended
  · cases appended
  · cases appended
    exact (Except.ok.inj done).symm

theorem Alike.take (alike : Alike expanded marks first second)
    (firstTaken : first.take byte = .ok firstNext)
    (secondTaken : second.take byte = .ok secondNext) :
    Alike expanded marks firstNext secondNext := by
  rw [take_ok firstTaken, take_ok secondTaken]
  exact { alike with
    tokenStarted := rfl
    token := fun plain => by rw [alike.token plain] }

/-- The name of a variable is read from the line alone. -/
theorem Alike.expand (alike : Alike expanded marks first second)
    (firstRead : first.expand text firstEnvironment = .ok firstNext)
    (secondRead : second.expand text secondEnvironment = .ok secondNext) :
    Alike (expanded || ((variableName text first.index).toOption.getD none).isSome) marks
      firstNext secondNext ∧
        firstNext.tokenStarted = true ∧ firstNext.stageIndex = first.stageIndex := by
  unfold Scanner.expand at firstRead secondRead
  rw [← alike.index] at secondRead
  obtain ⟨⟨firstIndex, firstToken⟩, firstRead, firstDone⟩ := of_bind_ok firstRead
  obtain ⟨⟨secondIndex, secondToken⟩, secondRead, secondDone⟩ := of_bind_ok secondRead
  obtain ⟨found, named, firstRead⟩ := of_bind_ok firstRead
  obtain ⟨found', named', secondRead⟩ := of_bind_ok secondRead
  rw [named] at named'
  cases named'
  cases firstDone
  cases secondDone
  rw [named]
  cases found with
  | none =>
    obtain ⟨firstLonger, firstAppended, firstRead⟩ := of_bind_ok firstRead
    obtain ⟨secondLonger, secondAppended, secondRead⟩ := of_bind_ok secondRead
    cases firstRead
    cases secondRead
    refine ⟨{ alike with index := rfl, tokenStarted := rfl, token := fun plain => ?_ }, rfl, rfl⟩
    have same := alike.token (Bool.or_eq_false_iff.mp plain).1
    rw [same] at firstAppended
    exact Except.ok.inj (firstAppended.symm.trans secondAppended)
  | some name =>
    obtain ⟨key, last⟩ := name
    dsimp only at firstRead secondRead
    split at firstRead
    · cases firstRead
    · rename_i valid
      rw [if_neg valid] at secondRead
      obtain ⟨firstLonger, -, firstRead⟩ := of_bind_ok firstRead
      obtain ⟨secondLonger, -, secondRead⟩ := of_bind_ok secondRead
      cases firstRead
      cases secondRead
      refine ⟨{ alike with index := rfl, tokenStarted := rfl, token := fun plain => ?_ }, rfl, rfl⟩
      exact absurd (Bool.or_eq_false_iff.mp plain).2 Bool.noConfusion

/-! ### The end of a word -/

variable {value : Bytes}

theorem setToken_ok {token : Bytes} (fits : setToken value = .ok token) : token = value := by
  unfold setToken at fits
  split at fits
  · cases fits
  · exact (Except.ok.inj fits).symm

theorem Stage.push_ok {stage longer : Stage} (pushed : stage.push value = .ok longer) :
    longer = { arguments := stage.arguments ++ [value] } := by
  unfold Stage.push at pushed
  split at pushed
  · cases pushed
  · obtain ⟨token, fits, pushed⟩ := of_bind_ok pushed
    rw [← Except.ok.inj pushed, setToken_ok fits]

variable {index : Nat}

theorem CommandLine.stage_set (result : CommandLine) (inside : index < result.stages.length)
    (stage : Stage) (other : Nat) :
    ({ result with stages := result.stages.set index stage } : CommandLine).stage other =
      if index = other then stage else result.stage other := by
  unfold CommandLine.stage
  dsimp only
  obtain rfl | same := eq_or_ne index other
  · rw [if_pos rfl, getElem?_set_self inside]
    rfl
  · rw [if_neg same, getElem?_set_ne same]

variable {one two : CommandLine}

theorem Resembles.commit {firstResult secondResult : CommandLine} {firstToken secondToken : Bytes}
    {expectation : Redirection} (resembles : Resembles marks one two)
    (inside : index < marks.length) (token : expanded = false → firstToken = secondToken)
    (firstDone : commitToken one index firstToken expectation = .ok firstResult)
    (secondDone : commitToken two index secondToken expectation = .ok secondResult) :
    Resembles (if expectation = .none then marks.modify index (· ++ [expanded]) else marks)
      firstResult secondResult := by
  cases expectation with
  | none =>
    obtain ⟨firstStage, firstPushed, firstDone⟩ := of_bind_ok firstDone
    obtain ⟨secondStage, secondPushed, secondDone⟩ := of_bind_ok secondDone
    cases firstDone
    cases secondDone
    rw [if_pos rfl, Stage.push_ok firstPushed, Stage.push_ok secondPushed]
    exact { resembles with
      firstStages := by simp [resembles.firstStages]
      secondStages := by simp [resembles.secondStages]
      arguments := fun other => by
        rw [CommandLine.stage_set one (resembles.firstStages ▸ inside),
          CommandLine.stage_set two (resembles.secondStages ▸ inside)]
        obtain rfl | same := eq_or_ne index other
        · have pushed := (resembles.arguments index).push token
          rw [if_pos rfl, if_pos rfl, getElem?_modify_eq, getElem?_eq_getElem inside]
          rwa [getElem?_eq_getElem inside] at pushed
        · rw [if_neg same, if_neg same, getElem?_modify_ne _ _ same]
          exact resembles.arguments other }
  | input =>
    obtain ⟨_, -, firstDone⟩ := of_bind_ok firstDone
    obtain ⟨_, -, secondDone⟩ := of_bind_ok secondDone
    cases firstDone
    cases secondDone
    exact { resembles with input := rfl }
  | output =>
    obtain ⟨_, -, firstDone⟩ := of_bind_ok firstDone
    obtain ⟨_, -, secondDone⟩ := of_bind_ok secondDone
    cases firstDone
    cases secondDone
    exact { resembles with output := rfl, append := rfl }
  | append =>
    obtain ⟨_, -, firstDone⟩ := of_bind_ok firstDone
    obtain ⟨_, -, secondDone⟩ := of_bind_ok secondDone
    cases firstDone
    cases secondDone
    exact { resembles with output := rfl, append := rfl }

/-- The marks when a word of a stage ended, if it was an argument. -/
def marksAfterWord (marks : Marks) (scanner : Scanner) (expanded : Bool) : Marks :=
  if scanner.tokenStarted = true ∧ scanner.expectRedirection = .none then
    marks.modify scanner.stageIndex (· ++ [expanded])
  else marks

theorem Alike.finishToken (alike : Alike expanded marks first second)
    (firstDone : first.finishToken = .ok firstNext) (secondDone : second.finishToken = .ok secondNext) :
    Alike (!first.tokenStarted && expanded) (marksAfterWord marks first expanded)
        firstNext secondNext ∧
      firstNext.tokenStarted = false ∧ firstNext.stageIndex = first.stageIndex := by
  unfold Scanner.finishToken at firstDone secondDone
  unfold marksAfterWord
  rw [← alike.tokenStarted, ← alike.stageIndex, ← alike.expectRedirection] at secondDone
  cases started : first.tokenStarted with
  | false =>
    rw [started] at firstDone secondDone
    cases firstDone
    cases secondDone
    exact ⟨alike, started, rfl⟩
  | true =>
    rw [started] at firstDone secondDone
    rw [if_pos rfl] at firstDone secondDone
    obtain ⟨one, firstCommitted, firstDone⟩ := of_bind_ok firstDone
    obtain ⟨two, secondCommitted, secondDone⟩ := of_bind_ok secondDone
    have resembles := alike.result.commit alike.inStages alike.token firstCommitted secondCommitted
    cases firstDone
    cases secondDone
    refine ⟨?_, rfl, rfl⟩
    simp only [true_and]
    exact { alike with
      stageIndex := rfl
      tokenStarted := rfl
      expectRedirection := rfl
      token := fun _ => rfl
      inStages := by
        split
        · rw [length_modify]
          exact alike.inStages
        · exact alike.inStages
      result := resembles }

/-! ### Operators -/

theorem getD_append_default {Value : Type} (values : List Value) (default : Value) (index : Nat) :
    ((values ++ [default])[index]?).getD default = (values[index]?).getD default := by
  rcases Nat.lt_trichotomy index values.length with before | rfl | beyond
  · rw [getElem?_append_left before]
  · rw [getElem?_concat_length, getElem?_eq_none (le_refl _)]
    rfl
  · rw [getElem?_eq_none (by simp; omega), getElem?_eq_none beyond.le]

theorem Resembles.openStage (resembles : Resembles marks one two) :
    Resembles (marks ++ [[]]) { one with stages := one.stages ++ [{}] }
      { two with stages := two.stages ++ [{}] } := by
  exact { resembles with
    firstStages := by simp [resembles.firstStages]
    secondStages := by simp [resembles.secondStages]
    arguments := fun index => by
      unfold CommandLine.stage
      rw [getD_append_default, getD_append_default, getD_append_default]
      exact resembles.arguments index }

/-- An operator does the same to both, and only a bar opens a stage. -/
theorem Alike.operate (alike : Alike expanded marks first second) {character : UInt8}
    (firstDone : first.operate text character = .ok firstNext)
    (secondDone : second.operate text character = .ok secondNext) :
    Alike expanded (marks ++ if first.stageIndex < firstNext.stageIndex then [[]] else [])
      firstNext secondNext ∧ firstNext.tokenStarted = first.tokenStarted := by
  have same : ∀ {one two : Scanner}, one.stageIndex = first.stageIndex →
      Alike expanded marks one two →
        Alike expanded (marks ++ if first.stageIndex < one.stageIndex then [[]] else []) one two := by
    intro one two stays alike
    rwa [stays, if_neg (lt_irrefl _), append_nil]
  unfold Scanner.operate at firstDone secondDone
  split at firstDone
  · rename_i isBar
    rw [if_pos isBar] at secondDone
    unfold openStage at firstDone secondDone
    split at firstDone
    · cases firstDone
    · split at secondDone
      · cases secondDone
      · split at firstDone
        · cases firstDone
        · split at secondDone
          · cases secondDone
          · cases firstDone
            cases secondDone
            refine ⟨?_, rfl⟩
            rw [if_pos (Nat.lt_succ_self _)]
            exact { alike with
              stageIndex := congrArg (· + 1) alike.stageIndex
              inStages := by
                rw [length_append]
                exact Nat.succ_lt_succ alike.inStages
              result := alike.result.openStage }
  · rename_i notBar
    rw [if_neg notBar] at secondDone
    split at firstDone
    · rename_i isLess
      rw [if_pos isLess] at secondDone
      unfold redirectInput at firstDone secondDone
      split at firstDone
      · cases firstDone
      · split at secondDone
        · cases secondDone
        · cases firstDone
          cases secondDone
          exact ⟨same rfl { alike with expectRedirection := rfl }, rfl⟩
    · rename_i notLess
      rw [if_neg notLess] at secondDone
      split at firstDone
      · rename_i isGreater
        rw [if_pos isGreater] at secondDone
        unfold redirectOutput at firstDone secondDone
        rw [← alike.index] at secondDone
        split at firstDone
        · cases firstDone
        · split at secondDone
          · cases secondDone
          · split at firstDone
            · rename_i doubled
              rw [if_pos doubled] at secondDone
              cases firstDone
              cases secondDone
              exact ⟨same rfl { alike with index := rfl, expectRedirection := rfl }, rfl⟩
            · rename_i single
              rw [if_neg single] at secondDone
              cases firstDone
              cases secondDone
              exact ⟨same rfl { alike with index := rfl, expectRedirection := rfl }, rfl⟩
      · rename_i notGreater
        rw [if_neg notGreater] at secondDone
        unfold runInBackground at firstDone secondDone
        rw [← alike.index] at secondDone
        have background : Resembles marks { first.result with background := true }
            { second.result with background := true } := { alike.result with background := rfl }
        cases trailing : ((text.drop (first.index + 1)).dropWhile isBlank).head? with
        | none =>
          rw [trailing] at firstDone secondDone
          cases firstDone
          cases secondDone
          exact ⟨same rfl { alike with index := rfl, result := background }, rfl⟩
        | some byte =>
          rw [trailing] at firstDone secondDone
          dsimp only at firstDone secondDone
          split at firstDone
          · cases firstDone
          · rename_i comment
            rw [if_neg comment] at secondDone
            cases firstDone
            cases secondDone
            exact ⟨same rfl { alike with index := rfl, result := background }, rfl⟩

/-! ### One round -/

/-- The record of a round that ends no word and opens no stage. -/
theorem follow_within {marked : Marked} {next : Scanner} (started : next.tokenStarted = true)
    (stays : next.stageIndex = marked.scanner.stageIndex) :
    (marked.follow text next).expanded = (marked.expanded || marked.scanner.readsVariable text) ∧
      (marked.follow text next).marks = marked.marks := by
  have goesOn : marked.scanner.wordEnds next = false := by
    unfold Scanner.wordEnds
    rw [started, Bool.not_true, Bool.and_false]
  unfold Marked.follow
  dsimp only
  rw [goesOn, stays]
  simp

/-- The record of a round that reads no variable and may end a word. -/
theorem follow_between {marked : Marked} {next : Scanner} (between : next.tokenStarted = false)
    (plain : marked.scanner.readsVariable text = false) :
    (marked.follow text next).expanded = (!marked.scanner.tokenStarted && marked.expanded) ∧
      (marked.follow text next).marks = marksAfterWord marked.marks marked.scanner marked.expanded ++
        if marked.scanner.stageIndex < next.stageIndex then [[]] else [] := by
  have ends : marked.scanner.wordEnds next = marked.scanner.tokenStarted := by
    unfold Scanner.wordEnds
    rw [between, Bool.not_false, Bool.and_true]
  unfold Marked.follow marksAfterWord
  dsimp only
  rw [ends, plain, Bool.or_false]
  cases marked.scanner.tokenStarted with
  | false => exact ⟨rfl, rfl⟩
  | true => exact ⟨rfl, rfl⟩

variable {marked : Marked}

/-- Both scanners do the same in a round, and the record holds for both. -/
def Together (text : Bytes) (marked : Marked) (firstNext secondNext : Scanner) : Prop :=
  Alike (marked.follow text firstNext).expanded (marked.follow text firstNext).marks
    firstNext secondNext

theorem together_within (alike : Alike marked.expanded marked.marks firstNext secondNext)
    (started : firstNext.tokenStarted = true)
    (stays : firstNext.stageIndex = marked.scanner.stageIndex)
    (plain : marked.scanner.readsVariable text = false) :
    Together text marked firstNext secondNext := by
  obtain ⟨expanded, marks⟩ := @follow_within text marked firstNext started stays
  unfold Together
  rwa [expanded, marks, plain, Bool.or_false]

theorem together_between (between : firstNext.tokenStarted = false)
    (plain : marked.scanner.readsVariable text = false)
    (alike : Alike (!marked.scanner.tokenStarted && marked.expanded)
      (marksAfterWord marked.marks marked.scanner marked.expanded ++
        if marked.scanner.stageIndex < firstNext.stageIndex then [[]] else []) firstNext secondNext) :
    Together text marked firstNext secondNext := by
  obtain ⟨expanded, marks⟩ := @follow_between text marked firstNext between plain
  unfold Together
  rwa [expanded, marks]

theorem readsVariable_other (other : text[scanner.index]? ≠ some dollar) :
    scanner.readsVariable text = false := by
  unfold Scanner.readsVariable
  rw [beq_false_of_ne other, Bool.and_false, Bool.false_and, Bool.false_and]

theorem readsVariable_literal (quoted : scanner.quote ≠ 0)
    (single : scanner.quote ≠ doubleQuote) : scanner.readsVariable text = false := by
  unfold Scanner.readsVariable
  rw [beq_false_of_ne quoted, beq_false_of_ne single, Bool.or_false, Bool.and_false, Bool.false_and]

theorem readsVariable_dollar (unescaped : scanner.escaped = false)
    (here : text[scanner.index]? = some dollar)
    (active : scanner.quote = 0 ∨ scanner.quote = doubleQuote) : scanner.readsVariable text =
      ((variableName text scanner.index).toOption.getD none).isSome := by
  unfold Scanner.readsVariable
  rw [unescaped, here]
  rcases active with quote | quote
  · rw [quote]
    rfl
  · rw [quote]
    rfl

theorem together_expand (alike : Alike marked.expanded marked.marks marked.scanner second)
    (unescaped : marked.scanner.escaped = false)
    (here : text[marked.scanner.index]? = some dollar)
    (active : marked.scanner.quote = 0 ∨ marked.scanner.quote = doubleQuote)
    (firstDone : marked.scanner.expand text firstEnvironment = .ok firstNext)
    (secondDone : second.expand text secondEnvironment = .ok secondNext) :
    Together text marked firstNext secondNext := by
  obtain ⟨both, started, stays⟩ := alike.expand firstDone secondDone
  obtain ⟨expanded, marks⟩ := @follow_within text marked firstNext started stays
  unfold Together
  rwa [expanded, marks, readsVariable_dollar unescaped here active]

theorem together_take (alike : Alike marked.expanded marked.marks marked.scanner second)
    (plain : marked.scanner.readsVariable text = false)
    (firstDone : marked.scanner.take byte = .ok firstNext)
    (secondDone : second.take byte = .ok secondNext) :
    Together text marked firstNext secondNext := by
  refine together_within (alike.take firstDone secondDone) ?_ ?_ plain
  · rw [take_ok firstDone]
  · rw [take_ok firstDone]

theorem together_quoted (alike : Alike marked.expanded marked.marks marked.scanner second)
    (unescaped : marked.scanner.escaped = false) (quoted : marked.scanner.quote ≠ 0)
    (firstDone : marked.scanner.scanQuoted text firstEnvironment text[marked.scanner.index]? =
      .ok firstNext)
    (secondDone : second.scanQuoted text secondEnvironment text[marked.scanner.index]? =
      .ok secondNext) : Together text marked firstNext secondNext := by
  cases here : text[marked.scanner.index]? with
  | none =>
    rw [here] at firstDone
    cases firstDone
  | some character =>
    rw [here] at firstDone secondDone
    unfold scanQuoted at firstDone secondDone
    dsimp only at firstDone secondDone
    rw [← alike.quote] at secondDone
    have literal : ¬ (character = dollar ∧ marked.scanner.quote = doubleQuote) →
        marked.scanner.readsVariable text = false := by
      intro other
      by_cases isDollar : character = dollar
      · exact readsVariable_literal quoted fun double => other ⟨isDollar, double⟩
      · refine readsVariable_other ?_
        rw [here]
        exact fun same => isDollar (Option.some.inj same)
    split at firstDone
    · rename_i closes
      rw [if_pos closes] at secondDone
      cases firstDone
      cases secondDone
      refine together_within { alike with quote := rfl, tokenStarted := rfl } rfl rfl (literal ?_)
      rintro ⟨isDollar, double⟩
      rw [isDollar, double] at closes
      cases closes
    · rename_i goesOn
      rw [if_neg goesOn] at secondDone
      split at firstDone
      · rename_i expands
        rw [if_pos expands] at secondDone
        rw [expands.1] at here
        exact together_expand alike unescaped here (.inr expands.2) firstDone secondDone
      · rename_i plain
        rw [if_neg plain] at secondDone
        exact together_take alike (literal plain) firstDone secondDone

/-- The end of a word, and nothing after it. -/
theorem together_finish (alike : Alike marked.expanded marked.marks marked.scanner second)
    (plain : marked.scanner.readsVariable text = false)
    (firstDone : marked.scanner.finishToken = .ok firstNext)
    (secondDone : second.finishToken = .ok secondNext) :
    Together text marked firstNext secondNext := by
  obtain ⟨both, between, stays⟩ := alike.finishToken firstDone secondDone
  refine together_between between plain ?_
  rwa [stays, if_neg (lt_irrefl _), append_nil]

theorem together_stop (together : Together text marked firstNext secondNext) :
    Together text marked (firstNext.stop text) (secondNext.stop text) :=
  { together with index := rfl }

theorem together_plain (alike : Alike marked.expanded marked.marks marked.scanner second)
    (unescaped : marked.scanner.escaped = false) (unquoted : marked.scanner.quote = 0)
    (firstDone : marked.scanner.scanPlain text firstEnvironment text[marked.scanner.index]? =
      .ok firstNext)
    (secondDone : second.scanPlain text secondEnvironment text[marked.scanner.index]? =
      .ok secondNext) : Together text marked firstNext secondNext := by
  cases here : text[marked.scanner.index]? with
  | none =>
    rw [here] at firstDone secondDone
    obtain ⟨one, firstFinished, rfl⟩ := of_map_ok firstDone
    obtain ⟨two, secondFinished, rfl⟩ := of_map_ok secondDone
    exact together_stop (together_finish alike (readsVariable_other (by rw [here]; rintro ⟨⟩))
      firstFinished secondFinished)
  | some character =>
    rw [here] at firstDone secondDone
    unfold scanPlain at firstDone secondDone
    dsimp only at firstDone secondDone
    have literal : character ≠ dollar → marked.scanner.readsVariable text = false := by
      intro other
      refine readsVariable_other ?_
      rw [here]
      exact fun same => other (Option.some.inj same)
    split at firstDone
    · rename_i opens
      rw [if_pos opens] at secondDone
      cases firstDone
      cases secondDone
      refine together_within { alike with quote := rfl, tokenStarted := rfl } rfl rfl (literal ?_)
      rcases opens with isSingle | isDouble
      · rw [isSingle]
        decide
      · rw [isDouble]
        decide
    · rename_i noQuote
      rw [if_neg noQuote] at secondDone
      split at firstDone
      · rename_i isDollar
        rw [if_pos isDollar] at secondDone
        rw [isDollar] at here
        exact together_expand alike unescaped here (.inl unquoted) firstDone secondDone
      · rename_i notDollar
        rw [if_neg notDollar] at secondDone
        have plain := literal notDollar
        split at firstDone
        · rename_i blank
          rw [if_pos blank] at secondDone
          exact together_finish alike plain firstDone secondDone
        · rename_i notBlank
          rw [if_neg notBlank] at secondDone
          split at firstDone
          · rename_i comment
            rw [if_pos comment] at secondDone
            obtain ⟨one, firstFinished, rfl⟩ := of_map_ok firstDone
            obtain ⟨two, secondFinished, rfl⟩ := of_map_ok secondDone
            exact together_stop (together_finish alike plain firstFinished secondFinished)
          · rename_i noComment
            rw [if_neg noComment] at secondDone
            split at firstDone
            · rename_i operator
              rw [if_pos operator] at secondDone
              obtain ⟨one, firstFinished, firstDone⟩ := of_bind_ok firstDone
              obtain ⟨two, secondFinished, secondDone⟩ := of_bind_ok secondDone
              obtain ⟨both, between, stays⟩ := alike.finishToken firstFinished secondFinished
              obtain ⟨both, same⟩ := both.operate firstDone secondDone
              rw [stays] at both
              exact together_between (same.trans between) plain both
            · rename_i noOperator
              rw [if_neg noOperator] at secondDone
              exact together_take alike plain firstDone secondDone

/-- A round keeps two scanners together. -/
theorem Alike.step (alike : Alike marked.expanded marked.marks marked.scanner second)
    (firstDone : marked.scanner.step text firstEnvironment = .ok firstNext)
    (secondDone : second.step text secondEnvironment = .ok secondNext) :
    Together text marked firstNext secondNext := by
  unfold Scanner.step at firstDone secondDone
  dsimp only at firstDone secondDone
  rw [← alike.escaped, ← alike.quote, ← alike.index] at secondDone
  split at firstDone
  · rename_i escaped
    rw [if_pos escaped] at secondDone
    have plain : marked.scanner.readsVariable text = false := by
      unfold Scanner.readsVariable
      rw [escaped]
      rfl
    cases here : text[marked.scanner.index]? with
    | none =>
      rw [here] at firstDone
      cases firstDone
    | some byte =>
      rw [here] at firstDone secondDone
      obtain ⟨one, firstTaken, firstDone⟩ := of_bind_ok firstDone
      obtain ⟨two, secondTaken, secondDone⟩ := of_bind_ok secondDone
      cases firstDone
      cases secondDone
      have both := alike.take firstTaken secondTaken
      refine together_within { both with escaped := rfl } ?_ ?_ plain
      · rw [take_ok firstTaken]
      · rw [take_ok firstTaken]
  · rename_i unescaped
    rw [if_neg unescaped] at secondDone
    rw [Bool.not_eq_true] at unescaped
    split at firstDone
    · rename_i escapes
      rw [if_pos escapes] at secondDone
      cases firstDone
      cases secondDone
      refine together_within
        { alike with index := rfl, quote := rfl, escaped := rfl, tokenStarted := rfl } rfl rfl
        (readsVariable_other ?_)
      rw [escapes.1]
      decide
    · rename_i noEscape
      rw [if_neg noEscape] at secondDone
      split at firstDone
      · rename_i quoted
        rw [if_pos quoted] at secondDone
        exact together_quoted alike unescaped quoted firstDone secondDone
      · rename_i unquoted
        rw [if_neg unquoted] at secondDone
        exact together_plain alike unescaped (not_not.mp unquoted) firstDone secondDone

/-! ### Whole lines -/

/-- Two scanners together, with one record. -/
structure Paired (one two : Marked) : Prop where
  expanded : one.expanded = two.expanded
  marks : one.marks = two.marks
  alike : Alike one.expanded one.marks one.scanner two.scanner

theorem Paired.follow {one two : Marked} (paired : Paired one two)
    (together : Together text one firstNext secondNext) :
    Paired (one.follow text firstNext) (two.follow text secondNext) := by
  have ends : one.scanner.wordEnds firstNext = two.scanner.wordEnds secondNext := by
    unfold Scanner.wordEnds
    rw [paired.alike.tokenStarted, together.tokenStarted]
  have reads : one.scanner.readsVariable text = two.scanner.readsVariable text := by
    unfold Scanner.readsVariable
    rw [paired.alike.escaped, paired.alike.index, paired.alike.quote]
  refine ⟨?_, ?_, together⟩
  · unfold Marked.follow
    rw [ends, reads, paired.expanded]
  · unfold Marked.follow
    rw [ends, paired.alike.expectRedirection, paired.marks, paired.alike.stageIndex,
      paired.expanded, together.stageIndex]

/-- Moving both on by a byte keeps them together. -/
theorem together_move (together : Together text marked firstNext secondNext) :
    Together text marked { firstNext with index := firstNext.index + 1 }
      { secondNext with index := secondNext.index + 1 } :=
  { together with index := congrArg (· + 1) together.index }

theorem Paired.run {one two oneDone twoDone : Marked} (fuel : Nat) (paired : Paired one two)
    (firstRan : Marked.run text firstEnvironment fuel one = .ok oneDone)
    (secondRan : Marked.run text secondEnvironment fuel two = .ok twoDone) :
    Paired oneDone twoDone := by
  induction fuel generalizing one two with
  | zero =>
    cases firstRan
    cases secondRan
    exact paired
  | succ fuel hypothesis =>
    unfold Marked.run at firstRan secondRan
    rw [← paired.alike.index] at secondRan
    split at firstRan
    · rename_i past
      rw [if_pos past] at secondRan
      cases firstRan
      cases secondRan
      exact paired
    · rename_i inside
      rw [if_neg inside] at secondRan
      obtain ⟨firstNext, firstStepped, firstRan⟩ := of_bind_ok firstRan
      obtain ⟨secondNext, secondStepped, secondRan⟩ := of_bind_ok secondRan
      exact hypothesis
        (paired.follow (together_move (paired.alike.step firstStepped secondStepped)))
        firstRan secondRan

theorem paired_start : Paired {} {} where
  expanded := rfl
  marks := rfl
  alike :=
    { stageIndex := rfl
      index := rfl
      quote := rfl
      escaped := rfl
      tokenStarted := rfl
      expectRedirection := rfl
      token := fun _ => rfl
      inStages := Nat.one_pos
      result :=
        { firstStages := rfl
          secondStages := rfl
          arguments := fun index => by
            cases index with
            | zero => exact ⟨rfl, rfl, fun _ _ => rfl⟩
            | succ index => exact ⟨rfl, rfl, fun _ _ => rfl⟩
          input := rfl
          output := rfl
          append := rfl
          background := rfl } }

variable {result : CommandLine}

theorem finish_ok (finished : scanner.finish = .ok result) : result = scanner.result := by
  unfold finish at finished
  repeat' split at finished
  all_goals cases finished
  rfl

/-- A line that parses was scanned with its record. -/
theorem marked_of_parse {environment : Environment} (parsed : parse text environment = .ok result) :
    ∃ done, Marked.run text environment (text.length + 1) {} = .ok done ∧
      done.scanner.result = result ∧ expansions text environment = done.marks := by
  unfold parse at parsed
  split at parsed
  · cases parsed
  · obtain ⟨scanner, scanned, finished⟩ := of_bind_ok parsed
    rw [← Marked.run_scanner text environment (text.length + 1) {}] at scanned
    obtain ⟨done, ran, rfl⟩ := of_map_ok scanned
    refine ⟨done, ran, (finish_ok finished).symm, ?_⟩
    unfold expansions
    rw [ran]
    rfl

/-- Under any two environments a line has the same shape, and its words without a variable are the
same. -/
theorem parse_uninjected (text : Bytes) (firstEnvironment secondEnvironment : Environment)
    (one two : CommandLine) (firstParsed : parse text firstEnvironment = .ok one)
    (secondParsed : parse text secondEnvironment = .ok two) :
    one.stages.length = two.stages.length ∧
      (∀ stage, (one.stage stage).arguments.length = (two.stage stage).arguments.length) ∧
      one.inputPath.isSome = two.inputPath.isSome ∧ one.outputPath.isSome = two.outputPath.isSome ∧
      one.appendOutput = two.appendOutput ∧ one.background = two.background ∧
      expansions text firstEnvironment = expansions text secondEnvironment ∧
      ∀ stage position : Nat,
        (((expansions text firstEnvironment)[stage]?).getD [])[position]? = some false →
          (one.stage stage).arguments[position]? = (two.stage stage).arguments[position]? := by
  obtain ⟨oneDone, firstRan, rfl, firstMarks⟩ := marked_of_parse firstParsed
  obtain ⟨twoDone, secondRan, rfl, secondMarks⟩ := marked_of_parse secondParsed
  have paired := paired_start.run _ firstRan secondRan
  have resembles := paired.alike.result
  rw [firstMarks, secondMarks]
  exact ⟨resembles.firstStages.trans resembles.secondStages.symm,
    fun stage => (resembles.arguments stage).firstLength.trans
      (resembles.arguments stage).secondLength.symm,
    resembles.input, resembles.output, resembles.append, resembles.background, paired.marks,
    fun stage => (resembles.arguments stage).unmarked⟩

/-- `e $a b | c` -/
def variableLine : Bytes := [0x65, space, dollar, 0x61, space, 0x62, space, bar, space, 0x63]

def valueOf (value : Bytes) : Environment :=
  { entries := [{ used := true, key := [0x61], value := value }] }

def variableResult (value : Bytes) : CommandLine :=
  { stages := [{ arguments := [[0x65], value, [0x62]] }, { arguments := [[0x63]] }] }

example : expansions variableLine (valueOf [bar]) = [[false, true, false], [false]] := by decide

/-- An operator and a blank as the value of the variable. -/
theorem parse_uninjected_operator :
    (variableResult [bar]).stages.length = (variableResult [space, greater]).stages.length ∧
      (∀ stage, ((variableResult [bar]).stage stage).arguments.length =
        ((variableResult [space, greater]).stage stage).arguments.length) ∧
      (variableResult [bar]).inputPath.isSome = (variableResult [space, greater]).inputPath.isSome ∧
      (variableResult [bar]).outputPath.isSome = (variableResult [space, greater]).outputPath.isSome ∧
      (variableResult [bar]).appendOutput = (variableResult [space, greater]).appendOutput ∧
      (variableResult [bar]).background = (variableResult [space, greater]).background ∧
      expansions variableLine (valueOf [bar]) = expansions variableLine (valueOf [space, greater]) ∧
      ∀ stage position : Nat,
        (((expansions variableLine (valueOf [bar]))[stage]?).getD [])[position]? = some false →
          ((variableResult [bar]).stage stage).arguments[position]? =
            ((variableResult [space, greater]).stage stage).arguments[position]? :=
  parse_uninjected variableLine (valueOf [bar]) (valueOf [space, greater]) (variableResult [bar])
    (variableResult [space, greater]) (by decide) (by decide)

end ZigOs.RuntimeCommand
