/-
This file proves that the scanners of the shell follow its syntax: each one either
returns what the tokens of its segment stand for, or refuses because they stand for
nothing that fits. A scanner only writes inside its segment, so the words it found
keep their bytes while the rest of the line is read.
-/

import ZigOs.Shell.Tokens

namespace ZigOs.Shell

open List Script

/-- How an attempt to read a text ends: with a result for what the text means, or with
nothing when it means nothing. -/
inductive Settles {Result Meaning : Type} (reads : Result → Meaning → Prop) (means : Meaning → Prop) :
    Option Result → Prop
  | found {result : Result} (meaning : Meaning) : reads result meaning → means meaning →
    Settles reads means (some result)
  | refused : (∀ meaning, ¬means meaning) → Settles reads means none

theorem Settles.cases {Result Meaning : Type} {reads : Result → Meaning → Prop} {means : Meaning → Prop}
    {outcome : Option Result} (settles : Settles reads means outcome) :
    (∃ result meaning, outcome = some result ∧ reads result meaning ∧ means meaning) ∨
      (outcome = none ∧ ∀ meaning, ¬means meaning) := by
  cases settles with
  | found meaning reads means => exact .inl ⟨_, meaning, rfl, reads, means⟩
  | refused refused => exact .inr ⟨rfl, refused⟩

/-! ### Storage -/

section Storage

variable (before after : Bytes) (byte : UInt8)

theorem byteAt_append : byteAt (before ++ byte :: after) before.length = byte := by
  unfold byteAt
  rw [getD_eq_getElem?_getD, getElem?_append_right (Nat.le_refl _), Nat.sub_self]
  rfl

theorem set_append (value : UInt8) :
    (before ++ byte :: after).set before.length value = before ++ value :: after := by
  rw [set_append_right _ _ (Nat.le_refl _), Nat.sub_self]
  rfl

theorem segmentHasContent_append (segment : Bytes) :
    segmentHasContent (before ++ (segment ++ after)) before.length (before.length + segment.length) =
      segment.any fun byte => !isSpace byte := by
  unfold segmentHasContent
  rw [← append_assoc, ← length_append, take_left', drop_left']
  · rfl
  · rfl

end Storage

/-- A word at its place in a segment, which stands at a base in the storage. -/
def Word.Reads (base : Nat) (segment : Bytes) (word : Word) (bytes : Bytes) : Prop :=
  ∃ left right, segment = left ++ bytes ++ right ∧ word.start = base + left.length ∧
    word.length = bytes.length

def Command.Reads (base : Nat) (segment : Bytes) (command : Command) (words : Script.Command) : Prop :=
  List.Forall₂ (Word.Reads base segment) command.words words

variable {inner : Nat} {whole : Bytes}

section Reads

variable {base : Nat} {segment : Bytes}

/-- A word keeps its place when its segment is part of a larger one. -/
theorem Word.Reads.widen {left right : Bytes} (parts : whole = left ++ (segment ++ right))
    (behind : inner = base + left.length) {word : Word} {bytes : Bytes}
    (reads : Word.Reads inner segment word bytes) : Word.Reads base whole word bytes := by
  obtain ⟨before, after, rfl, start, length⟩ := reads
  refine ⟨left ++ before, after ++ right, ?_, ?_, length⟩
  · rw [parts]
    simp only [append_assoc]
  · rw [start, behind, length_append, Nat.add_assoc]

theorem Command.Reads.widen {left right : Bytes} (parts : whole = left ++ (segment ++ right))
    (behind : inner = base + left.length) {command : Command} {words : Script.Command}
    (reads : Command.Reads inner segment command words) : Command.Reads base whole command words :=
  reads.imp fun _ _ reads => reads.widen parts behind

end Reads

variable {segment : Bytes}

/-! ### Words -/

section Words

variable {before after : Bytes}

/-- The spaces in front of a segment become zeros. -/
theorem skipSpaces_append (before segment after : Bytes) :
    ∃ blanks zeros rest, segment = blanks ++ rest ∧ zeros.length = blanks.length ∧
      (∀ byte ∈ blanks, isSpace byte = true) ∧ (∀ byte ∈ rest.head?, isSpace byte = false) ∧
      skipSpaces (before ++ (segment ++ after)) before.length segment.length =
        (before ++ (zeros ++ (rest ++ after)), before.length + zeros.length, rest.length) := by
  induction segment generalizing before with
  | nil => exact ⟨[], [], [], rfl, rfl, by simp, by simp, rfl⟩
  | cons byte segment hypothesis =>
    by_cases blank : isSpace byte = true
    · obtain ⟨blanks, zeros, rest, rfl, length, spaces, stops, skipped⟩ :=
        hypothesis (before ++ [0])
      refine ⟨byte :: blanks, 0 :: zeros, rest, rfl, congrArg (· + 1) length,
        forall_mem_cons.mpr ⟨blank, spaces⟩, stops, ?_⟩
      unfold skipSpaces
      rw [length_cons]
      dsimp only
      rw [cons_append, byteAt_append, if_pos blank, set_append]
      rw [append_assoc, length_append] at skipped
      refine skipped.trans ?_
      simp [Nat.add_assoc, Nat.add_comm 1]
    · refine ⟨[], [], byte :: segment, rfl, rfl, by simp, by simpa using blank, ?_⟩
      unfold skipSpaces
      rw [length_cons]
      dsimp only
      rw [cons_append, byteAt_append, if_neg blank]
      rfl

theorem skipWord_append (before segment after : Bytes) :
    ∃ word rest, segment = word ++ rest ∧ (∀ byte ∈ word, isSpace byte = false) ∧
      (∀ byte ∈ rest.head?, isSpace byte = true) ∧
      skipWord (before ++ (segment ++ after)) before.length segment.length =
        (before.length + word.length, rest.length) := by
  induction segment generalizing before with
  | nil => exact ⟨[], [], rfl, by simp, by simp, rfl⟩
  | cons byte segment hypothesis =>
    by_cases blank : isSpace byte = true
    · refine ⟨[], byte :: segment, rfl, by simp, by simpa using blank, ?_⟩
      unfold skipWord
      rw [length_cons]
      dsimp only
      rw [cons_append, byteAt_append, if_pos blank]
      rfl
    · obtain ⟨word, rest, rfl, visible, stops, skipped⟩ := hypothesis (before ++ [byte])
      refine ⟨byte :: word, rest, rfl,
        forall_mem_cons.mpr ⟨Bool.eq_false_of_not_eq_true blank, visible⟩, stops, ?_⟩
      unfold skipWord
      rw [length_cons]
      dsimp only
      rw [cons_append, byteAt_append, if_neg blank]
      rw [append_assoc, length_append] at skipped
      refine skipped.trans ?_
      simp [Nat.add_assoc, Nat.add_comm 1]

/-- What a scan of a segment leaves: the segment rewritten in place, and a result whose
words stand in it. -/
def Rewrites {Result Meaning : Type} (reads : Nat → Bytes → Result → Meaning → Prop)
    (before segment after : Bytes) (outcome : Bytes × Result) (meaning : Meaning) : Prop :=
  ∃ rewritten, outcome.1 = before ++ (rewritten ++ after) ∧ rewritten.length = segment.length ∧
    reads before.length rewritten outcome.2 meaning

/-- The words behind those that are already known. -/
def ReadsMore (words : List Word) (base : Nat) (segment : Bytes) (command : Command)
    (more : Script.Command) : Prop :=
  ∃ found, command.words = words ++ found ∧ List.Forall₂ (Word.Reads base segment) found more

theorem scanWords_stop (words : List Word) (storage : Bytes) (index rounds : Nat) :
    scanWords words storage index 0 rounds = some (storage, { words }) := by
  cases rounds with
  | zero => rfl
  | succ rounds => exact if_pos rfl

theorem readsMore_nil (words : List Word) (base : Nat) (segment : Bytes) :
    ReadsMore words base segment { words } [] := ⟨[], (append_nil words).symm, .nil⟩

theorem scanWords_settles {segment : Bytes} (plain : Plain segment) {words : List Word}
    (room : words.length ≤ maximumWords) (before after : Bytes) {rounds : Nat}
    (enough : segment.length ≤ rounds) :
    Settles (Rewrites (ReadsMore words) before segment after)
      (fun more => tokensFrom true (.word []) segment = Script.Command.tokens more ∧
        words.length + more.length ≤ maximumWords)
      (scanWords words (before ++ (segment ++ after)) before.length segment.length rounds) := by
  induction rounds generalizing before segment words with
  | zero =>
    obtain rfl := eq_nil_of_length_eq_zero (Nat.le_zero.mp enough)
    exact .found [] ⟨[], rfl, rfl, readsMore_nil _ _ _⟩ ⟨rfl, room⟩
  | succ rounds hypothesis =>
    by_cases empty : segment = []
    · subst empty
      rw [length_nil, scanWords_stop]
      exact .found [] ⟨[], rfl, rfl, readsMore_nil _ _ _⟩ ⟨rfl, room⟩
    obtain ⟨blanks, zeros, rest, rfl, length, spaces, visible, skipped⟩ :=
      skipSpaces_append before segment after
    unfold scanWords
    rw [if_neg (mt eq_nil_of_length_eq_zero empty), skipped]
    dsimp only
    rw [tokensFrom_blanks spaces]
    obtain rfl | blank := eq_or_ne rest ([])
    · rw [if_pos length_nil]
      exact .found [] ⟨zeros, rfl, by rw [append_nil, length], readsMore_nil _ _ _⟩ ⟨rfl, room⟩
    rw [if_neg (mt eq_nil_of_length_eq_zero blank)]
    obtain ⟨word, rest, rfl, letters, stops, taken⟩ := skipWord_append (before ++ zeros) rest after
    have some : word ≠ [] := by
      rintro rfl
      obtain ⟨byte, rest, rfl⟩ := exists_cons_of_ne_nil blank
      exact absurd (stops byte rfl) (Bool.eq_false_iff.mp (visible byte rfl))
    rw [append_assoc, length_append] at taken
    rw [taken]
    dsimp only
    have last : words.length = maximumWords ∨ words.length < maximumWords := Nat.eq_or_lt_of_le room
    rcases rest with _ | ⟨separator, rest⟩
    · have tokens : tokensFrom true (.word []) (word ++ []) = [.word word] := by
        rw [append_nil]
        have plain := plain.right
        rw [append_nil] at plain
        exact plain.tokensFrom_last some letters
      rw [tokens]
      rcases last with full | room
      · rw [if_pos full]
        refine .refused fun more ⟨same, fits⟩ => ?_
        have length := congrArg List.length same
        rw [Script.Command.tokens, length_map, length_singleton] at length
        omega
      · rw [if_neg (Nat.ne_of_lt room), if_pos length_nil, scanWords_stop]
        refine .found [word] ⟨zeros ++ word, ?_, ?_, [_], rfl, .cons ⟨zeros, [], ?_, rfl, ?_⟩ .nil⟩
          ⟨rfl, room⟩
        · simp
        · simp [length]
        · simp
        · simp
    · have separates : isSpace separator = true := stops separator rfl
      have ordinary := plain.right.ordinary (cons_ne_nil _ _) letters
      have tokens : tokensFrom true (.word []) (word ++ separator :: rest) =
          .word word :: tokensFrom true (.word []) rest := by
        rw [tokensFrom_space separates, tokensFrom_word some ordinary]
        · rfl
        · exact fun ends => (ordinary _ (mem_of_getLast? ends)).ampersand rfl
      rw [tokens]
      rcases last with full | room
      · rw [if_pos full]
        refine .refused fun more ⟨same, fits⟩ => ?_
        have length := congrArg List.length same
        rw [Script.Command.tokens, length_map, length_cons] at length
        omega
      · have place : before.length + zeros.length + word.length + 1 =
            (before ++ (zeros ++ (word ++ [0]))).length := by
          simp only [length_append, length_singleton, Nat.add_assoc]
        have written : (before ++ (zeros ++ (word ++ separator :: rest ++ after))).set
            (before.length + zeros.length + word.length) 0 =
              before ++ (zeros ++ (word ++ [0])) ++ (rest ++ after) := by
          have set := set_append (before ++ (zeros ++ word)) (rest ++ after) separator 0
          simpa only [append_assoc, length_append, cons_append, nil_append, Nat.add_assoc] using set
        rw [if_neg (Nat.ne_of_lt room), length_cons, if_neg (Nat.succ_ne_zero _),
          Nat.add_sub_cancel_left, written, place, Nat.add_sub_cancel]
        have bounded : rest.length ≤ rounds := by
          simp only [length_append, length_cons] at enough
          omega
        have settles := hypothesis plain.right.right.tail
          (show (words ++ [Word.mk (before.length + zeros.length) word.length]).length ≤ maximumWords by
            rw [length_append]
            exact room) (before ++ (zeros ++ (word ++ [0]))) bounded
        rcases settles.cases with
          ⟨result, more, scanned, ⟨rewritten, stored, same, behind, found, reads⟩, means, fits⟩ |
            ⟨scanned, refused⟩
        · rw [scanned]
          have first : Word.Reads before.length (zeros ++ (word ++ 0 :: rewritten))
              { start := before.length + zeros.length, length := word.length } word :=
            ⟨zeros, 0 :: rewritten, (append_assoc _ _ _).symm, rfl, rfl⟩
          have others := reads.imp fun _ _ reads => Word.Reads.widen
            (show zeros ++ (word ++ 0 :: rewritten) = zeros ++ (word ++ [0]) ++ (rewritten ++ []) by simp)
            length_append reads
          refine .found (word :: more) ⟨zeros ++ (word ++ 0 :: rewritten), ?_, ?_,
            _, found.trans (append_assoc _ _ _), .cons first others⟩
            ⟨congrArg (Token.word word :: ·) means, ?_⟩
          · rw [stored]
            simp only [append_assoc, cons_append, nil_append]
          · simp only [length_append, length_cons, length, same]
          · rw [length_append, length_singleton] at fits
            rw [length_cons]
            omega
        · rw [scanned]
          refine .refused fun more ⟨same, fits⟩ => ?_
          cases more with
          | nil => cases same
          | cons first more =>
            refine refused more ⟨(List.cons.inj same).2, ?_⟩
            rw [length_append, length_singleton]
            rw [length_cons] at fits
            omega

theorem parseCommandSegment_settles (plain : Plain segment) (before after : Bytes) :
    Settles (Rewrites Command.Reads before segment after)
      (fun command => tokensFrom true (.word []) segment = Script.Command.tokens command ∧
        Script.Command.Fits command)
      (parseCommandSegment (before ++ (segment ++ after)) before.length
        (before.length + segment.length)) := by
  have settles := @scanWords_settles _ plain [] (Nat.zero_le _) before after _ (Nat.le_refl _)
  unfold parseCommandSegment
  rw [Nat.add_sub_cancel_left]
  rcases settles.cases with
    ⟨⟨storage, parsed⟩, command, scanned, ⟨rewritten, stored, same, found, words, reads⟩, means, fits⟩ |
      ⟨scanned, refused⟩
  · rw [scanned]
    rw [length_nil, Nat.zero_add] at fits
    show Settles _ _ (if parsed.words = [] then none else some (storage, parsed))
    by_cases empty : parsed.words = []
    · rw [if_pos empty]
      have none : command = [] := by
        obtain rfl := append_eq_nil_iff.mp (words.symm.trans empty) |>.2
        exact forall₂_nil_left_iff.mp reads
      refine .refused fun other ⟨same, fits⟩ => fits.1 ?_
      exact (command_inj (same.symm.trans means)).trans none
    · rw [if_neg empty]
      refine .found command ⟨rewritten, stored, same, ?_⟩ ⟨means, ?_, fits⟩
      · obtain rfl : parsed.words = found := words
        exact reads
      · rintro rfl
        exact empty (words.trans (forall₂_nil_right_iff.mp reads))
  · rw [scanned]
    exact .refused fun command ⟨same, fits⟩ => refused command ⟨same, (Nat.zero_add _).le.trans fits.2⟩

end Words

/-! ### Pipelines -/

def Pipeline.Reads (base : Nat) (segment : Bytes) (pipeline : Pipeline) (stages : Script.Pipeline) : Prop :=
  List.Forall₂ (Command.Reads base segment) pipeline.stages stages

/-- The commands behind those that are already known. -/
def ReadsStages (stages : List Command) (base : Nat) (segment : Bytes) (pipeline : Pipeline)
    (more : Script.Pipeline) : Prop :=
  ∃ found, pipeline.stages = stages ++ found ∧ List.Forall₂ (Command.Reads base segment) found more

/-- A segment of a list: no separator of lists, and no conditional operator. -/
structure Piped (segment : Bytes) : Prop where
  semicolon : semicolon ∉ segment
  single : Single segment
  ampersand : ampersand ∉ segment.dropLast

theorem Piped.right {left right : Bytes} (piped : Piped (left ++ right)) : Piped right where
  semicolon := fun member => piped.semicolon (mem_append_right _ member)
  single := (isChain_append.mp piped.single).2.1
  ampersand := ampersand_notMem_right piped.ampersand

theorem Piped.tail {byte : UInt8} (piped : Piped (byte :: segment)) : Piped segment :=
  Piped.right (show Piped ([byte] ++ segment) from piped)

theorem Piped.left {left right : Bytes} (piped : Piped (left ++ right)) (absent : bar ∉ left) : Plain left where
  semicolon := fun member => piped.semicolon (mem_append_left _ member)
  bar := absent
  ampersand := by
    obtain rfl | some := eq_or_ne right ([])
    · have quiet := piped.ampersand
      rwa [append_nil] at quiet
    · exact fun member => ampersand_notMem_left piped.ampersand some (mem_of_mem_dropLast member)

theorem scanStages_settles {piece rest : Bytes} (piped : Piped (piece ++ rest)) (absent : bar ∉ piece)
    {stages : List Command} (room : stages.length < maximumPipelineStages) (before after : Bytes) :
    Settles (Rewrites (ReadsStages stages) before (piece ++ rest) after)
      (fun more => tokensFrom true (.word []) (piece ++ rest) = Script.Pipeline.tokens more ∧
        more ≠ [] ∧ stages.length + more.length ≤ maximumPipelineStages ∧
          ∀ command ∈ more, Script.Command.Fits command)
      (scanStages stages (before ++ (piece ++ (rest ++ after))) before.length
        (before.length + piece.length) rest.length) := by
  induction rest generalizing piece stages before with
  | nil =>
    rw [append_nil] at piped ⊢
    have plain : Plain piece := ⟨piped.semicolon, absent, piped.ampersand⟩
    unfold scanStages
    rw [length_nil]
    dsimp only
    rw [nil_append]
    rcases (parseCommandSegment_settles plain before after).cases with
      ⟨⟨storage, command⟩, words, parsed, ⟨rewritten, stored, same, reads⟩, means, fits⟩ | ⟨parsed, refused⟩
    · rw [parsed]
      refine .found [words] ⟨rewritten, stored, same, _, rfl, .cons reads .nil⟩
        ⟨means, cons_ne_nil _ _, room, ?_⟩
      exact fun other member => mem_singleton.mp member ▸ fits
    · rw [parsed]
      refine .refused fun more ⟨same, filled, count, fits⟩ => ?_
      obtain ⟨command, rfl, tokens⟩ := pipeline_single filled (bar_notMem absent) same.symm
      exact refused command ⟨tokens.symm, fits command mem_cons_self⟩
  | cons byte rest hypothesis =>
    have here : byteAt (before ++ (piece ++ (byte :: rest ++ after))) (before.length + piece.length) =
        byte := by
      have read := byteAt_append (before ++ piece) (rest ++ after) byte
      rwa [append_assoc, length_append] at read
    rw [length_cons]
    unfold scanStages
    dsimp only
    rw [here]
    obtain rfl | separates := eq_or_ne byte bar
    · rw [if_neg (not_not.mpr rfl)]
      have plain := piped.left absent
      have quiet : piece.getLast? ≠ some ampersand := fun ends =>
        ampersand_notMem_left piped.ampersand (cons_ne_nil _ _) (mem_of_getLast? ends)
      have alone : rest.head? ≠ some bar := fun follows =>
        ((isChain_append.mp piped.single).2.1.rel_head? follows).elim (· rfl) (· rfl)
      rw [tokensFrom_bar quiet (fun ends => absent (mem_of_getLast? ends)) alone]
      by_cases full : maximumPipelineStages - 1 ≤ stages.length
      · rw [if_pos full]
        refine .refused fun more ⟨same, filled, count, fits⟩ => ?_
        obtain ⟨command, others, rfl, left, -, -⟩ := pipeline_split (bar_notMem absent) same.symm
        have two := length_pos_of_ne_nil left
        rw [length_cons] at count
        omega
      · rw [if_neg full]
        have written : (before ++ (piece ++ (bar :: rest ++ after))).set (before.length + piece.length) 0 =
            before ++ (piece ++ (0 :: (rest ++ after))) := by
          have set := set_append (before ++ piece) (rest ++ after) bar 0
          rwa [append_assoc, length_append, append_assoc] at set
        rw [written]
        rcases (parseCommandSegment_settles plain before (0 :: (rest ++ after))).cases with
          ⟨⟨storage, command⟩, words, parsed, ⟨rewritten, stored, same, reads⟩, means, fits⟩ |
            ⟨parsed, refused⟩
        · rw [parsed]
          obtain rfl : storage = before ++ (rewritten ++ (0 :: (rest ++ after))) := stored
          have place : before.length + piece.length + 1 = (before ++ (rewritten ++ [0])).length := by
            simp only [length_append, length_singleton, same, Nat.add_assoc]
          have settles := @hypothesis [] piped.right.tail not_mem_nil (stages ++ [command])
            (by rw [length_append, length_singleton]; omega) (before ++ (rewritten ++ [0]))
          have parts : before ++ (rewritten ++ (0 :: (rest ++ after))) =
              before ++ (rewritten ++ [0]) ++ (rest ++ after) := by
            simp only [append_assoc, cons_append, nil_append]
          simp only [nil_append, length_nil, Nat.add_zero] at settles
          show Settles _ _ (scanStages (stages ++ [command]) _ _ _ _)
          rw [place, parts]
          dsimp only
          rcases settles.cases with
            ⟨⟨storage, pipeline⟩, more, scanned, ⟨behind, written, length, found, all, others⟩, next, filled,
              count, each⟩ | ⟨scanned, refused⟩
          · have first := reads.widen (show rewritten ++ 0 :: behind = [] ++ (rewritten ++ 0 :: behind) from rfl)
              (Nat.add_zero before.length).symm
            have later := others.imp fun _ _ reads => Command.Reads.widen
              (show rewritten ++ 0 :: behind = rewritten ++ [0] ++ (behind ++ []) by simp)
              length_append reads
            rw [scanned]
            refine .found (words :: more) ⟨rewritten ++ 0 :: behind, ?_, ?_, command :: found,
              all.trans (append_assoc _ _ _), .cons first later⟩
              ⟨?_, cons_ne_nil _ _, ?_, forall_mem_cons.mpr ⟨fits, each⟩⟩
            · rw [show storage = _ from written]
              simp only [append_assoc, cons_append, nil_append]
            · simp only [length_append, length_cons, same, length]
            · rw [means, next]
              exact (joined_cons (mt map_eq_nil_iff.mp filled)).symm
            · rw [length_append, length_singleton] at count
              rw [length_cons]
              omega
          · rw [scanned]
            refine .refused fun more ⟨same, filled, count, fits⟩ => ?_
            obtain ⟨words, others, rfl, left, -, next⟩ :=
              pipeline_split (bar_notMem absent) same.symm
            refine refused others ⟨next.symm, left, ?_, (forall_mem_cons.mp fits).2⟩
            rw [length_append, length_singleton]
            rw [length_cons] at count
            omega
        · rw [parsed]
          refine .refused fun more ⟨same, filled, count, fits⟩ => ?_
          obtain ⟨words, others, rfl, -, first, -⟩ := pipeline_split (bar_notMem absent) same.symm
          exact refused words ⟨first.symm, fits words mem_cons_self⟩
    · rw [if_pos separates]
      have settles := @hypothesis (piece ++ [byte]) (by simpa using piped)
        (by simpa using ⟨absent, Ne.symm separates⟩) stages room before
      simpa [Nat.add_assoc] using settles

theorem blank_of_not_content (blank : (segment.any fun byte => !isSpace byte) = false) :
    ∀ byte ∈ segment, isSpace byte = true := by
  intro byte member
  have visible := any_eq_false.mp blank byte member
  simpa using visible

theorem tokensFrom_blank {slack : Bool}
    (blank : (segment.any fun byte => !isSpace byte) = false) : tokensFrom slack (.word []) segment = [] := by
  rw [← append_nil segment, tokensFrom_blanks (blank_of_not_content blank)]
  rfl

theorem parsePipelineSegment_settles (piped : Piped segment) (before after : Bytes) :
    Settles (Rewrites Pipeline.Reads before segment after)
      (fun pipeline => tokensFrom true (.word []) segment = Script.Pipeline.tokens pipeline ∧
        Script.Pipeline.Fits pipeline)
      (parsePipelineSegment (before ++ (segment ++ after)) before.length
        (before.length + segment.length)) := by
  unfold parsePipelineSegment
  rw [segmentHasContent_append]
  by_cases blank : (segment.any fun byte => !isSpace byte) = false
  · rw [if_pos blank, tokensFrom_blank blank]
    exact .refused fun pipeline ⟨same, fits⟩ => pipeline_ne_nil fits same.symm
  rw [if_neg blank, Nat.add_sub_cancel_left]
  rcases (@scanStages_settles [] segment piped not_mem_nil [] (by decide) before after).cases with
    ⟨⟨storage, parsed⟩, pipeline, scanned, ⟨rewritten, stored, same, found, stages, reads⟩, means, filled,
      count, fits⟩ | ⟨scanned, refused⟩
  · refine scanned ▸ .found pipeline ⟨rewritten, stored, same, ?_⟩
      ⟨means, filled, (Nat.zero_add _).ge.trans count, fits⟩
    obtain rfl : parsed.stages = found := stages
    exact reads
  · exact scanned ▸ .refused fun pipeline ⟨same, fits⟩ => refused pipeline
      ⟨same, fits.nonempty, (Nat.zero_add _).le.trans fits.count, fits.commands⟩

/-! ### Conditional lists -/

def ConditionalCommand.Reads (base : Nat) (segment : Bytes) (command : ConditionalCommand)
    (entry : ConditionalOperator × Script.Pipeline) : Prop :=
  command.operator = entry.1 ∧ Pipeline.Reads base segment command.pipeline entry.2

variable {base : Nat}

theorem ConditionalCommand.Reads.widen {left right : Bytes}
    (parts : whole = left ++ (segment ++ right)) (behind : inner = base + left.length)
    {command : ConditionalCommand} {entry : ConditionalOperator × Script.Pipeline}
    (reads : ConditionalCommand.Reads inner segment command entry) :
    ConditionalCommand.Reads base whole command entry :=
  ⟨reads.1, reads.2.imp fun _ _ reads => reads.widen parts behind⟩

/-- The commands behind those that are already known, the first one with an operator that
stands in front of the segment. -/
def ReadsConditionals (commands : List ConditionalCommand) (operator : ConditionalOperator) (base : Nat)
    (segment : Bytes) (list : ConditionalList) (more : Script.Pipeline × Script.Conditional) : Prop :=
  ∃ found, list.commands = commands ++ found ∧
    List.Forall₂ (ConditionalCommand.Reads base segment) found ((operator, more.1) :: more.2)

/-- What a segment of a list means behind so many commands: a pipeline, and others each
with an operator. -/
structure MeansConditionals (known : Nat) (segment : Bytes)
    (more : Script.Pipeline × Script.Conditional) : Prop where
  tokens : tokensFrom true (.word []) segment =
    Script.Pipeline.tokens more.1 ++ Script.Conditional.tokens more.2
  count : known + 1 + more.2.length ≤ maximumConditionalCommands
  joins : ∀ entry ∈ more.2, entry.1 ≠ .always
  first : Script.Pipeline.Fits more.1
  others : ∀ entry ∈ more.2, Script.Pipeline.Fits entry.2

/-- A list that is read up to the rest, with a pipeline begun. -/
structure Scanned (piece rest : Bytes) : Prop where
  semicolon : semicolon ∉ piece ++ rest
  ampersand : ampersand ∉ piece
  single : Single piece
  apart : piece.getLast? = some bar → rest.head? ≠ some bar

namespace Scanned

variable {piece rest : Bytes} {first second : UInt8}

theorem piped (scanned : Scanned piece rest) : Piped piece where
  semicolon := fun member => scanned.semicolon (mem_append_left _ member)
  single := scanned.single
  ampersand := fun member => scanned.ampersand (mem_of_mem_dropLast member)

theorem single_snoc (scanned : Scanned piece (first :: rest)) : Single (piece ++ [first]) := by
  refine isChain_append.mpr ⟨scanned.single, isChain_singleton _, ?_⟩
  intro last ends byte same
  cases same
  obtain rfl | left := eq_or_ne last bar
  · exact .inr fun same => scanned.apart ends (congrArg some same)
  · exact .inl left

/-- One byte behind what was read ends a pipeline, whatever it is. -/
theorem piped_last (scanned : Scanned piece [first]) : Piped (piece ++ [first]) where
  semicolon := scanned.semicolon
  single := scanned.single_snoc
  ampersand := by
    rw [dropLast_concat]
    exact scanned.ampersand

theorem next (scanned : Scanned piece (first :: second :: rest)) (other : first ≠ Shell.ampersand)
    (alone : ¬(first = bar ∧ second = bar)) : Scanned (piece ++ [first]) (second :: rest) where
  semicolon := by
    rw [append_assoc]
    exact scanned.semicolon
  ampersand := fun member => by
    rcases mem_append.mp member with member | member
    · exact scanned.ampersand member
    · exact other (mem_singleton.mp member).symm
  single := scanned.single_snoc
  apart := fun ends follows => by
    rw [getLast?_concat] at ends
    exact alone ⟨Option.some.inj ends, Option.some.inj follows⟩

theorem begin (scanned : Scanned piece (first :: second :: rest)) : Scanned [] rest where
  semicolon := fun member => scanned.semicolon (mem_append_right _
    (mem_cons_of_mem _ (mem_cons_of_mem _ member)))
  ampersand := not_mem_nil
  single := isChain_nil
  apart := fun ends => by cases ends

/-- An operator behind what was read. -/
theorem tokens {operator : ConditionalOperator} (scanned : Scanned piece (first :: second :: rest))
    (joins : (first = Shell.ampersand ∧ second = Shell.ampersand ∧ operator = .andIf) ∨
      (first = bar ∧ second = bar ∧ operator = .orIf)) :
    ∃ token, IsConditional token ∧ operatorTokens operator = [token] ∧
      tokensFrom true (.word []) (piece ++ first :: second :: rest) =
        tokensFrom true (.word []) piece ++ token :: tokensFrom true (.word []) rest := by
  have quiet : piece.getLast? ≠ some Shell.ampersand := fun ends =>
    scanned.ampersand (mem_of_getLast? ends)
  rcases joins with ⟨rfl, rfl, rfl⟩ | ⟨rfl, rfl, rfl⟩
  · exact ⟨.andIf, .inl rfl, rfl, tokensFrom_and quiet rest⟩
  · exact ⟨.orIf, .inr rfl, rfl, tokensFrom_or quiet (fun ends => scanned.apart ends rfl) rest⟩

end Scanned

theorem Piped.not_conditional (piped : Piped segment) :
    ∀ token ∈ tokensFrom true (.word []) segment, ¬IsConditional token :=
  conditional_notMem piped.single piped.ampersand (fun _ => Pending.noConfusion) Pending.noConfusion

theorem finishConditionals_settles (piped : Piped segment) {commands : List ConditionalCommand}
    (room : commands.length < maximumConditionalCommands) (operator : ConditionalOperator)
    (before after : Bytes) :
    Settles (Rewrites (ReadsConditionals commands operator) before segment after)
      (MeansConditionals commands.length segment)
      (finishConditionals commands operator (before ++ (segment ++ after)) before.length
        (before.length + segment.length)) := by
  unfold finishConditionals
  rcases (parsePipelineSegment_settles piped before after).cases with
    ⟨⟨storage, parsed⟩, pipeline, scanned, ⟨rewritten, stored, same, reads⟩, means, fits⟩ |
      ⟨scanned, refused⟩
  · rw [scanned]
    refine .found (pipeline, []) ⟨rewritten, stored, same, _, rfl, .cons ⟨rfl, reads⟩ .nil⟩
      ⟨means.trans (append_nil _).symm, room, ?_, fits, ?_⟩
    · exact fun _ member => absurd member not_mem_nil
    · exact fun _ member => absurd member not_mem_nil
  · rw [scanned]
    refine .refused fun more means => refused more.1 ⟨?_, means.first⟩
    have alone := conditional_single piped.not_conditional means.joins means.tokens.symm
    rw [means.tokens, alone]
    exact append_nil _

/-- A single ampersand with something behind it stands for nothing in a list. -/
theorem Scanned.lone {piece rest : Bytes} {second : UInt8}
    (scanned : Scanned piece (Shell.ampersand :: second :: rest)) (single : second ≠ Shell.ampersand)
    (known : Nat) (more : Script.Pipeline × Script.Conditional) :
    ¬MeansConditionals known (piece ++ Shell.ampersand :: second :: rest) more := by
  intro means
  have tokens := means.tokens
  have inside : second ≠ Shell.semicolon := fun same => scanned.semicolon (mem_append_right _
    (mem_cons_of_mem _ (same ▸ mem_cons_self)))
  rw [tokensFrom_ampersand (fun ends => scanned.ampersand (mem_of_getLast? ends)) single inside]
    at tokens
  have member : Token.ampersand ∈ Script.Pipeline.tokens more.1 ++ Script.Conditional.tokens more.2 :=
    tokens ▸ mem_append_right _ mem_cons_self
  rcases mem_append.mp member with member | member
  · rcases mem_pipeline member with same | ⟨_, _, _, _, same⟩ <;> cases same
  · rcases conditional_tokens member with (same | same) | same | ⟨_, same⟩ <;> cases same

theorem scanConditionals_settles {piece rest : Bytes} (scanned : Scanned piece rest)
    {commands : List ConditionalCommand} (room : commands.length < maximumConditionalCommands)
    (operator : ConditionalOperator) (before after : Bytes) :
    Settles (Rewrites (ReadsConditionals commands operator) before (piece ++ rest) after)
      (MeansConditionals commands.length (piece ++ rest))
      (scanConditionals commands operator (before ++ (piece ++ (rest ++ after))) before.length
        (before.length + piece.length) rest.length) := by
  induction rest using List.twoStepInduction generalizing piece commands operator before with
  | nil =>
    have piped := scanned.piped
    rw [append_nil]
    exact finishConditionals_settles piped room operator before after
  | singleton byte =>
    have settles := finishConditionals_settles scanned.piped_last room operator before after
    rwa [append_assoc, length_append, ← Nat.add_assoc] at settles
  | cons_cons first second rest afterOperator afterByte =>
    have here : byteAt (before ++ (piece ++ (first :: second :: rest ++ after)))
        (before.length + piece.length) = first := by
      have read := byteAt_append (before ++ piece) (second :: rest ++ after) first
      rwa [append_assoc, length_append] at read
    have behind : byteAt (before ++ (piece ++ (first :: second :: rest ++ after)))
        (before.length + piece.length + 1) = second := by
      have read := byteAt_append (before ++ (piece ++ [first])) (rest ++ after) second
      simpa only [append_assoc, length_append, cons_append, nil_append,
        length_singleton, Nat.add_assoc] using read
    rw [length_cons, length_cons]
    unfold scanConditionals operatorAt
    rw [here, behind]
    have joined (next : ConditionalOperator)
        (joins : (first = ampersand ∧ second = ampersand ∧ next = .andIf) ∨
          (first = bar ∧ second = bar ∧ next = .orIf)) :
        Settles (Rewrites (ReadsConditionals commands operator) before (piece ++ first :: second :: rest)
            after)
          (MeansConditionals commands.length (piece ++ first :: second :: rest))
          (if maximumConditionalCommands - 1 ≤ commands.length then none
          else parsePipelineSegment (((before ++ (piece ++ (first :: second :: rest ++ after))).set
              (before.length + piece.length) 0).set (before.length + piece.length + 1) 0) before.length
              (before.length + piece.length) >>= fun parsed =>
            scanConditionals (commands ++ [{ operator, pipeline := parsed.2 }]) next parsed.1
              (before.length + piece.length + 2) (before.length + piece.length + 2) rest.length) := by
      obtain ⟨token, conditional, single, split⟩ := scanned.tokens joins
      have clean := scanned.piped.not_conditional
      by_cases full : maximumConditionalCommands - 1 ≤ commands.length
      · rw [if_pos full]
        refine .refused fun more means => ?_
        have count := means.count
        obtain ⟨_, _, _, others, -⟩ := conditional_split clean conditional means.joins
          (means.tokens.symm.trans split)
        rw [others, length_cons] at count
        omega
      rw [if_neg full]
      have written : ((before ++ (piece ++ (first :: second :: rest ++ after))).set
          (before.length + piece.length) 0).set (before.length + piece.length + 1) 0 =
            before ++ (piece ++ (0 :: 0 :: (rest ++ after))) := by
        have one := set_append (before ++ piece) (second :: (rest ++ after)) first 0
        have two := set_append (before ++ (piece ++ [0])) (rest ++ after) second 0
        simp only [append_assoc, length_append, cons_append, nil_append,
          length_singleton, ← Nat.add_assoc] at one two
        rw [cons_append, cons_append, one, two]
      rw [written]
      rcases (parsePipelineSegment_settles scanned.piped before (0 :: 0 :: (rest ++ after))).cases with
        ⟨⟨storage, parsed⟩, pipeline, found, ⟨rewritten, stored, same, reads⟩, means, fits⟩ |
          ⟨failed, refused⟩
      · rw [found]
        obtain rfl : storage = before ++ (rewritten ++ (0 :: 0 :: (rest ++ after))) := stored
        have place : before.length + piece.length + 2 = (before ++ (rewritten ++ [0, 0])).length := by
          simp only [length_append, length_cons, length_nil, same, Nat.add_assoc]
        have parts : before ++ (rewritten ++ (0 :: 0 :: (rest ++ after))) =
            before ++ (rewritten ++ [0, 0]) ++ (rest ++ after) := by
          simp only [append_assoc, cons_append, nil_append]
        have settles := @afterOperator [] scanned.begin (commands ++ [{ operator, pipeline := parsed }])
          (by rw [length_append, length_singleton]; omega) next (before ++ (rewritten ++ [0, 0]))
        simp only [nil_append, length_nil, Nat.add_zero] at settles
        show Settles _ _ (scanConditionals (commands ++ [{ operator, pipeline := parsed }]) next _ _ _ _)
        rw [place, parts]
        dsimp only
        rcases settles.cases with
          ⟨⟨storage, list⟩, more, ran, ⟨behind, written, length, others, all, reading⟩, rest_means⟩ |
            ⟨failed, refused⟩
        · have early : ConditionalCommand.Reads before.length (rewritten ++ 0 :: 0 :: behind)
              { operator, pipeline := parsed } (operator, pipeline) :=
            ⟨rfl, reads.imp fun _ _ reads => reads.widen
              (show rewritten ++ 0 :: 0 :: behind = [] ++ (rewritten ++ 0 :: 0 :: behind) from rfl)
              (Nat.add_zero before.length).symm⟩
          have late := reading.imp fun _ _ reads => ConditionalCommand.Reads.widen
            (show rewritten ++ 0 :: 0 :: behind = rewritten ++ [0, 0] ++ (behind ++ []) by simp)
            length_append reads
          rw [ran]
          refine .found (pipeline, (next, more.1) :: more.2) ⟨rewritten ++ 0 :: 0 :: behind, ?_, ?_, _,
            all.trans (append_assoc _ _ _), .cons early late⟩ ⟨?_, ?_, ?_, fits, ?_⟩
          · rw [show storage = _ from written]
            simp only [append_assoc, cons_append, nil_append]
          · simp only [length_append, length_cons, same, length]
          · rw [split, means, rest_means.tokens, conditional_cons, single]
            rfl
          · have count := rest_means.count
            rw [length_append, length_singleton] at count
            rw [length_cons]
            omega
          · refine forall_mem_cons.mpr ⟨?_, rest_means.joins⟩
            rintro rfl
            cases single
          · exact forall_mem_cons.mpr ⟨rest_means.first, rest_means.others⟩
        · rw [failed]
          refine .refused fun more means => ?_
          obtain ⟨operator', following, others, all, same, -, behind⟩ :=
            conditional_split clean conditional means.joins (means.tokens.symm.trans split)
          have joins := means.joins
          have fitting := means.others
          have count := means.count
          rw [all] at joins fitting count
          refine refused (following, others) ⟨behind.symm, ?_, (forall_mem_cons.mp joins).2,
            (forall_mem_cons.mp fitting).1, (forall_mem_cons.mp fitting).2⟩
          rw [length_append, length_singleton]
          rw [length_cons] at count
          show commands.length + 1 + 1 + others.length ≤ _
          omega
      · rw [failed]
        refine .refused fun more means => ?_
        obtain ⟨-, -, -, -, -, first, -⟩ :=
          conditional_split clean conditional means.joins (means.tokens.symm.trans split)
        exact refused more.1 ⟨first.symm, means.first⟩
    by_cases both : first = ampersand ∧ second = ampersand
    · rw [if_pos both]
      exact joined .andIf (.inl ⟨both.1, both.2, rfl⟩)
    rw [if_neg both]
    by_cases bars : first = bar ∧ second = bar
    · rw [if_pos bars]
      exact joined .orIf (.inr ⟨bars.1, bars.2, rfl⟩)
    rw [if_neg bars]
    dsimp only
    by_cases lone : first = ampersand
    · rw [if_pos lone]
      subst lone
      exact .refused (scanned.lone (fun same => both ⟨rfl, same⟩) _)
    · rw [if_neg lone]
      have settles := afterByte second (scanned.next lone bars) room operator before
      simpa [Nat.add_assoc] using settles

def ConditionalList.Reads (base : Nat) (segment : Bytes) (list : ConditionalList)
    (meaning : Script.Conditional) : Prop :=
  List.Forall₂ (ConditionalCommand.Reads base segment) list.commands meaning

theorem ConditionalList.Reads.widen {left right : Bytes}
    (parts : whole = left ++ (segment ++ right)) (behind : inner = base + left.length)
    {list : ConditionalList} {meaning : Script.Conditional}
    (reads : ConditionalList.Reads inner segment list meaning) :
    ConditionalList.Reads base whole list meaning :=
  reads.imp fun _ _ reads => reads.widen parts behind

theorem parseConditionalList_settles (absent : semicolon ∉ segment) (before after : Bytes) :
    Settles (Rewrites ConditionalList.Reads before segment after)
      (fun list => tokensFrom true (.word []) segment = Script.Conditional.tokens list ∧
        Script.Conditional.Fits list)
      (parseConditionalList (before ++ (segment ++ after)) before.length
        (before.length + segment.length)) := by
  unfold parseConditionalList
  rw [segmentHasContent_append]
  by_cases blank : (segment.any fun byte => !isSpace byte) = false
  · rw [if_pos blank, tokensFrom_blank blank]
    exact .refused fun list ⟨same, fits⟩ => conditional_ne_nil fits same.symm
  rw [if_neg blank, Nat.add_sub_cancel_left]
  have scanned : Scanned [] segment := ⟨absent, not_mem_nil, isChain_nil, fun ends => by cases ends⟩
  rcases (@scanConditionals_settles [] segment scanned [] (by decide) .always before after).cases with
    ⟨⟨storage, parsed⟩, ⟨pipeline, others⟩, ran, ⟨rewritten, stored, same, found, commands, reads⟩, means⟩ |
      ⟨failed, refused⟩
  · refine ran ▸ .found ((.always, pipeline) :: others) ⟨rewritten, stored, same, ?_⟩
      ⟨?_, ⟨pipeline, others, rfl, means.joins⟩, ?_, forall_mem_cons.mpr ⟨means.first, means.others⟩⟩
    · obtain rfl : parsed.commands = found := commands
      exact reads
    · rw [conditional_cons]
      exact means.tokens
    · have count : 0 + 1 + others.length ≤ maximumConditionalCommands := means.count
      rw [length_cons]
      omega
  · refine failed ▸ .refused fun list ⟨same, fits⟩ => ?_
    obtain ⟨pipeline, rest, rfl, joins⟩ := fits.first
    rw [conditional_cons] at same
    obtain ⟨first, others⟩ := forall_mem_cons.mp fits.pipelines
    have count := fits.count
    rw [length_cons] at count
    refine refused (pipeline, rest) ⟨same, ?_, joins, first, others⟩
    show 0 + 1 + rest.length ≤ _
    omega

/-! ### Lines -/

/-- The lists behind those that are already known. -/
def ReadsLists (lists : List ConditionalList) (base : Nat) (segment : Bytes)
    (result : List ConditionalList) (more : List Script.Conditional × Bool) : Prop :=
  ∃ found, result = lists ++ found ∧ List.Forall₂ (ConditionalList.Reads base segment) found more.1

/-- What a text means behind so many lists, with or without a semicolon at its end. -/
structure MeansLists (known : Nat) (text : Bytes) (more : List Script.Conditional × Bool) : Prop where
  tokens : tokensFrom true (.word []) text =
    listTokens more.1 ++ trailingTokens more.2
  some : more.1 = [] → known ≠ 0 ∧ more.2 = false
  count : known + more.1.length ≤ maximumSequentialLists
  fits : ∀ list ∈ more.1, Script.Conditional.Fits list

theorem scanLists_settles {piece rest : Bytes} (absent : semicolon ∉ piece)
    {lists : List ConditionalList} (room : lists.length ≤ maximumSequentialLists) (before after : Bytes) :
    Settles (Rewrites (ReadsLists lists) before (piece ++ rest) after)
      (MeansLists lists.length (piece ++ rest))
      (scanLists lists (before ++ (piece ++ (rest ++ after))) before.length
        (before.length + piece.length) rest.length) := by
  induction rest generalizing piece lists before with
  | nil =>
    rw [append_nil, nil_append]
    unfold scanLists
    rw [length_nil]
    dsimp only
    rw [segmentHasContent_append]
    by_cases content : (piece.any fun byte => !isSpace byte) = true
    · rw [if_pos content]
      have written : tokensFrom true (.word []) piece ≠ [] := fun none => by
        obtain ⟨byte, member, visible⟩ := any_eq_true.mp content
        rw [(blank_of_tokensFrom none).2 byte member] at visible
        cases visible
      have some {more : List Script.Conditional × Bool} (means : MeansLists lists.length piece more) :
          ∃ list others, more.1 = list :: others := by
        refine exists_cons_of_ne_nil fun none => written ?_
        rw [means.tokens, none, (means.some none).2]
        rfl
      by_cases full : lists.length = maximumSequentialLists
      · rw [if_pos full]
        refine .refused fun more means => ?_
        have count := means.count
        obtain ⟨list, others, filled⟩ := some means
        rw [filled, length_cons] at count
        omega
      rw [if_neg full]
      rcases (parseConditionalList_settles absent before after).cases with
        ⟨⟨storage, parsed⟩, list, found, ⟨rewritten, stored, same, reads⟩, means, fits⟩ |
          ⟨failed, refused⟩
      · rw [found]
        refine .found ([list], false) ⟨rewritten, stored, same, _, rfl, .cons reads .nil⟩
          ⟨means.trans (append_nil _).symm, fun none => absurd none (cons_ne_nil _ _), ?_, ?_⟩
        · show lists.length + 1 ≤ _
          omega
        · exact fun other member => mem_singleton.mp member ▸ fits
      · rw [failed]
        refine .refused fun more means => ?_
        obtain ⟨list, others, filled⟩ := some means
        have tokens := means.tokens
        rw [filled] at tokens
        obtain ⟨-, -, alone⟩ := lists_single (semicolon_notMem absent) tokens.symm
        exact refused list ⟨alone.symm, means.fits list (filled ▸ mem_cons_self)⟩
    · rw [if_neg content]
      have tokens : tokensFrom true (.word []) piece = [] :=
        tokensFrom_blank (Bool.eq_false_of_not_eq_true content)
      by_cases empty : lists = []
      · rw [if_pos empty]
        refine .refused fun more means => ?_
        have none : more.1 = [] := by
          have same := means.tokens
          rw [tokens] at same
          by_contra some
          obtain ⟨list, others, filled⟩ := exists_cons_of_ne_nil some
          rw [filled] at same
          obtain ⟨-, -, alone⟩ := lists_single not_mem_nil same.symm
          exact conditional_ne_nil (means.fits list (filled ▸ mem_cons_self)) alone
        exact (means.some none).1 (length_eq_zero_iff.mpr empty)
      · rw [if_neg empty]
        refine .found ([], false) ⟨piece, rfl, rfl, [], (append_nil _).symm, .nil⟩
          ⟨tokens, fun _ => ⟨mt length_eq_zero_iff.mp empty, rfl⟩, room, ?_⟩
        exact fun _ member => absurd member not_mem_nil
  | cons byte rest hypothesis =>
    have here : byteAt (before ++ (piece ++ (byte :: rest ++ after))) (before.length + piece.length) =
        byte := by
      have read := byteAt_append (before ++ piece) (rest ++ after) byte
      rwa [append_assoc, length_append] at read
    rw [length_cons]
    unfold scanLists
    dsimp only
    rw [here]
    obtain rfl | separates := eq_or_ne byte semicolon
    · rw [if_neg (not_not.mpr rfl)]
      have split := @tokensFrom_semicolon true (.word []) piece rest
      have clean := @semicolon_notMem true (.word []) piece absent
      have some {more : List Script.Conditional × Bool}
          (means : MeansLists lists.length (piece ++ semicolon :: rest) more) :
          ∃ list others, more.1 = list :: others := by
        refine exists_cons_of_ne_nil fun none => ?_
        have tokens := split.symm.trans means.tokens
        rw [none, (means.some none).2] at tokens
        exact absurd tokens (append_ne_nil_of_right_ne_nil _ (cons_ne_nil _ _))
      by_cases full : lists.length = maximumSequentialLists
      · rw [if_pos full]
        refine .refused fun more means => ?_
        have count := means.count
        obtain ⟨list, others, filled⟩ := some means
        rw [filled, length_cons] at count
        omega
      rw [if_neg full]
      have written : (before ++ (piece ++ (semicolon :: rest ++ after))).set
          (before.length + piece.length) 0 = before ++ (piece ++ (0 :: (rest ++ after))) := by
        have set := set_append (before ++ piece) (rest ++ after) semicolon 0
        rwa [append_assoc, length_append, append_assoc] at set
      rw [written]
      rcases (parseConditionalList_settles absent before (0 :: (rest ++ after))).cases with
        ⟨⟨storage, parsed⟩, list, found, ⟨rewritten, stored, same, reads⟩, means, fits⟩ |
          ⟨failed, refused⟩
      · rw [found]
        obtain rfl : storage = before ++ (rewritten ++ (0 :: (rest ++ after))) := stored
        have place : before.length + piece.length + 1 = (before ++ (rewritten ++ [0])).length := by
          simp only [length_append, length_singleton, same, Nat.add_assoc]
        have parts : before ++ (rewritten ++ (0 :: (rest ++ after))) =
            before ++ (rewritten ++ [0]) ++ (rest ++ after) := by
          simp only [append_assoc, cons_append, nil_append]
        have settles := @hypothesis [] not_mem_nil (lists ++ [parsed])
          (by rw [length_append, length_singleton]; omega) (before ++ (rewritten ++ [0]))
        simp only [nil_append, length_nil, Nat.add_zero] at settles
        show Settles _ _ (scanLists (lists ++ [parsed]) _ _ _ _)
        rw [place, parts]
        dsimp only
        rcases settles.cases with
          ⟨⟨storage, result⟩, ⟨more, trailing⟩, ran, ⟨behind, stored, length, others, all, reading⟩,
            next⟩ | ⟨failed, refused⟩
        · have early := reads.widen (show rewritten ++ 0 :: behind = [] ++ (rewritten ++ 0 :: behind) from rfl)
            (Nat.add_zero before.length).symm
          have late := reading.imp fun _ _ reads => ConditionalList.Reads.widen
            (show rewritten ++ 0 :: behind = rewritten ++ [0] ++ (behind ++ []) by simp)
            length_append reads
          have count : (lists ++ [parsed]).length + more.length ≤ maximumSequentialLists := next.count
          rw [length_append, length_singleton] at count
          obtain ⟨trailing', tokens⟩ : ∃ trailing', tokensFrom true (.word []) (piece ++ semicolon :: rest) =
              listTokens (list :: more) ++ trailingTokens trailing' := by
            rw [split, means, next.tokens]
            by_cases none : more = []
            · obtain rfl : trailing = false := (next.some none).2
              subst none
              exact ⟨true, rfl⟩
            · refine ⟨trailing, ?_⟩
              rw [listTokens_cons list none, append_assoc]
              rfl
          rw [ran]
          refine .found (list :: more, trailing') ⟨rewritten ++ 0 :: behind, ?_, ?_, _,
            all.trans (append_assoc _ _ _), .cons early late⟩
            ⟨tokens, fun none => absurd none (cons_ne_nil _ _), ?_,
              forall_mem_cons.mpr ⟨fits, next.fits⟩⟩
          · rw [show storage = _ from stored]
            simp only [append_assoc, cons_append, nil_append]
          · simp only [length_append, length_cons, same, length]
          · show lists.length + (more.length + 1) ≤ _
            omega
        · rw [failed]
          refine .refused fun more means => ?_
          obtain ⟨list, others, filled⟩ := some means
          have tokens := split.symm.trans means.tokens
          have count := means.count
          have fits := means.fits
          rw [filled] at tokens count fits
          rw [length_cons] at count
          have known : (lists ++ [parsed]).length = lists.length + 1 := length_append
          obtain ⟨-, ⟨rfl, -, none⟩ | ⟨filled, behind⟩⟩ := lists_split clean tokens.symm
          · refine refused ([], false) ⟨none, fun _ => ⟨?_, rfl⟩, ?_, fun _ member =>
              absurd member not_mem_nil⟩
            · omega
            · show (lists ++ [parsed]).length + 0 ≤ _
              omega
          · refine refused (others, more.2) ⟨behind, fun none => absurd none filled, ?_,
              (forall_mem_cons.mp fits).2⟩
            show (lists ++ [parsed]).length + others.length ≤ _
            omega
      · rw [failed]
        refine .refused fun more means => ?_
        obtain ⟨list, others, filled⟩ := some means
        have tokens := split.symm.trans means.tokens
        rw [filled] at tokens
        obtain ⟨first, -⟩ := lists_split clean tokens.symm
        exact refused list ⟨first.symm, means.fits list (filled ▸ mem_cons_self)⟩
    · rw [if_pos separates]
      have settles := @hypothesis (piece ++ [byte])
        (by simpa using ⟨absent, Ne.symm separates⟩) lists room before
      simpa [Nat.add_assoc] using settles

end ZigOs.Shell
