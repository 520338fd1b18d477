/-
This file proves which commands the user shell expands inside its buffers. All
forms check the length of what they copy but one: the directory of a wildcard is
copied into a path of 256 bytes whatever its length. So an expansion stays inside
unless it reaches a word whose directory does not fit, and then it does not.
-/

import ZigOs.Shell.Expansion
import ZigOs.Shell.Language

namespace ZigOs.Shell

open List Buffers

open Buffers (Outcome Stop Safe Finishes)

/-! ### Words that are packed -/

/-- A word of the result: it is short, and a zero follows it. -/
structure Terminated (storage : Bytes) (word : Word) : Prop where
  nonempty : 0 < word.length
  short : word.length ≤ maximumArgumentBytes
  zero : storage[word.start + word.length]? = some 0

/-- The words stand one behind the other in front of the cursor. -/
structure Packed (result : Expansion) : Prop where
  size : result.storage.length = maximumLine + 1
  count : result.words.length ≤ maximumWords
  cursor : result.cursor ≤ (maximumArgumentBytes + 1) * result.words.length
  words : ∀ word ∈ result.words, Terminated result.storage word
  before : ∀ word ∈ result.words, word.start + word.length < result.cursor
  apart : result.words.Pairwise fun first second => first.start + first.length < second.start

variable {storage : Bytes}

theorem packed_begin (size : storage.length = maximumLine + 1) : Packed { storage } where
  size := size
  count := Nat.zero_le _
  cursor := Nat.le_refl _
  words := fun _ member => absurd member not_mem_nil
  before := fun _ member => absurd member not_mem_nil
  apart := List.Pairwise.nil

section Append

variable {result : Expansion} {word : Bytes}

/-- A word behind the others, once it is copied with a zero behind it. -/
theorem Packed.push (packed : Packed result) {copied closed : Bytes}
    (room : result.words.length < maximumWords) (nonempty : 0 < word.length)
    (short : word.length ≤ maximumArgumentBytes)
    (first : copy result.storage result.cursor word = .ok copied)
    (second : copy copied (result.cursor + word.length) [0] = .ok closed) :
    Packed {
      storage := closed
      cursor := result.cursor + (word.length + 1)
      words := result.words ++ [{ start := result.cursor, length := word.length }] } where
  size := by rw [length_copied second, length_copied first, packed.size]
  count := by
    rwa [length_append, length_singleton]
  cursor := by
    have cursor : result.cursor ≤ 32 * result.words.length := packed.cursor
    have short : word.length ≤ 31 := short
    rw [length_append, length_singleton]
    show result.cursor + (word.length + 1) ≤ 32 * (result.words.length + 1)
    omega
  words := by
    intro other member
    rcases mem_append.mp member with member | member
    · obtain ⟨nonempty, short, zero⟩ := packed.words other member
      have before := packed.before other member
      refine ⟨nonempty, short, ?_⟩
      rw [getElem?_copied second (Nat.lt_of_lt_of_le before (Nat.le_add_right _ _)),
        getElem?_copied first before]
      exact zero
    · obtain rfl := mem_singleton.mp member
      exact ⟨nonempty, short, getElem?_copied_first second⟩
  before := by
    intro other member
    rcases mem_append.mp member with member | member
    · exact (packed.before other member).trans_le (Nat.le_add_right _ _)
    · obtain rfl := mem_singleton.mp member
      exact Nat.lt_succ_self _
  apart := by
    refine pairwise_append.mpr ⟨packed.apart, pairwise_singleton _ _, fun other member last same => ?_⟩
    obtain rfl := mem_singleton.mp same
    exact packed.before other member

theorem appendExpandedWord_finishes (packed : Packed result) (room : result.words.length < maximumWords)
    (nonempty : 0 < word.length) (short : word.length ≤ maximumArgumentBytes) :
    Finishes (fun after => Packed after ∧ after.words.length = result.words.length + 1)
      (appendExpandedWord result word) := by
  have inside : result.cursor + word.length + 1 ≤ result.storage.length := by
    have cursor : result.cursor ≤ 32 * result.words.length := packed.cursor
    have size : result.storage.length = 513 := packed.size
    have short : word.length ≤ 31 := short
    have room : result.words.length < 8 := room
    omega
  unfold appendExpandedWord
  rw [if_neg (by omega)]
  refine (finishes_copy (Nat.le_of_succ_le inside)).bind fun copied ⟨first, size⟩ => ?_
  refine (finishes_copy (size.symm ▸ inside)).bind fun closed ⟨second, _⟩ => ?_
  exact finishes_pure ⟨packed.push room nonempty short first second, length_append⟩

theorem appendExpandedWord_safe (packed : Packed result) (word : Bytes) :
    Safe Packed (appendExpandedWord result word) := by
  by_cases refuses : word.length = 0 ∨ maximumArgumentBytes < word.length ∨
      result.words.length = maximumWords
  · unfold appendExpandedWord
    rw [if_pos refuses]
    exact .refused
  · have count := packed.count
    have ends := @appendExpandedWord_finishes _ word packed (by omega) (by omega) (by omega)
    exact ends.safe.mono fun _ holds => holds.1

theorem joinedArgument_finishes {first second : Bytes}
    (short : first.length + second.length ≤ maximumArgumentBytes) :
    Finishes (fun joined => joined.length = first.length + second.length) (joinedArgument first second) := by
  have size : (emptyBuffer maximumArgumentBytes).length = maximumArgumentBytes := length_replicate
  refine (finishes_copy (by omega)).bind fun one ⟨_, same⟩ => ?_
  refine (finishes_copy (by omega)).bind fun two ⟨_, again⟩ => ?_
  obtain ⟨joined, sliced, -, length⟩ :=
    finishes_slice (Nat.zero_le _) (show first.length + second.length ≤ two.length by omega)
  exact ⟨joined, sliced, length⟩

theorem expandTilde_safe (packed : Packed result) (nonempty : word ≠ []) :
    Safe Packed (expandTilde word result) := by
  unfold expandTilde
  by_cases other : word.length ≠ 1 ∧ byteAt word 1 ≠ slash
  · rw [if_pos other]
    exact .refused
  rw [if_neg other]
  by_cases long : maximumArgumentBytes < home.length + word.length - 1
  · rw [if_pos long]
    exact .refused
  rw [if_neg long]
  have length := length_pos_of_ne_nil nonempty
  have ends := @joinedArgument_finishes home (word.drop 1) (by
    rw [length_drop]
    omega)
  exact ends.safe.bind fun joined _ => appendExpandedWord_safe packed joined

end Append

/-! ### Wildcards -/

variable {word : Bytes} {index : Nat}

theorem lastSlash_lt (found : lastSlash word = some index) : index < word.length := by
  have every : ∀ pairs : List (UInt8 × Nat), (∀ pair ∈ pairs, pair.2 < word.length) →
      ∀ start : Option Nat, (∀ index ∈ start, index < word.length) →
        ∀ index ∈ pairs.foldl (fun found pair => if pair.1 = slash then some pair.2 else found) start,
          index < word.length := by
    intro pairs
    induction pairs with
    | nil => exact fun _ _ below => below
    | cons pair pairs hypothesis =>
      intro inside start below
      obtain ⟨first, inside⟩ := forall_mem_cons.mp inside
      refine hypothesis inside _ fun index member => ?_
      dsimp only at member
      split at member
      · exact Option.some.inj member ▸ first
      · exact below index member
  refine every _ (fun pair member => ?_) none (fun _ member => by cases member) index found
  exact snd_lt_of_mem_zipIdx member

theorem componentStart_le (word : Bytes) : componentStart word ≤ word.length := by
  unfold componentStart
  cases found : lastSlash word with
  | none => exact Nat.zero_le _
  | some index => exact lastSlash_lt found

/-- A word whose wildcard is looked up in a directory with a path that is too long. -/
def overruns (word : Bytes) : Bool :=
  match substitutionProgram word, word.idxOf? star, lastSlash word with
  | none, some starIndex, some index =>
    !(word.drop (starIndex + 1)).contains star && decide (index < starIndex ∧ maximumPath < index)
  | _, _, _ => false

theorem directoryPath_finishes {word : Bytes}
    (short : ∀ index, lastSlash word = some index → index ≤ maximumPath) :
    Finishes (fun _ => True) (directoryPath word) := by
  unfold directoryPath
  cases found : lastSlash word with
  | none => exact finishes_pure trivial
  | some index =>
    have below := lastSlash_lt found
    have fits := short index found
    dsimp only
    generalize chosen : (if index = 0 then 1 else index) = length
    have bounds : length ≤ word.length ∧ length ≤ maximumPath := by
      rw [← chosen]
      split
      · exact ⟨by omega, by decide⟩
      · exact ⟨Nat.le_of_lt below, fits⟩
    have size : (emptyBuffer (maximumPath + 1)).length = maximumPath + 1 := length_replicate
    refine (finishes_slice (Nat.zero_le _) bounds.1).bind fun copied ⟨_, count⟩ => ?_
    refine (finishes_copy (by omega)).bind fun directory ⟨_, same⟩ => ?_
    refine (finishes_copy ?_).bind fun closed _ => finishes_pure trivial
    rw [length_singleton]
    omega

variable {base before behind : Bytes} {result : Expansion}

variable (entries : List DirectoryEntry) (found : Nat)

theorem appendMatches_safe (packed : Packed result) :
    Safe (fun after => Packed after.2) (appendMatches base before behind entries found result) := by
  induction entries generalizing found result with
  | nil => exact .done packed
  | cons entry entries hypothesis =>
    unfold appendMatches
    split
    · exact hypothesis found packed
    split
    · exact .refused
    · rename_i short
      refine (joinedArgument_finishes (Nat.not_lt.mp short)).safe.bind fun joined _ => ?_
      exact (appendExpandedWord_safe packed joined).bind fun after packed =>
        hypothesis (found + 1) packed

variable (answers : Answers)

/-- What comes of a wildcard comes of its matches. -/
theorem expandWildcard_rule {Holds : Expansion → Prop} (plain : substitutionProgram word = none)
    (fits : overruns word = false)
    (rule : ∀ starIndex, word.idxOf? star = some starIndex → star ∉ word.drop (starIndex + 1) →
      componentStart word ≤ starIndex → ∀ base before behind entries,
        base.length = componentStart word →
          before.length + behind.length = word.length - 1 - componentStart word →
            Safe (fun after => after.1 ≠ 0 → Holds after.2)
              (appendMatches base before behind entries 0 result)) :
    Safe Holds (expandWildcard answers word result) := by
  unfold expandWildcard
  cases starred : word.idxOf? star with
  | none => exact .refused
  | some starIndex =>
    dsimp only
    by_cases again : star ∈ word.drop (starIndex + 1)
    · rw [if_pos again]
      exact .refused
    rw [if_neg again]
    by_cases early : starIndex < componentStart word
    · rw [if_pos early]
      exact .refused
    rw [if_neg early]
    obtain ⟨inside, -⟩ := findIdx?_eq_some_iff_getElem.mp starred
    have start := componentStart_le word
    refine (finishes_slice start (Nat.le_refl _)).safe.bind fun pattern ⟨_, length⟩ => ?_
    refine (finishes_slice (Nat.zero_le _) (by omega)).safe.bind fun before ⟨_, left⟩ => ?_
    refine (finishes_slice (by omega) (Nat.le_refl _)).safe.bind fun behind ⟨_, right⟩ => ?_
    have short (index : Nat) (found : lastSlash word = some index) : index ≤ maximumPath := by
      by_contra long
      unfold overruns at fits
      unfold componentStart at early
      rw [plain, starred, found] at fits
      rw [found] at early
      simp_all
    refine (directoryPath_finishes short).safe.bind fun path _ => ?_
    split
    · exact .refused
    · refine (finishes_slice (Nat.zero_le _) start).safe.bind fun base ⟨_, size⟩ => ?_
      refine (rule starIndex starred again (Nat.not_lt.mp early) base before behind _ (by omega)
        (by omega)).bind fun after holds => ?_
      split
      · rename_i matched
        exact .done (holds (by simpa using (Bool.and_eq_true_iff.mp matched).2))
      · exact .refused

theorem expandWildcard_safe (packed : Packed result) (plain : substitutionProgram word = none)
    (fits : overruns word = false) : Safe Packed (expandWildcard answers word result) :=
  expandWildcard_rule answers plain fits fun _ _ _ _ _ _ _ entries _ _ =>
    (appendMatches_safe entries 0 packed).mono fun _ holds _ => holds

theorem directoryPath_outside (found : lastSlash word = some index)
    (long : maximumPath < index) : directoryPath word = .error .outOfBounds := by
  have below := lastSlash_lt found
  have copied := slice_of_le (Nat.zero_le index) (Nat.le_of_lt below)
  have length := length_sliced copied
  have size : (emptyBuffer (maximumPath + 1)).length = maximumPath + 1 := length_replicate
  unfold directoryPath
  rw [found]
  dsimp only
  rw [if_neg (by omega), copied]
  show (copy _ _ _ >>= _) = _
  rcases Nat.lt_or_ge (maximumPath + 1) index with beyond | upto
  · rw [copy_outside (by omega)]
    rfl
  · have done := copy_of_le
      (show 0 + ((word.take index).drop 0).length ≤ (emptyBuffer (maximumPath + 1)).length by omega)
    rw [done]
    show (copy _ _ _ >>= _) = _
    rw [copy_outside]
    · rfl
    · rw [length_copied done, length_singleton]
      omega

/-- The directory of such a word is copied behind the end of the path. -/
theorem expandWildcard_overruns
    (long : overruns word = true) : expandWildcard answers word result = .error .outOfBounds := by
  unfold overruns at long
  unfold expandWildcard
  cases starred : word.idxOf? star with
  | none => simp [starred] at long
  | some starIndex =>
    cases found : lastSlash word with
    | none => simp [found] at long
    | some index =>
      obtain ⟨inside, -⟩ := findIdx?_eq_some_iff_getElem.mp starred
      have start := componentStart_le word
      have component : componentStart word = index + 1 := by
        unfold componentStart
        rw [found]
      cases plain : substitutionProgram word with
      | some program => simp [plain] at long
      | none =>
        obtain ⟨once, before, outside⟩ : star ∉ word.drop (starIndex + 1) ∧ index < starIndex ∧
            maximumPath < index := by
          simpa [plain, starred, found] using long
        have path := directoryPath_outside found outside
        dsimp only
        rw [if_neg once, if_neg (by omega)]
        have pattern := slice_of_le start (Nat.le_refl word.length)
        have length := length_sliced pattern
        rw [pattern]
        show (slice _ _ _ >>= _) = _
        rw [slice_of_le (Nat.zero_le _) (by omega)]
        show (slice _ _ _ >>= _) = _
        rw [slice_of_le (by omega) (Nat.le_refl _), path]
        rfl

/-! ### Substitutions -/

/-- The parts of the path of a program in a directory. -/
def pathParts (directory program : Bytes) : Nat :=
  let front := if program.contains slash then [] else directory
  front.length + (if front = [] ∨ front.getLast? = some slash then [] else [slash]).length +
    program.length + (if (bytesOf ".elf").isSuffixOf program then [] else bytesOf ".elf").length

variable {directory program : Bytes}

theorem buildExecutablePath_finishes (short : pathParts directory program ≤ maximumPath) :
    Finishes (fun _ => True) (buildExecutablePath directory program) := by
  unfold pathParts at short
  unfold buildExecutablePath
  dsimp only at short ⊢
  revert short
  generalize (if program.contains slash then [] else directory) = front
  generalize (if front = [] ∨ front.getLast? = some slash then [] else [slash]) = separator
  generalize (if (bytesOf ".elf").isSuffixOf program then [] else bytesOf ".elf") = suffix
  intro short
  rw [if_neg (Nat.not_lt.mpr short)]
  have size : (emptyBuffer (maximumPath + 1)).length = maximumPath + 1 := length_replicate
  refine (finishes_copy (by omega)).bind fun one ⟨_, first⟩ => ?_
  refine (finishes_copy (by omega)).bind fun two ⟨_, second⟩ => ?_
  refine (finishes_copy (by omega)).bind fun three ⟨_, third⟩ => ?_
  refine (finishes_copy (by omega)).bind fun four ⟨_, fourth⟩ => ?_
  refine (finishes_copy (by rw [length_singleton]; omega)).bind fun five ⟨_, fifth⟩ => ?_
  obtain ⟨path, done, -⟩ := finishes_slice (Nat.zero_le _)
    (show front.length + separator.length + program.length + suffix.length ≤ five.length by omega)
  exact ⟨path, done, trivial⟩

theorem buildExecutablePath_safe (directory program : Bytes) :
    Safe (fun _ => True) (buildExecutablePath directory program) := by
  by_cases short : pathParts directory program ≤ maximumPath
  · exact (buildExecutablePath_finishes short).safe
  · unfold buildExecutablePath
    unfold pathParts at short
    dsimp only at short ⊢
    rw [if_pos (Nat.not_le.mp short)]
    exact .refused

theorem spawnFromDirectories_safe (program : Bytes) (directories : List Bytes) :
    Safe (fun _ => True) (spawnFromDirectories answers program directories) := by
  induction directories with
  | nil => exact .refused
  | cons directory directories hypothesis =>
    unfold spawnFromDirectories
    split
    · exact hypothesis
    · refine (buildExecutablePath_safe directory program).bind fun path _ => ?_
      cases answers.spawn path with
      | started => exact .done trivial
      | notFound => exact hypothesis
      | failed => exact .refused

theorem spawnFromPath_safe (program : Bytes) :
    Safe (fun _ => True) (spawnFromPath answers program) := by
  unfold spawnFromPath
  split
  · exact .refused
  split
  · refine (buildExecutablePath_safe [] program).bind fun path _ => ?_
    split
    · exact .done trivial
    · exact .refused
  · exact spawnFromDirectories_safe _ _ _

theorem readOutput_safe (chunks : List (Option Bytes)) {buffer : Bytes} {total : Nat}
    (inside : total ≤ buffer.length) :
    Safe (fun read => read.1.length = buffer.length ∧ read.2 ≤ buffer.length)
      (readOutput buffer total chunks) := by
  induction chunks generalizing buffer total with
  | nil => exact .done ⟨rfl, inside⟩
  | cons chunk chunks hypothesis =>
    unfold readOutput
    split
    · exact .done ⟨rfl, inside⟩
    rename_i room
    cases chunk with
    | none => exact .refused
    | some chunk =>
      dsimp only
      have count : (chunk.take (buffer.length - total)).length ≤ buffer.length - total :=
        length_take_le _ _
      split
      · exact .done ⟨rfl, inside⟩
      · refine (finishes_copy (by omega)).safe.bind fun copied ⟨_, same⟩ => ?_
        exact (hypothesis (by omega)).mono fun read holds =>
          ⟨holds.1.trans same, same ▸ holds.2⟩

theorem captureSubstitution_safe (program : Bytes) :
    Safe (fun _ => True) (captureSubstitution answers program) := by
  unfold captureSubstitution
  split
  · exact .refused
  split
  · exact .refused
  refine (spawnFromPath_safe answers program).bind fun _ _ => ?_
  split
  · exact .refused
  refine (readOutput_safe answers.output (Nat.zero_le _)).bind fun read holds => ?_
  obtain ⟨output, total⟩ := read
  obtain ⟨size, inside⟩ := holds
  dsimp only at size inside ⊢
  split
  · exact .refused
  split
  · exact .refused
  split
  · exact .refused
  have trimmed : trimOutput output total ≤ total := (trimEnd_take isLineEnd (size ▸ inside)).2
  refine (finishes_slice (Nat.zero_le _) (by omega)).safe.bind fun captured _ => ?_
  split
  · exact .refused
  · exact .done trivial

theorem expandWord_safe (index : Nat) (packed : Packed result) (nonempty : word ≠ [])
    (fits : index = 0 ∨ overruns word = false) :
    Safe Packed (expandWord answers index word result) := by
  unfold expandWord
  cases plain : substitutionProgram word with
  | some program =>
    dsimp only
    split
    · exact .refused
    · exact (captureSubstitution_safe answers program).bind fun captured _ =>
        appendExpandedWord_safe packed captured
  | none =>
    dsimp only
    split
    · split
      · exact .refused
      · rename_i first
        exact expandWildcard_safe answers packed plain (fits.resolve_left first)
    · refine (finishes_read (length_pos_of_ne_nil nonempty)).safe.bind fun first _ => ?_
      split
      · exact expandTilde_safe packed nonempty
      · exact appendExpandedWord_safe packed word

/-! ### Words that can be expanded -/

/-- A program with a path that fits, if the path variable names the root directory. -/
def spawnable (program : Bytes) : Bool :=
  decide ((if program.contains slash then 0 else 1) + program.length +
    (if (bytesOf ".elf").isSuffixOf program then 0 else 4) ≤ maximumPath)

/-- A word that some answers of the kernel expand. -/
def canExpand (index : Nat) (word : Bytes) : Bool :=
  match substitutionProgram word with
  | some program => index != 0 && spawnable program
  | none =>
    if word.contains star then
      index != 0 && (word.idxOf? star).any fun starIndex =>
        !(word.drop (starIndex + 1)).contains star && decide (componentStart word ≤ starIndex ∧
            componentStart word + max 1 (word.length - 1 - componentStart word) ≤ maximumArgumentBytes)
    else if byteAt word 0 = tilde then
      (word.length == 1 || byteAt word 1 == slash) &&
        decide (home.length + word.length - 1 ≤ maximumArgumentBytes)
    else decide (word.length ≤ maximumArgumentBytes)

/-- Answers that start every program and end its output after one byte. -/
def startingAnswers : Answers where
  directory := fun _ => none
  environment := true
  pathVariable := some [slash]
  pipe := true
  spawn := fun _ => .started
  closePipe := true
  output := [some [0x61]]
  extra := some []
  status := some 0

theorem spawnFromPath_finishes (filled : program ≠ []) (short : spawnable program = true) :
    Finishes (fun _ => True) (spawnFromPath startingAnswers program) := by
  have suffix : (if (bytesOf ".elf").isSuffixOf program then [] else bytesOf ".elf").length =
      if (bytesOf ".elf").isSuffixOf program then 0 else 4 := by
    split <;> decide +kernel
  have parts := of_decide_eq_true short
  unfold spawnFromPath
  rw [if_neg filled]
  by_cases direct : program.contains slash = true
  · rw [if_pos direct] at parts ⊢
    refine (buildExecutablePath_finishes ?_).bind fun path _ => ⟨(), rfl, trivial⟩
    unfold pathParts
    dsimp only
    rw [if_pos direct, if_pos (.inl rfl), suffix]
    simp only [length_nil]
    omega
  · rw [if_neg direct] at parts ⊢
    have directories : (startingAnswers.pathVariable.getD defaultPath).splitOn colon = [[slash]] := by
      decide +kernel
    rw [directories]
    unfold spawnFromDirectories
    rw [if_neg (cons_ne_nil _ _)]
    refine (buildExecutablePath_finishes ?_).bind fun path _ => ⟨(), rfl, trivial⟩
    unfold pathParts
    dsimp only
    rw [if_neg direct, if_pos (.inr (show [slash].getLast? = some slash from rfl)), suffix]
    simp only [length_nil, length_singleton]
    omega

theorem captureSubstitution_finishes (filled : program ≠ []) (short : spawnable program = true) :
    captureSubstitution startingAnswers program = .ok [0x61] := by
  obtain ⟨_, spawned, -⟩ := spawnFromPath_finishes filled short
  unfold captureSubstitution
  rw [if_neg Bool.noConfusion, if_neg Bool.noConfusion, spawned]
  rfl

/-- An entry with the only name that a pattern needs. -/
def matchingEntry (before behind : Bytes) (short : before.length + behind.length ≤ entryNameBytes) :
    DirectoryEntry :=
  if empty : before ++ behind = [] then { name := [0x61], named := cons_ne_nil _ _, fits := by decide }
  else { name := before ++ behind, named := empty, fits := length_append ▸ short }

theorem matchingEntry_matches (short : before.length + behind.length ≤ entryNameBytes) :
    matchesPattern (matchingEntry before behind short).name before behind = true ∧
      (matchingEntry before behind short).name.length = max 1 (before.length + behind.length) := by
  unfold matchingEntry
  by_cases empty : before ++ behind = []
  · rw [dif_pos empty]
    obtain ⟨rfl, rfl⟩ := append_eq_nil_iff.mp empty
    exact ⟨rfl, rfl⟩
  · rw [dif_neg empty]
    have length := length_pos_of_ne_nil empty
    rw [length_append] at length
    refine ⟨?_, ?_⟩
    · simp [matchesPattern]
    · rw [length_append]
      omega

theorem expandWildcard_finishes {starIndex : Nat} (starred : word.idxOf? star = some starIndex)
    (once : star ∉ word.drop (starIndex + 1)) (inside : componentStart word ≤ starIndex)
    (short : componentStart word + max 1 (word.length - 1 - componentStart word) ≤ maximumArgumentBytes) :
    ∃ answers : Answers, ∀ result, Packed result → result.words.length < maximumWords →
      Finishes (fun after => Packed after ∧ after.words.length = result.words.length + 1)
        (expandWildcard answers word result) := by
  have start := componentStart_le word
  obtain ⟨below, -⟩ := findIdx?_eq_some_iff_getElem.mp starred
  obtain ⟨pattern, sliced, -, length⟩ := finishes_slice start (Nat.le_refl word.length)
  obtain ⟨before, left, -, leftLength⟩ := finishes_slice (Nat.zero_le _)
    (show starIndex - componentStart word ≤ pattern.length by omega)
  obtain ⟨behind, right, -, rightLength⟩ := finishes_slice
    (show starIndex - componentStart word + 1 ≤ pattern.length by omega) (Nat.le_refl pattern.length)
  have parts : before.length + behind.length = word.length - 1 - componentStart word := by omega
  have small : before.length + behind.length ≤ entryNameBytes := by
    have short : _ + _ ≤ 31 := short
    show _ ≤ 32
    omega
  obtain ⟨fits, size⟩ := matchingEntry_matches small
  obtain ⟨path, opened, -⟩ := @directoryPath_finishes word (fun index found => by
    unfold componentStart at short
    rw [found] at short
    have short : index + 1 + _ ≤ 31 := short
    show _ ≤ 255
    omega)
  obtain ⟨base, based, -, baseLength⟩ := finishes_slice (Nat.zero_le (componentStart word)) start
  refine ⟨{ startingAnswers with directory := fun _ => some ([matchingEntry before behind small], true) },
    fun result packed room => ?_⟩
  have fitting : base.length + (matchingEntry before behind small).name.length ≤ maximumArgumentBytes := by
    rwa [size, parts, baseLength]
  have matched : Finishes (fun after => after.1 = 1 ∧ Packed after.2 ∧
      after.2.words.length = result.words.length + 1)
      (appendMatches base before behind [matchingEntry before behind small] 0 result) := by
    unfold appendMatches
    rw [if_neg (fits ▸ Bool.noConfusion), if_neg (Nat.not_lt.mpr fitting)]
    refine (joinedArgument_finishes fitting).bind fun joined total => ?_
    have named : 0 < (matchingEntry before behind small).name.length := by
      rw [size]
      omega
    refine (appendExpandedWord_finishes packed room (by omega) (by omega)).bind fun after holds => ?_
    exact finishes_pure ⟨rfl, holds⟩
  unfold expandWildcard
  rw [starred]
  dsimp only
  rw [if_neg once, if_neg (Nat.not_lt.mpr inside), sliced]
  show Finishes _ (slice _ _ _ >>= _)
  rw [left]
  show Finishes _ (slice _ _ _ >>= _)
  rw [right]
  show Finishes _ (directoryPath word >>= _)
  rw [opened]
  show Finishes _ (slice _ _ _ >>= _)
  rw [based]
  refine matched.bind fun after ⟨one, holds⟩ => ?_
  obtain ⟨found, after⟩ := after
  obtain rfl : found = 1 := one
  exact finishes_pure holds

theorem substitutionProgram_ne_nil (found : substitutionProgram word = some program) :
    program ≠ [] := by
  unfold substitutionProgram at found
  split at found
  · cases found
  · dsimp only at found
    split at found
    · cases found
    · rename_i filled
      cases found
      exact fun empty => filled (.inl empty)

theorem expandWord_finishes (nonempty : word ≠ []) (can : canExpand index word = true) :
    ∃ answers : Answers, ∀ result, Packed result → result.words.length < maximumWords →
      Finishes (fun after => Packed after ∧ after.words.length = result.words.length + 1)
        (expandWord answers index word result) := by
  have positive := length_pos_of_ne_nil nonempty
  unfold canExpand at can
  unfold expandWord
  cases found : substitutionProgram word with
  | some program =>
    rw [found] at can
    obtain ⟨later, short⟩ := Bool.and_eq_true_iff.mp can
    refine ⟨startingAnswers, fun result packed room => ?_⟩
    dsimp only
    rw [if_neg (by simpa using later), captureSubstitution_finishes (substitutionProgram_ne_nil found) short]
    exact appendExpandedWord_finishes packed room (by decide) (by decide)
  | none =>
    rw [found] at can
    dsimp only at can ⊢
    by_cases starred : word.contains star = true
    · rw [if_pos starred] at can
      obtain ⟨later, looks⟩ := Bool.and_eq_true_iff.mp can
      obtain ⟨starIndex, first, looks⟩ := (Option.any_eq_true _ _).mp looks
      obtain ⟨once, fits⟩ := Bool.and_eq_true_iff.mp looks
      obtain ⟨inside, short⟩ := of_decide_eq_true fits
      obtain ⟨answers, expands⟩ := expandWildcard_finishes first (by simpa using once) inside short
      refine ⟨answers, fun result packed room => ?_⟩
      rw [if_pos starred, if_neg (by simpa using later)]
      exact expands result packed room
    · rw [if_neg starred] at can
      have reads := read_of_lt positive
      have same : word[0] = byteAt word 0 := (getD_eq_getElem _ _ positive).symm
      refine ⟨startingAnswers, fun result packed room => ?_⟩
      rw [if_neg starred, reads]
      show Finishes _ (if word[0] = tilde then expandTilde word result else appendExpandedWord result word)
      rw [same]
      by_cases tilded : byteAt word 0 = tilde
      · rw [if_pos tilded] at can ⊢
        obtain ⟨follows, short⟩ := Bool.and_eq_true_iff.mp can
        have short := of_decide_eq_true short
        unfold expandTilde
        rw [if_neg, if_neg (Nat.not_lt.mpr short)]
        · have size : home.length = 10 := by decide +kernel
          refine (joinedArgument_finishes ?_).bind fun joined total => ?_
          · rw [length_drop]
            omega
          · rw [length_drop] at total
            exact appendExpandedWord_finishes packed room (by omega) (by omega)
        · rintro ⟨longer, other⟩
          simp [longer, other] at follows
      · rw [if_neg tilded] at can ⊢
        exact appendExpandedWord_finishes packed room positive (of_decide_eq_true can)

/-! ### Words that cannot be expanded -/

/-- Nothing comes of the computation, but no buffer is left. -/
abbrev Refuses {Result : Type} (outcome : Outcome Result) : Prop := Safe (fun _ => False) outcome

theorem Refuses.bind {Result Next : Type} {outcome : Outcome Result} {next : Result → Outcome Next}
    (refuses : Refuses outcome) : Refuses (outcome >>= next) :=
  Safe.bind refuses fun _ => False.elim

theorem buildExecutablePath_refuses
    (long : maximumPath < pathParts directory program) : Refuses (buildExecutablePath directory program) := by
  unfold buildExecutablePath
  unfold pathParts at long
  dsimp only at long ⊢
  rw [if_pos long]
  exact .refused

theorem spawnFromPath_refuses (long : spawnable program = false) :
    Refuses (spawnFromPath answers program) := by
  have suffix : (if (bytesOf ".elf").isSuffixOf program then [] else bytesOf ".elf").length =
      if (bytesOf ".elf").isSuffixOf program then 0 else 4 := by
    split <;> decide +kernel
  have parts := of_decide_eq_false long
  unfold spawnFromPath
  split
  · exact .refused
  by_cases direct : program.contains slash = true
  · rw [if_pos direct] at parts ⊢
    refine (buildExecutablePath_refuses ?_).bind
    unfold pathParts
    dsimp only
    rw [if_pos direct, if_pos (.inl rfl), suffix]
    simp only [length_nil]
    omega
  · rw [if_neg direct] at parts ⊢
    generalize (answers.pathVariable.getD defaultPath).splitOn colon = directories
    induction directories with
    | nil => exact .refused
    | cons directory directories hypothesis =>
      unfold spawnFromDirectories
      by_cases empty : directory = []
      · rwa [if_pos empty]
      · rw [if_neg empty]
        refine (buildExecutablePath_refuses ?_).bind
        have length := length_pos_of_ne_nil empty
        unfold pathParts
        dsimp only
        rw [if_neg direct, suffix]
        omega

/-- Without a name that matches and fits nothing is appended. -/
theorem appendMatches_refuses
    (long : maximumArgumentBytes < base.length + max 1 (before.length + behind.length)) :
    Safe (fun after => after.1 = found) (appendMatches base before behind entries found result) := by
  induction entries generalizing found result with
  | nil => exact .done rfl
  | cons entry entries hypothesis =>
    unfold appendMatches
    by_cases skips : matchesPattern entry.name before behind = false
    · rw [if_pos skips]
      exact hypothesis found
    · rw [if_neg skips, if_pos]
      · exact .refused
      · have named := length_pos_of_ne_nil entry.named
        have fits : before.length + behind.length ≤ entry.name.length := by
          have both := Bool.eq_true_of_not_eq_false skips
          unfold matchesPattern at both
          exact of_decide_eq_true (Bool.and_eq_true_iff.mp (Bool.and_eq_true_iff.mp both).1).1
        omega

theorem appendExpandedWord_refuses
    (long : maximumArgumentBytes < word.length) : Refuses (appendExpandedWord result word) := by
  unfold appendExpandedWord
  rw [if_pos (.inr (.inl long))]
  exact .refused

/-- A word that cannot be expanded ends its command. -/
theorem expandWord_refuses (nonempty : word ≠ []) (fits : index = 0 ∨ overruns word = false)
    (cannot : canExpand index word = false) : Refuses (expandWord answers index word result) := by
  have positive := length_pos_of_ne_nil nonempty
  unfold canExpand at cannot
  unfold expandWord
  cases found : substitutionProgram word with
  | some program =>
    rw [found] at cannot
    dsimp only at cannot ⊢
    by_cases first : index = 0
    · rw [if_pos first]
      exact .refused
    · rw [if_neg first]
      have long : spawnable program = false := by simpa [first] using cannot
      refine Refuses.bind ?_
      unfold captureSubstitution
      split
      · exact .refused
      split
      · exact .refused
      · exact (spawnFromPath_refuses answers long).bind
  | none =>
    rw [found] at cannot
    dsimp only at cannot ⊢
    by_cases starred : word.contains star = true
    · rw [if_pos starred] at cannot ⊢
      by_cases first : index = 0
      · rw [if_pos first]
        exact .refused
      rw [if_neg first]
      refine expandWildcard_rule answers found (fits.resolve_left first)
        fun starIndex starred once inside base before behind entries size parts => ?_
      have long : maximumArgumentBytes < base.length + max 1 (before.length + behind.length) := by
        rw [size, parts]
        by_contra short
        rw [starred] at cannot
        simp [first, once, inside] at cannot
        omega
      exact (appendMatches_refuses entries 0 long).mono fun _ nothing matched => absurd nothing matched
    · rw [if_neg starred] at cannot ⊢
      have same : word[0] = byteAt word 0 := (getD_eq_getElem _ _ positive).symm
      rw [read_of_lt positive]
      show Refuses (if word[0] = tilde then expandTilde word result else appendExpandedWord result word)
      rw [same]
      by_cases tilded : byteAt word 0 = tilde
      · rw [if_pos tilded] at cannot ⊢
        unfold expandTilde
        by_cases other : word.length ≠ 1 ∧ byteAt word 1 ≠ slash
        · rw [if_pos other]
          exact .refused
        rw [if_neg other, if_pos]
        · exact .refused
        · by_contra short
          refine absurd cannot (Bool.not_eq_false _ ▸ Bool.and_eq_true_iff.mpr ⟨?_, decide_eq_true (by omega)⟩)
          rw [Bool.or_eq_true, beq_iff_eq, beq_iff_eq]
          by_contra neither
          exact other ⟨fun one => neither (.inl one), fun slashed => neither (.inr slashed)⟩
      · rw [if_neg tilded] at cannot ⊢
        exact appendExpandedWord_refuses (Nat.not_le.mp (of_decide_eq_false cannot))

/-! ### Commands -/

/-- The word at an index of a command is expanded, all words before it can be, and its
directory does not fit. -/
def ReachesOverrun (words : List Bytes) : Prop :=
  ∃ index word, words[index]? = some word ∧ index ≠ 0 ∧ overruns word = true ∧
    ∀ earlier < index, ∀ word ∈ words[earlier]?, canExpand earlier word = true

/-- The words of a command stand in the source and are not empty. -/
structure Inside (source : Bytes) (words : List Word) : Prop where
  bounds : ∀ word ∈ words, word.start + word.length ≤ source.length
  nonempty : ∀ word ∈ words, word.slice source ≠ []

section Commands

variable {source : Bytes}

theorem slice_word {word : Word} (bounds : word.start + word.length ≤ source.length) :
    slice source word.start (word.start + word.length) = .ok (word.slice source) := by
  rw [slice_of_le (Nat.le_add_right _ _) bounds]
  unfold Word.slice
  rw [drop_take, Nat.add_sub_cancel_left]

variable {words : List Word}

theorem Inside.tail {word : Word} (inside : Inside source (word :: words)) :
    Inside source words where
  bounds := (forall_mem_cons.mp inside.bounds).2
  nonempty := (forall_mem_cons.mp inside.nonempty).2

/-- Words are expanded in place as long as one that cannot be stands before each one
whose directory does not fit. -/
theorem expandWords_safe (answers : Nat → Answers) (inside : Inside source words) (index : Nat)
    (packed : Packed result)
    (stops : ∀ offset word, (words.map (Word.slice source))[offset]? = some word → index + offset ≠ 0 →
      overruns word = true → ∃ earlier < offset, ∃ other ∈ (words.map (Word.slice source))[earlier]?,
        canExpand (index + earlier) other = false) :
    Safe Packed (expandWords answers source index words result) := by
  induction words generalizing index result with
  | nil => exact .done packed
  | cons word words hypothesis =>
    have nonempty := inside.nonempty word mem_cons_self
    have fits : index = 0 ∨ overruns (word.slice source) = false := by
      by_contra neither
      obtain ⟨later, long⟩ := not_or.mp neither
      obtain ⟨earlier, before, -⟩ := stops 0 _ rfl later (Bool.eq_true_of_not_eq_false long)
      exact Nat.not_lt_zero _ before
    unfold expandWords
    rw [slice_word (inside.bounds word mem_cons_self)]
    show Safe Packed (expandWord (answers index) index (word.slice source) result >>= _)
    cases can : canExpand index (word.slice source) with
    | false => exact (expandWord_refuses (answers index) nonempty fits can).bind.mono fun _ => False.elim
    | true =>
      refine (expandWord_safe (answers index) index packed nonempty fits).bind fun after packed => ?_
      refine hypothesis inside.tail (index + 1) packed fun offset other found later long => ?_
      obtain ⟨earlier, before, stopper, present, cannot⟩ := stops (offset + 1) other found (by omega) long
      cases earlier with
      | zero =>
        cases present
        rw [Nat.add_zero, can] at cannot
        cases cannot
      | succ earlier =>
        refine ⟨earlier, Nat.lt_of_succ_lt_succ before, stopper, present, ?_⟩
        rwa [Nat.add_assoc, Nat.add_comm 1]

/-- Behind words that are expanded one for one, a directory that does not fit is reached. -/
theorem expandWords_overruns {answers : Nat → Answers} {words : List Word} (inside : Inside source words)
    {index offset : Nat} {long : Bytes} (found : (words.map (Word.slice source))[offset]? = some long)
    (later : index + offset ≠ 0) (outside : overruns long = true)
    (works : ∀ earlier < offset, ∀ word ∈ (words.map (Word.slice source))[earlier]?, ∀ result,
      Packed result → result.words.length < maximumWords →
        Finishes (fun after => Packed after ∧ after.words.length = result.words.length + 1)
          (expandWord (answers (index + earlier)) (index + earlier) word result))
    {result : Expansion} (packed : Packed result)
    (room : result.words.length + words.length ≤ maximumWords) :
    expandWords answers source index words result = .error .outOfBounds := by
  induction words generalizing index offset result with
  | nil => cases found
  | cons word words hypothesis =>
    unfold expandWords
    rw [slice_word (inside.bounds word mem_cons_self)]
    show (expandWord (answers index) index (word.slice source) result >>= _) = _
    rw [length_cons] at room
    cases offset with
    | zero =>
      cases found
      have plain : substitutionProgram (word.slice source) = none := by
        by_contra some
        obtain ⟨program, some⟩ := Option.ne_none_iff_exists'.mp some
        simp [overruns, some] at outside
      have starred : (word.slice source).contains star = true := by
        by_contra absent
        have none : (word.slice source).idxOf? star = none := by simpa using absent
        simp [overruns, none] at outside
      unfold expandWord
      rw [plain]
      dsimp only
      rw [if_pos starred, if_neg (show ¬index = 0 from later), expandWildcard_overruns _ outside]
      rfl
    | succ offset =>
      obtain ⟨after, done, packed, count⟩ := works 0 (Nat.succ_pos _) (word.slice source) rfl result packed
        (by omega)
      rw [show expandWord (answers index) index (word.slice source) result = .ok after from done]
      refine hypothesis inside.tail found (by omega) (fun earlier before other present => ?_) packed
        (by omega)
      have works := works (earlier + 1) (Nat.succ_lt_succ before) other present
      rwa [Nat.add_comm earlier 1, ← Nat.add_assoc] at works

end Commands

/-- The expanded command stays inside its storage: a few short words one behind the
other, each with a zero behind it. -/
structure Contained (expanded : Bytes × Command) : Prop where
  size : expanded.1.length = maximumLine + 1
  count : expanded.2.words.length ≤ maximumWords
  words : ∀ word ∈ expanded.2.words, Terminated expanded.1 word
  apart : expanded.2.words.Pairwise fun first second => first.start + first.length < second.start

/-- Whatever the kernel answers, a command is expanded inside the buffers or not at all. -/
def ExpandsInside (source : Bytes) (command : Command) : Prop :=
  ∀ (answers : Nat → Answers) (storage : Bytes), storage.length = maximumLine + 1 →
    Safe Contained (expandCommand answers source command storage)

variable {command : Command}

theorem expandsInside_iff {source : Bytes} (inside : Inside source command.words)
    (count : command.words.length ≤ maximumWords) :
    ExpandsInside source command ↔ ¬ReachesOverrun (command.slices source) := by
  constructor
  · rintro expands ⟨index, long, found, later, outside, before⟩
    have works : ∀ earlier, ∃ answers : Answers, earlier < index →
        ∀ word ∈ (command.slices source)[earlier]?, ∀ result, Packed result →
          result.words.length < maximumWords →
            Finishes (fun after => Packed after ∧ after.words.length = result.words.length + 1)
              (expandWord answers earlier word result) := by
      intro earlier
      by_cases early : earlier < index
      · cases present : (command.slices source)[earlier]? with
        | none => exact ⟨startingAnswers, fun _ _ member => by cases member⟩
        | some word =>
          have nonempty : word ≠ [] := by
            obtain ⟨place, among, rfl⟩ := mem_map.mp (mem_of_getElem? present)
            exact inside.nonempty place among
          obtain ⟨answers, expands⟩ := expandWord_finishes nonempty (before earlier early word present)
          refine ⟨answers, fun _ other member => ?_⟩
          cases member
          exact expands
      · exact ⟨startingAnswers, fun below => absurd below early⟩
    choose answers works using works
    have size : (emptyBuffer (maximumLine + 1)).length = maximumLine + 1 := length_replicate
    have overrun := @expandWords_overruns source answers _ inside 0 index long found (by omega) outside
      (fun earlier before word member => by
        rw [Nat.zero_add]
        exact works earlier before word member) _ (packed_begin size) ((Nat.zero_add _).le.trans count)
    have safe := expands answers _ size
    unfold expandCommand at safe
    rw [overrun] at safe
    cases safe
  · intro reaches answers storage size
    refine (expandWords_safe answers inside 0 (packed_begin size)
      fun offset word found later long => ?_).bind fun result packed =>
        .done ⟨packed.size, packed.count, packed.words, packed.apart⟩
    by_contra none
    refine reaches ⟨offset, word, found, by omega, long, fun earlier before other present => ?_⟩
    by_contra cannot
    refine none ⟨earlier, before, other, present, ?_⟩
    rw [Nat.zero_add]
    exact Bool.eq_false_of_not_eq_true cannot

/-- The commands of a parsed line. -/
def CommandLine.commands (line : CommandLine) : List Command :=
  line.lists.flatMap fun list => list.commands.flatMap fun entry => entry.pipeline.stages

/-- Words of a parsed command stand in the storage of its line; they are few and not empty. -/
theorem inside_of_parsed {received : Nat} {line : CommandLine}
    (whole : storage.length = maximumLine + 1)
    (parsed : parseCommandLine storage received = some line) (member : command ∈ line.commands) :
    Inside line.storage command.words ∧ command.words.length ≤ maximumWords := by
  obtain ⟨list, listed, member⟩ := mem_flatMap.mp member
  obtain ⟨entry, among, staged⟩ := mem_flatMap.mp member
  have placed := parseCommandLine_placed whole parsed list listed entry among command staged
  have script_list : list.script line.storage ∈ line.script.lists := mem_map.mpr ⟨list, listed, rfl⟩
  have script_entry : (entry.operator, entry.pipeline.stages.map (Command.slices line.storage)) ∈
      list.script line.storage := mem_map.mpr ⟨entry, among, rfl⟩
  have script_command : command.slices line.storage ∈
      entry.pipeline.stages.map (Command.slices line.storage) := mem_map.mpr ⟨command, staged, rfl⟩
  rcases parseCommandLine_reading whole parsed with ⟨empty, -⟩ | ⟨fits, trailing, read⟩
  · rw [empty] at script_list
    cases script_list
  · have own := ((fits.lists _ script_list).pipelines _ script_entry).commands _ script_command
    refine ⟨⟨placed, fun word inside => ?_⟩, ?_⟩
    · have spoken : .word (word.slice line.storage) ∈ slackTokens (receivedLine storage received) := by
        rw [read]
        exact mem_append_left _ (mem_append_left _ (Script.mem_listTokens script_list script_entry
          script_command (mem_map.mpr ⟨word, inside, rfl⟩)))
      unfold slackTokens at spoken
      dsimp only at spoken
      split at spoken
      · rcases mem_append.mp spoken with spoken | spoken
        · exact (word_ordinary spoken).1
        · cases mem_singleton.mp spoken
      · exact (word_ordinary spoken).1
    · exact (length_map _).ge.trans own.2

/-- The commands of an accepted line that the shell expands inside its buffers. -/
theorem expandCommand_inside (storage : Bytes) (received : Nat) (line : CommandLine) (command : Command)
    (whole : storage.length = maximumLine + 1) (parsed : parseCommandLine storage received = some line)
    (member : command ∈ line.commands) :
    ExpandsInside line.storage command ↔ ¬ReachesOverrun (command.slices line.storage) := by
  obtain ⟨inside, count⟩ := inside_of_parsed whole parsed member
  exact expandsInside_iff inside count

/-- `ls *` -/
theorem expandCommand_inside_listing : ∃ line,
    parseCommandLine (stored [0x6C, 0x73, space, star]) 4 = some line ∧
      ∃ command ∈ line.commands, ExpandsInside line.storage command := by
  have slices : (parseCommandLine (stored [0x6C, 0x73, space, star]) 4).map (fun line =>
      line.commands.map (Command.slices line.storage)) = some [[[0x6C, 0x73], [star]]] := by
    decide +kernel
  obtain ⟨line, parsed, listed⟩ := Option.map_eq_some_iff.mp slices
  have only : [[0x6C, 0x73], [star]] ∈ line.commands.map (Command.slices line.storage) :=
    listed ▸ mem_singleton.mpr rfl
  obtain ⟨command, member, words⟩ := mem_map.mp only
  refine ⟨line, parsed, command, member, ?_⟩
  refine (expandCommand_inside _ 4 line command (by decide +kernel) parsed member).mpr ?_
  rintro ⟨index, word, found, -, outside, -⟩
  have fits : ∀ word ∈ [[0x6C, 0x73], [star]], overruns word = false := by decide +kernel
  rw [words] at found
  rw [fits word (mem_of_getElem? found)] at outside
  cases outside

/-- A wildcard in a directory whose path has 256 bytes. -/
def longWildcard : Bytes := List.replicate 257 slash ++ [star]

/-- The directory of this argument of `ls` is copied behind the end of its buffer. -/
theorem expandCommand_overruns : ¬∀ (storage : Bytes) (received : Nat) (line : CommandLine)
    (command : Command), storage.length = maximumLine + 1 →
      parseCommandLine storage received = some line → command ∈ line.commands →
        ExpandsInside line.storage command := by
  intro expands
  have slices : (parseCommandLine (stored ([0x6C, 0x73, space] ++ longWildcard)) 261).map (fun line =>
      line.commands.map (Command.slices line.storage)) = some [[[0x6C, 0x73], longWildcard]] := by
    decide +kernel
  obtain ⟨line, parsed, slices⟩ := Option.map_eq_some_iff.mp slices
  obtain ⟨command, member, words⟩ := mem_map.mp (slices ▸ mem_cons_self)
  have whole : (stored ([0x6C, 0x73, space] ++ longWildcard)).length = maximumLine + 1 := by
    decide +kernel
  obtain ⟨inside, count⟩ := inside_of_parsed whole parsed member
  refine (expandsInside_iff inside count).mp (expands _ 261 line command whole parsed member)
    ⟨1, longWildcard, by rw [words]; rfl, Nat.one_ne_zero, by decide +kernel, ?_⟩
  intro earlier before word present
  obtain rfl := Nat.lt_one_iff.mp before
  rw [words] at present
  obtain rfl := Option.some.inj present
  decide +kernel

end ZigOs.Shell
