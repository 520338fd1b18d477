/-
This file proves that a program reads from its first stack page what the kernel
was asked to put there. The strings lie one behind the other at the end of the
page and the words below them, so that nothing is overwritten. The limits on
the numbers and lengths of the strings are such that they always fit.
-/

import ZigOs.RuntimeUser.InitialStack

namespace ZigOs.RuntimeUser

open ByteMemory RuntimePagePool List

variable {page : StackPage} {memory after : Memory} {accepts : Bytes → Bool}
  {value : Bytes} {values : List Bytes} {address low high offset : Nat} {addresses : List Nat}

/-! ### Strings on the page -/

/-- A string lies between two offsets of the page, and the address is where the user sees it. -/
def Placed (page : StackPage) (memory : Memory) (low high address : Nat) (value : Bytes) : Prop :=
  ∃ offset, address = page.virtual + offset ∧ low ≤ offset ∧ offset + value.length + 1 ≤ high ∧
    Holds memory (page.frame + offset) (value ++ [0])

theorem Placed.mono {lower higher : Nat} (placed : Placed page memory low high address value)
    (below : lower ≤ low) (above : high ≤ higher) : Placed page memory lower higher address value := by
  obtain ⟨offset, isAddress, lowest, highest, holds⟩ := placed
  exact ⟨offset, isAddress, below.trans lowest, highest.trans above, holds⟩

/-- A string stays where it is when nothing changes between the offsets. -/
theorem Placed.congr (placed : Placed page memory low high address value)
    (same : ∀ place, page.frame + low ≤ place → place < page.frame + high →
      after place = memory place) : Placed page after low high address value := by
  obtain ⟨offset, isAddress, lowest, highest, holds⟩ := placed
  refine ⟨offset, isAddress, lowest, highest, holds.congr fun place lower upper => ?_⟩
  rw [length_append, length_singleton] at upper
  exact same place (by omega) (by omega)

/-- What a string takes up: where it begins and how long it is with its zero. -/
def span (address : Nat) (value : Bytes) : Nat × Nat := (address, value.length + 1)

/-- One span ends before the other begins. -/
def Before (first second : Nat × Nat) : Prop := first.1 + first.2 ≤ second.1

/-- The strings were written between two cursors, in their order, and nothing else was. -/
structure Filled (page : StackPage) (values : List Bytes) (before after : Filling)
    (addresses : List Nat) : Prop where
  placed : List.Forall₂ (Placed page after.memory after.cursor before.cursor) addresses values
  ordered : (List.zipWith span addresses values).Pairwise Before
  cursor : after.cursor + (values.map fun value => value.length + 1).sum = before.cursor
  outside : ∀ place, place < page.frame + after.cursor ∨ page.frame + before.cursor ≤ place →
    after.memory place = before.memory place

theorem Filled.span_bounds {before after : Filling} (filled : Filled page values before after addresses)
    {entry : Nat × Nat} (member : entry ∈ List.zipWith span addresses values) :
    page.virtual + after.cursor ≤ entry.1 ∧ entry.1 + entry.2 ≤ page.virtual + before.cursor := by
  have placed := filled.placed
  clear filled
  induction placed with
  | nil => cases member
  | cons first rest hypothesis =>
    rw [zipWith_cons_cons] at member
    rcases mem_cons.mp member with rfl | later
    · obtain ⟨offset, isAddress, lowest, highest, -⟩ := first
      dsimp only [span]
      omega
    · exact hypothesis later

theorem pushStrings_filled {before after : Filling}
    (pushed : pushStrings page accepts values before = .ok (addresses, after)) :
    Filled page values before after addresses ∧ ∀ value ∈ values, accepts value = true := by
  induction values generalizing addresses after with
  | nil =>
    cases (Except.ok.inj pushed)
    exact ⟨⟨.nil, .nil, rfl, fun _ _ => rfl⟩, nofun⟩
  | cons value later hypothesis =>
    unfold pushStrings at pushed
    split at pushed
    · cases pushed
    · rename_i rest middle written
      obtain ⟨filled, accepted⟩ := hypothesis written
      split_ifs at pushed with refused
      cases (Except.ok.inj pushed)
      rw [not_or, Bool.not_eq_false, not_lt] at refused
      obtain ⟨proper, room⟩ := refused
      have length : (value ++ [0]).length = value.length + 1 := by
        rw [length_append, length_singleton]
      have upTo : middle.cursor ≤ before.cursor := by
        have total := filled.cursor
        omega
      refine ⟨⟨.cons ⟨_, rfl, le_rfl, by omega, store_holds _ _ _⟩ ?_, ?_, ?_, ?_⟩, ?_⟩
      · refine filled.placed.imp fun address string placed => ?_
        refine (placed.congr fun place lower upper => store_outside ?_).mono (Nat.sub_le _ _) le_rfl
        rw [length]
        omega
      · rw [zipWith_cons_cons]
        refine pairwise_cons.mpr ⟨fun entry member => ?_, filled.ordered⟩
        have bounds := (filled.span_bounds member).1
        dsimp only [Before, span]
        omega
      · rw [map_cons, sum_cons]
        have total := filled.cursor
        dsimp only
        omega
      · intro place away
        dsimp only at away ⊢
        rw [store_outside (by rw [length]; omega)]
        exact filled.outside place (by omega)
      · intro other member
        rcases mem_cons.mp member with rfl | isLater
        · exact proper
        · exact accepted other isLater

/-- Strings that are accepted and fit are written. -/
theorem pushStrings_ok {before : Filling} (accepted : ∀ value ∈ values, accepts value = true)
    (fits : (values.map fun value => value.length + 1).sum ≤ before.cursor) :
    ∃ addresses after, pushStrings page accepts values before = .ok (addresses, after) := by
  induction values with
  | nil => exact ⟨_, _, rfl⟩
  | cons value later hypothesis =>
    rw [map_cons, sum_cons] at fits
    obtain ⟨addresses, middle, written⟩ := hypothesis
      (fun other member => accepted other (mem_cons_of_mem _ member)) (by omega)
    have total := (pushStrings_filled written).1.cursor
    unfold pushStrings
    rw [written]
    dsimp only
    rw [if_neg]
    · exact ⟨_, _, rfl⟩
    · rw [not_or, Bool.not_eq_false]
      exact ⟨accepted value mem_cons_self, by omega⟩

/-! ### Reading the page -/

theorem view_holds {bytes : Bytes} (holds : Holds memory (page.frame + offset) bytes) :
    Holds (page.view memory) (page.virtual + offset) bytes := by
  intro index byte found
  have there := holds index byte found
  unfold StackPage.view
  rwa [show page.frame + (page.virtual + offset + index - page.virtual) =
    page.frame + offset + index by omega]

/-- Behind the first words come the others. -/
theorem holds_words_drop {front back : List Nat} (holds : Holds memory address (words (front ++ back))) :
    Holds memory (address + wordBytes * front.length) (words back) := by
  rw [words_append, holds_append, words_length] at holds
  exact holds.2

theorem readStrings_of_placed {limit : Nat} (bounded : high ≤ limit)
    (terminated : ∀ value ∈ values, (0 : UInt8) ∉ value)
    (placed : List.Forall₂ (Placed page memory low high) addresses values) :
    addresses.mapM (readString (page.view memory) limit) = some values := by
  induction placed with
  | nil => rfl
  | @cons address value addresses values first rest hypothesis =>
    obtain ⟨offset, rfl, lowest, highest, holds⟩ := first
    have string := readString_of_holds (terminated value mem_cons_self)
      (show value.length < limit by omega) (view_holds holds)
    have strings := hypothesis fun other member =>
      terminated other (mem_cons_of_mem _ member)
    rw [mapM_cons, string, strings]
    rfl

theorem readAuxiliary_of_holds {entries : List AuxvEntry} {fuel final : Nat}
    (kinds : ∀ entry ∈ entries, entry.kind ≠ auxNull ∧ entry.kind < 2 ^ 64 ∧ entry.value < 2 ^ 64)
    (small : final < 2 ^ 64) (enough : entries.length < fuel)
    (holds : Holds memory address
      (words ((entries ++ [⟨auxNull, final⟩] : List AuxvEntry).flatMap fun entry =>
        [entry.kind, entry.value]))) :
    readAuxiliary memory fuel address = some (entries ++ [⟨auxNull, final⟩]) := by
  induction entries generalizing address fuel with
  | nil =>
    obtain ⟨fuel, rfl⟩ := Nat.exists_eq_succ_of_ne_zero (Nat.ne_of_gt enough)
    rw [nil_append, flatMap_cons, cons_append, cons_append, nil_append] at holds
    have kind := readWord_of_holds (show auxNull < 2 ^ 64 by decide) holds
    have value := readWord_of_holds small (@holds_words_drop _ _ [auxNull] _ holds)
    rw [length_singleton, Nat.mul_one] at value
    unfold readAuxiliary
    dsimp only
    rw [kind, value, if_pos rfl, nil_append]
  | cons entry later hypothesis =>
    obtain ⟨fuel, rfl⟩ := Nat.exists_eq_succ_of_ne_zero (Nat.ne_of_gt (Nat.zero_lt_of_lt enough))
    obtain ⟨nonzero, kindSmall, valueSmall⟩ := kinds entry mem_cons_self
    rw [cons_append, flatMap_cons, cons_append, cons_append, nil_append] at holds
    have kind := readWord_of_holds kindSmall holds
    have value := readWord_of_holds valueSmall (@holds_words_drop _ _ [entry.kind] _ holds)
    rw [length_singleton, Nat.mul_one] at value
    have rest := hypothesis (fun other member => kinds other (mem_cons_of_mem _ member))
      (Nat.lt_of_succ_lt_succ enough) (@holds_words_drop _ _ [entry.kind, entry.value] _ holds)
    unfold readAuxiliary
    dsimp only
    rw [kind, value, if_neg nonzero, Nat.mul_comm 2, show 2 = [entry.kind, entry.value].length from rfl,
      rest, Option.map_some, cons_append]

theorem auxiliary_split (identity : Identity) : ∃ front : List AuxvEntry,
    auxiliary identity = front ++ [⟨auxNull, 0⟩] ∧
    front.length = 8 ∧
    ∀ entry ∈ front, entry.kind ≠ auxNull ∧ entry.kind < 2 ^ 64 ∧ entry.value < 2 ^ 64 := by
  refine ⟨(auxiliary identity).dropLast, rfl, rfl, ?_⟩
  have uid : identity.uid.toNat < 2 ^ 64 := identity.uid.toNat_lt.trans (by decide)
  have gid : identity.gid.toNat < 2 ^ 64 := identity.gid.toNat_lt.trans (by decide)
  have capabilities : identity.capabilities.toNat < 2 ^ 64 := identity.capabilities.toNat_lt
  simp only [auxiliary, List.dropLast, forall_mem_cons]
  exact ⟨⟨by decide, by decide, by decide⟩, ⟨by decide, by decide, uid⟩,
    ⟨by decide, by decide, uid⟩, ⟨by decide, by decide, gid⟩, ⟨by decide, by decide, gid⟩,
    ⟨by decide, by decide, by decide⟩, ⟨by decide, by decide, by decide⟩,
    ⟨by decide, by decide, capabilities⟩, nofun⟩

/-! ### The start frame -/

/-- What the page is to a program that is started on it. -/
structure StartsOn (page : StackPage) (before : Memory) (arguments environment : List Bytes)
    (identity : Identity) (stack : InitialStack) (after : Memory) : Prop where
  aligned : 16 ∣ stack.rsp
  confined : ∀ place, place < page.frame ∨ page.frame + pageBytes ≤ place → after place = before place
  decoded : readStartFrame (page.view after) stack.rsp =
    some ⟨arguments, environment, auxiliary identity⟩
  argc : stack.argc = arguments.length
  argv : stack.argv = stack.rsp + wordBytes
  envp : stack.envp = stack.argv + wordBytes * (arguments.length + 1)
  auxv : stack.auxv = stack.envp + wordBytes * (environment.length + 1)
  /-- The words lie below the strings, and no string reaches into another one. -/
  apart : ((stack.rsp, stack.auxv + wordBytes * (2 * (auxiliary identity).length) - stack.rsp) ::
    List.zipWith span (readWords (page.view after) stack.argv arguments.length ++
      readWords (page.view after) stack.envp environment.length)
      (arguments ++ environment)).Pairwise Before
  /-- All of it lies on the page. -/
  inside : page.virtual ≤ stack.rsp ∧
    stack.auxv + wordBytes * (2 * (auxiliary identity).length) ≤ page.virtual + pageBytes ∧
    ∀ entry ∈ List.zipWith span (readWords (page.view after) stack.argv arguments.length ++
      readWords (page.view after) stack.envp environment.length) (arguments ++ environment),
      page.virtual ≤ entry.1 ∧ entry.1 + entry.2 ≤ page.virtual + pageBytes

theorem readStartFrame_of {rsp : Nat} {pointers : List Nat} {arguments environment : List Bytes}
    {entries : List AuxvEntry} {argc : Nat} (count : readWord memory rsp = argc)
    (strings : (readWords memory (rsp + wordBytes) argc).mapM (readString memory pageBytes) =
      some arguments)
    (zero : readWord memory (rsp + wordBytes * (argc + 1)) = 0)
    (isPointers : readUntilZero memory pageBytes (rsp + wordBytes * (argc + 2)) = some pointers)
    (settings : pointers.mapM (readString memory pageBytes) = some environment)
    (isAuxiliary : readAuxiliary memory pageBytes
      (rsp + wordBytes * (argc + 2 + pointers.length + 1)) = some entries) :
    readStartFrame memory rsp = some ⟨arguments, environment, entries⟩ := by
  unfold readStartFrame
  dsimp only
  rw [count, zero, if_neg (by decide), strings, isPointers]
  simp only [Option.bind_eq_bind, Option.bind_some, settings, isAuxiliary, Option.pure_def]

/-- The addresses of placed strings are words, and none of them is zero. -/
theorem addresses_small (bounded : high ≤ pageBytes)
    (placed : List.Forall₂ (Placed page memory low high) addresses values)
    (member : address ∈ addresses) : address < 2 ^ 64 ∧ address ≠ 0 := by
  induction placed with
  | nil => cases member
  | cons first rest hypothesis =>
    rcases mem_cons.mp member with rfl | later
    · obtain ⟨offset, rfl, -, highest, -⟩ := first
      have small := page.small
      have positive := page.positive
      omega
    · exact hypothesis later

/-- The words of a start frame, held at the stack pointer, with the strings they point to. -/
theorem readStartFrame_of_holds {rsp : Nat} {arguments environment : List Nat}
    {strings settings : List Bytes} {identity : Identity} (bounded : high ≤ pageBytes)
    (few : arguments.length ≤ maximumArguments ∧ environment.length ≤ maximumEnvironment)
    (terminated : ∀ value ∈ strings ++ settings, (0 : UInt8) ∉ value)
    (placed : List.Forall₂ (Placed page memory low high) arguments strings)
    (settingsPlaced : List.Forall₂ (Placed page memory low high) environment settings)
    (holds : Holds (page.view memory) rsp (words (startWords arguments environment identity))) :
    readStartFrame (page.view memory) rsp = some ⟨strings, settings, auxiliary identity⟩ ∧
      readWords (page.view memory) (rsp + wordBytes) arguments.length = arguments ∧
      readWords (page.view memory) (rsp + wordBytes * (arguments.length + 2)) environment.length =
        environment := by
  obtain ⟨fewArguments, fewSettings⟩ := few
  obtain ⟨front, split, length, kinds⟩ := auxiliary_split identity
  have small : ∀ value ∈ arguments, value < 2 ^ 64 := fun value member =>
    (addresses_small bounded placed member).1
  have settingsSmall : ∀ value ∈ environment, value < 2 ^ 64 ∧ value ≠ 0 := fun value member =>
    addresses_small bounded settingsPlaced member
  have total : startWords arguments environment identity = arguments.length ::
      (arguments ++ 0 :: (environment ++ 0 :: (auxiliary identity).flatMap fun entry =>
        [entry.kind, entry.value])) := by
    rw [startWords, append_assoc, cons_append, cons_append]
  rw [total] at holds
  have count := readWord_of_holds (fewArguments.trans_lt (by decide)) holds
  have vector := @holds_words_drop _ _ [arguments.length] _ holds
  rw [length_singleton, Nat.mul_one] at vector
  have pointers := readWords_of_holds small vector
  have behind := holds_words_drop vector
  have zero := readWord_of_holds (show 0 < 2 ^ 64 by decide) behind
  have settingsVector := @holds_words_drop _ _ [0] _ behind
  have settingsPointers := readWords_of_holds (fun value member => (settingsSmall value member).1)
    settingsVector
  have untilZero := readUntilZero_of_holds (fun value member => (settingsSmall value member).1)
    (fun value member => (settingsSmall value member).2)
    (fewSettings.trans_lt (show maximumEnvironment < pageBytes by decide)) settingsVector
  have entries := @holds_words_drop _ _ [0] _ (holds_words_drop settingsVector)
  rw [split] at entries
  have auxiliaryRead := readAuxiliary_of_holds kinds (show 0 < 2 ^ 64 by decide)
    (show front.length < pageBytes by rw [length]; decide) entries
  rw [length_singleton] at settingsPointers untilZero auxiliaryRead
  rw [show rsp + wordBytes + wordBytes * arguments.length + wordBytes * 1 =
    rsp + wordBytes * (arguments.length + 2) by ring] at settingsPointers untilZero
  refine ⟨readStartFrame_of count ?_ ?_ untilZero ?_ ?_, pointers, settingsPointers⟩
  · rw [pointers]
    exact readStrings_of_placed bounded (fun value member =>
      terminated value (mem_append_left _ member)) placed
  · rw [show rsp + wordBytes * (arguments.length + 1) =
      rsp + wordBytes + wordBytes * arguments.length by ring]
    exact zero
  · exact readStrings_of_placed bounded (fun value member =>
      terminated value (mem_append_right _ member)) settingsPlaced
  · rw [show rsp + wordBytes * (arguments.length + 2 + environment.length + 1) =
      rsp + wordBytes + wordBytes * arguments.length + wordBytes * 1 +
        wordBytes * environment.length + wordBytes * 1 by ring, auxiliaryRead, split]

/-! ### Building the page -/

theorem startWords_length (arguments environment : List Nat) (identity : Identity) :
    (startWords arguments environment identity).length =
      1 + arguments.length + 1 + environment.length + 1 + (auxiliary identity).length * 2 := by
  simp only [startWords, auxiliary, length_append, length_cons, flatMap_cons,
    flatMap_nil, length_nil]
  omega

theorem acceptsEnvironment_terminated (accepted : acceptsEnvironment value = true) :
    (0 : UInt8) ∉ value := by
  simp only [acceptsEnvironment, validEnvironmentString, Bool.and_eq_true] at accepted
  simpa using accepted.2.1

theorem acceptsArgument_terminated (accepted : acceptsArgument value = true) : (0 : UInt8) ∉ value := by
  simp only [acceptsArgument, Bool.and_eq_true] at accepted
  simpa using accepted.2

section Build

variable {arguments environment : List Bytes} {identity : Identity} {stack : InitialStack}

/-- What an accepted request went through: the strings were pushed and the words fit below them. -/
theorem buildInitialStack_some
    (built : buildInitialStack page memory arguments environment identity = .ok (stack, after)) :
    arguments.length ≤ maximumArguments ∧ environment.length ≤ maximumEnvironment ∧
      ∃ environmentAddresses middle argumentAddresses filling cursor,
        pushStrings page acceptsEnvironment environment ⟨pageBytes, memory⟩ =
          .ok (environmentAddresses, middle) ∧
        pushStrings page acceptsArgument arguments middle = .ok (argumentAddresses, filling) ∧
        cursor + wordBytes * (1 + arguments.length + 1 + environment.length + 1 +
          (auxiliary identity).length * 2) ≤ filling.cursor ∧ 16 ∣ cursor ∧
        stack = {
          rsp := page.virtual + cursor
          argc := arguments.length
          argv := page.virtual + cursor + wordBytes
          envp := page.virtual + cursor + (1 + arguments.length + 1) * wordBytes
          auxv := page.virtual + cursor +
            (1 + arguments.length + 1 + environment.length + 1) * wordBytes } ∧
        after = store filling.memory (page.frame + cursor)
          (words (startWords argumentAddresses environmentAddresses identity)) := by
  unfold buildInitialStack at built
  split_ifs at built with counts
  split at built
  · cases built
  · rename_i environmentAddresses middle pushed
    split at built
    · cases built
    · rename_i argumentAddresses filling pushedArguments
      dsimp only at built
      split_ifs at built with overflow
      cases (Except.ok.inj built)
      refine ⟨by omega, by omega, _, _, _, _, _, pushed, pushedArguments, ?_, Nat.dvd_mul_left _ _, rfl,
        rfl⟩
      rw [not_lt] at overflow
      have rounded := Nat.div_mul_le_self (filling.cursor - (1 + arguments.length + 1 +
        environment.length + 1 + (auxiliary identity).length * 2) * wordBytes) 16
      rw [Nat.mul_comm wordBytes]
      omega

theorem buildInitialStack_startsOn
    (built : buildInitialStack page memory arguments environment identity = .ok (stack, after)) :
    StartsOn page memory arguments environment identity stack after := by
  obtain ⟨fewArguments, fewSettings, environmentAddresses, middle, argumentAddresses, filling, cursor,
    pushed, pushedArguments, room, aligned, rfl, rfl⟩ := buildInitialStack_some built
  obtain ⟨settings, settingsAccepted⟩ := pushStrings_filled pushed
  obtain ⟨strings, stringsAccepted⟩ := pushStrings_filled pushedArguments
  have settingsTotal : middle.cursor ≤ pageBytes := by
    have total := settings.cursor
    dsimp only at total
    omega
  have stringsTotal : filling.cursor ≤ middle.cursor := by
    have total := strings.cursor
    omega
  have countArguments := strings.placed.length_eq
  have countSettings := settings.placed.length_eq
  have length : (words (startWords argumentAddresses environmentAddresses identity)).length =
      wordBytes * (1 + arguments.length + 1 + environment.length + 1 +
        (auxiliary identity).length * 2) := by
    rw [words_length, startWords_length, countArguments, countSettings]
  -- Neither the words nor the arguments change the strings that lie above them.
  have kept : ∀ place, page.frame + filling.cursor ≤ place →
      store filling.memory (page.frame + cursor)
        (words (startWords argumentAddresses environmentAddresses identity)) place =
      filling.memory place := fun place above => store_outside (by rw [length]; omega)
  have stringsPlaced := strings.placed.imp fun address string placed =>
    (placed.congr fun place lower _ => kept place lower).mono (Nat.zero_le _) settingsTotal
  have settingsPlaced := settings.placed.imp fun address string placed =>
    (placed.congr fun place lower upper => (kept place (by omega)).trans
      (strings.outside place (.inr (by omega)))).mono (Nat.zero_le _) le_rfl
  have terminated : ∀ value ∈ arguments ++ environment, (0 : UInt8) ∉ value := by
    intro value member
    rcases mem_append.mp member with isArgument | isSetting
    · exact acceptsArgument_terminated (stringsAccepted value isArgument)
    · exact acceptsEnvironment_terminated (settingsAccepted value isSetting)
  have held := view_holds (store_holds filling.memory (page.frame + cursor)
    (words (startWords argumentAddresses environmentAddresses identity)))
  obtain ⟨decoded, readArguments, readSettings⟩ := readStartFrame_of_holds le_rfl
    ⟨countArguments ▸ fewArguments, countSettings ▸ fewSettings⟩ terminated stringsPlaced
    settingsPlaced held
  rw [countArguments] at readArguments
  rw [countArguments, countSettings] at readSettings
  have envp : page.virtual + cursor + (1 + arguments.length + 1) * wordBytes =
      page.virtual + cursor + wordBytes * (arguments.length + 2) := by ring
  have spans : List.zipWith span (argumentAddresses ++ environmentAddresses) (arguments ++ environment) =
      List.zipWith span argumentAddresses arguments ++
        List.zipWith span environmentAddresses environment := zipWith_append countArguments
  have bounds : ∀ entry ∈ List.zipWith span argumentAddresses arguments ++
      List.zipWith span environmentAddresses environment,
      page.virtual + filling.cursor ≤ entry.1 ∧ entry.1 + entry.2 ≤ page.virtual + pageBytes := by
    intro entry member
    rcases mem_append.mp member with isArgument | isSetting
    · have inside := strings.span_bounds isArgument
      omega
    · have inside := settings.span_bounds isSetting
      dsimp only at inside
      omega
  have vectorEnd : page.virtual + cursor + (1 + arguments.length + 1 + environment.length + 1) * wordBytes +
      wordBytes * (2 * (auxiliary identity).length) = page.virtual + (cursor + wordBytes *
        (1 + arguments.length + 1 + environment.length + 1 + (auxiliary identity).length * 2)) := by ring
  refine ⟨?_, fun place away => ?_, decoded, rfl, rfl, ?_, ?_, ?_, Nat.le_add_right _ _, ?_, ?_⟩
  · exact Nat.dvd_add (Nat.dvd_trans (by decide) page.aligned) aligned
  · rw [store_outside (by rw [length]; omega), strings.outside place (by omega),
      settings.outside place (by dsimp only; omega)]
  · dsimp only
    ring
  · dsimp only
    ring
  · dsimp only
    rw [envp, readArguments, readSettings, spans, vectorEnd]
    refine pairwise_cons.mpr ⟨fun entry member => ?_, pairwise_append.mpr
      ⟨strings.ordered, settings.ordered, fun first isArgument second isSetting => ?_⟩⟩
    · have inside := (bounds entry member).1
      dsimp only [Before]
      omega
    · exact (strings.span_bounds isArgument).2.trans (settings.span_bounds isSetting).1
  · dsimp only
    rw [vectorEnd]
    omega
  · dsimp only
    rw [envp, readArguments, readSettings, spans]
    exact fun entry member => ⟨(Nat.le_add_right _ _).trans (bounds entry member).1,
      (bounds entry member).2⟩

/-! ### Which requests are refused -/

/-- The bytes of strings with their zeros. -/
def stringBytes (values : List Bytes) : Nat := (values.map fun value => value.length + 1).sum

/-- The limits on the numbers and the lengths of the strings. -/
structure WithinLimits (arguments environment : List Bytes) : Prop where
  someArgument : 0 < arguments.length
  fewArguments : arguments.length ≤ maximumArguments
  fewSettings : environment.length ≤ maximumEnvironment
  argumentBytes : ∀ value ∈ arguments, 0 < value.length ∧ value.length ≤ maximumArgumentBytes
  environmentBytes : ∀ value ∈ environment, 0 < value.length ∧ value.length ≤ maximumEnvironmentBytes

theorem stringBytes_le {most : Nat} (bounded : ∀ value ∈ values, value.length ≤ most) :
    stringBytes values ≤ values.length * (most + 1) := by
  have total := sum_le_card_nsmul (values.map fun value => value.length + 1) (most + 1) (by
    intro size member
    obtain ⟨value, isValue, rfl⟩ := mem_map.mp member
    exact Nat.succ_le_succ (bounded value isValue))
  rwa [length_map, smul_eq_mul] at total

/-- Within the limits the strings, the words and the alignment always fit. -/
theorem WithinLimits.small (limits : WithinLimits arguments environment) :
    stringBytes arguments + stringBytes environment + wordBytes * (1 + arguments.length + 1 +
      environment.length + 1 + (auxiliary identity).length * 2) + 15 ≤ pageBytes := by
  have argumentTotal := stringBytes_le fun value member => (limits.argumentBytes value member).2
  have environmentTotal := stringBytes_le fun value member => (limits.environmentBytes value member).2
  have fewArguments := limits.fewArguments
  have fewSettings := limits.fewSettings
  have entries : (auxiliary identity).length = 9 := rfl
  rw [entries]
  unfold maximumArguments maximumArgumentBytes maximumEnvironment maximumEnvironmentBytes wordBytes
    pageBytes at *
  omega

/-- An argument with a zero in it, or an environment string that does not name a variable. -/
def Malformed (arguments environment : List Bytes) : Prop :=
  (∃ argument ∈ arguments, (0 : UInt8) ∈ argument) ∨
    ∃ value ∈ environment, validEnvironmentString value = false

theorem WithinLimits.accepts_iff (limits : WithinLimits arguments environment) :
    ((∀ value ∈ arguments, acceptsArgument value = true) ∧
        ∀ value ∈ environment, acceptsEnvironment value = true) ↔
      ¬ Malformed arguments environment := by
  unfold Malformed acceptsArgument acceptsEnvironment
  rw [not_or]
  push Not
  refine and_congr (forall₂_congr fun value member => ?_) (forall₂_congr fun value member => ?_)
  · obtain ⟨some, few⟩ := limits.argumentBytes value member
    simp [few, Nat.ne_of_gt some]
  · obtain ⟨some, few⟩ := limits.environmentBytes value member
    simp [few, Nat.ne_of_gt some]

/-- Within the limits a well-formed request is never refused. -/
theorem WithinLimits.built (limits : WithinLimits arguments environment)
    (wellFormed : ¬ Malformed arguments environment) :
    ∃ result, buildInitialStack page memory arguments environment identity = .ok result := by
  have room := @WithinLimits.small arguments environment identity limits
  unfold stringBytes at room
  obtain ⟨argumentsAccepted, settingsAccepted⟩ := limits.accepts_iff.mpr wellFormed
  have counts : ¬ (arguments.length = 0 ∨ arguments.length > maximumArguments ∨
      environment.length > maximumEnvironment) := by
    have some := limits.someArgument
    have fewArguments := limits.fewArguments
    have fewSettings := limits.fewSettings
    omega
  obtain ⟨environmentAddresses, middle, pushed⟩ := @pushStrings_ok page acceptsEnvironment environment
    ⟨pageBytes, memory⟩ settingsAccepted (by dsimp only; omega)
  have left := (pushStrings_filled pushed).1.cursor
  dsimp only at left
  obtain ⟨argumentAddresses, filling, pushedArguments⟩ :=
    @pushStrings_ok page acceptsArgument arguments middle argumentsAccepted (by omega)
  have rest := (pushStrings_filled pushedArguments).1.cursor
  unfold buildInitialStack
  rw [if_neg counts, pushed]
  dsimp only
  rw [pushedArguments]
  dsimp only
  rw [if_neg]
  · exact ⟨_, rfl⟩
  · rw [Nat.mul_comm _ wordBytes]
    omega

theorem WithinLimits.refused_iff (limits : WithinLimits arguments environment) :
    (∃ error, buildInitialStack page memory arguments environment identity = .error error) ↔
      Malformed arguments environment := by
  constructor
  · rintro ⟨error, refused⟩
    by_contra wellFormed
    obtain ⟨result, built⟩ := @WithinLimits.built page memory arguments environment identity limits
      wellFormed
    cases built.symm.trans refused
  · intro malformed
    rcases outcome : buildInitialStack page memory arguments environment identity with
      error | ⟨stack, after⟩
    · exact ⟨error, rfl⟩
    · obtain ⟨-, -, environmentAddresses, middle, argumentAddresses, filling, cursor, pushed,
        pushedArguments, -⟩ := buildInitialStack_some outcome
      exact absurd malformed (limits.accepts_iff.mp
        ⟨(pushStrings_filled pushedArguments).2, (pushStrings_filled pushed).2⟩)

/-- A program reads from its page what the kernel was given, and within the limits only malformed
strings are refused. -/
theorem buildInitialStack_roundTrip (page : StackPage) (memory : Memory)
    (arguments environment : List Bytes) (identity : Identity) :
    (∀ stack after, buildInitialStack page memory arguments environment identity = .ok (stack, after) →
        StartsOn page memory arguments environment identity stack after) ∧
      (WithinLimits arguments environment →
        ((∃ error, buildInitialStack page memory arguments environment identity = .error error) ↔
          Malformed arguments environment)) :=
  ⟨fun _ _ built => buildInitialStack_startsOn built, fun limits => limits.refused_iff⟩

/-- The environment string `A` is within the limits and fits, but it names no variable. -/
theorem nameless_refused : ¬ ∀ (page : StackPage) (memory : Memory) (arguments environment : List Bytes)
    (identity : Identity) (error : StackError), WithinLimits arguments environment →
    buildInitialStack page memory arguments environment identity = .error error →
    pageBytes < stringBytes arguments + stringBytes environment + wordBytes * (1 + arguments.length +
      1 + environment.length + 1 + (auxiliary identity).length * 2) := by
  intro onlyForRoom
  have limits : WithinLimits [[97]] [[65]] :=
    ⟨by decide, by decide, by decide, by decide, by decide⟩
  have full := onlyForRoom (topStackPage pageBytes) (fun _ => 0) [[97]] [[65]] ⟨0, 0, 0⟩
    .argumentTooLong limits rfl
  exact absurd full (by decide)

end Build

end ZigOs.RuntimeUser
