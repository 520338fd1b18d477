/-
This file follows one watch on a directory. Between its reads any calls change
the filesystem, and what they do to names is added to the ring of events. As
long as the event counter does not wrap, what the reads return accounts for all
events up to the cursor: they are returned once and in order, or given up with
an overflow mark once the ring has dropped them.
-/

import ZigOs.RuntimeVfs.Orderly

namespace ZigOs.RuntimeVfs

open EventFeed List

/-- The event is about the directory in this generation. -/
def DirectoryChange.Concerns (directory generation : Nat) (event : DirectoryChange) : Prop :=
  event.directory = directory ∧ event.directoryGeneration = generation

instance (directory generation : Nat) :
    DecidablePred (DirectoryChange.Concerns directory generation) := fun event =>
  inferInstanceAs (Decidable (event.directory = directory ∧ event.directoryGeneration = generation))

/-- The event stands for others that were lost. -/
def DirectoryChange.IsOverflow (event : DirectoryChange) : Prop := event.flags = some .overflow

namespace Vfs

/-! ### One read -/

/-- The ring still has the given events right after the cursor. -/
def Lists (vfs : Vfs) (cursor : Nat) (pending : List DirectoryChange) : Prop :=
  ∀ (index : Nat) (event : DirectoryChange), pending[index]? = some event →
    vfs.directoryEvent (cursor + index + 1) = event ∧ event.sequence = cursor + index + 1

variable {vfs : Vfs} {cursor : Nat} {event : DirectoryChange} {pending : List DirectoryChange}

theorem Lists.head (lists : vfs.Lists cursor (event :: pending)) :
    vfs.directoryEvent (cursor + 1) = event ∧ event.sequence = cursor + 1 := lists 0 event rfl

theorem Lists.tail (lists : vfs.Lists cursor (event :: pending)) :
    vfs.Lists (cursor + 1) pending := by
  intro index other found
  have there := lists (index + 1) other (by simpa using found)
  rwa [show cursor + (index + 1) = cursor + 1 + index from by omega] at there

/-- A read passes the first of the pending events, returns those about the directory, and stops
early only when it returned one. -/
theorem collectEvents_passed (directory generation : Nat) (room : Nat)
    (lists : vfs.Lists cursor pending) : ∃ passed rest, pending = passed ++ rest ∧
      vfs.collectEvents directory generation room (List.range' (cursor + 1) pending.length) cursor =
        (.ok (passed.filter fun event => event.Concerns directory generation),
          cursor + passed.length) ∧
      (rest ≠ [] → passed.filter (fun event => event.Concerns directory generation) ≠ []) := by
  induction pending generalizing cursor room with
  | nil => exact ⟨[], [], rfl, rfl, fun nonempty => absurd rfl nonempty⟩
  | cons event pending hypothesis =>
    obtain ⟨there, numbered⟩ := lists.head
    have further (cursor : Nat) (passed : List DirectoryChange) :
        cursor + (event :: passed).length = cursor + 1 + passed.length := by
      rw [length_cons]
      omega
    rw [length_cons, List.range'_succ]
    simp only [collectEvents, there, numbered, ne_eq, not_true_eq_false, if_false]
    by_cases concerns : event.Concerns directory generation
    · rw [if_neg (fun foreign => foreign.elim (absurd concerns.1) (absurd concerns.2))]
      by_cases full : room ≤ 1
      · rw [if_pos full]
        refine ⟨[event], pending, rfl, ?_, fun _ => ?_⟩ <;> simp [concerns]
      · rw [if_neg full]
        obtain ⟨passed, rest, split, collected, -⟩ := hypothesis (room - 1) lists.tail
        refine ⟨event :: passed, rest, by rw [split]; rfl, ?_, fun _ => by simp [concerns]⟩
        rw [collected, further, filter_cons_of_pos (by simpa using concerns)]
    · have foreign : event.directory ≠ directory ∨ event.directoryGeneration ≠ generation :=
        not_and_or.mp concerns
      rw [if_pos foreign]
      obtain ⟨passed, rest, split, collected, early⟩ := hypothesis room lists.tail
      refine ⟨event :: passed, rest, by rw [split]; rfl, ?_, ?_⟩
      · rw [collected, further, filter_cons_of_neg (by simpa using concerns)]
      · rwa [filter_cons_of_neg (by simpa using concerns)]

theorem anyEvent_eq (directory generation : Nat) (lists : vfs.Lists cursor pending) :
    vfs.anyEvent directory generation (List.range' (cursor + 1) pending.length) =
      .ok (pending.any fun event => event.Concerns directory generation) := by
  induction pending generalizing cursor with
  | nil => rfl
  | cons event pending hypothesis =>
    obtain ⟨there, numbered⟩ := lists.head
    rw [length_cons, List.range'_succ]
    simp only [anyEvent, there, numbered, ne_eq, not_true_eq_false, if_false]
    split
    · rename_i concerns
      have found : event.Concerns directory generation := concerns
      simp [found]
    · rename_i foreign
      have passed : ¬ event.Concerns directory generation := foreign
      rw [hypothesis lists.tail]
      simp [passed]

/-! ### The watch -/

/-- A watch that was opened after `base` events: the state, the cursor, and since the opening the
events recorded and the events returned. -/
inductive Watched (directory generation base : Nat) :
    Vfs → Nat → List DirectoryChange → List DirectoryChange → Prop where
  | opened {vfs : Vfs} (opens : vfs.directoryEventCursor directory generation = .ok base) :
    Watched directory generation base vfs base [] []
  | called {vfs : Vfs} {cursor : Nat} {recorded returned changes : List DirectoryChange}
    (watched : Watched directory generation base vfs cursor recorded returned)
    (operation : Operation) (records : Records vfs changes (operation.apply vfs)) :
    Watched directory generation base (operation.apply vfs) cursor (recorded ++ changes) returned
  | read {vfs : Vfs} {cursor : Nat} {recorded returned : List DirectoryChange}
    (watched : Watched directory generation base vfs cursor recorded returned) {length : Nat}
    (room : length ≠ 0) {events : List DirectoryChange}
    (reads : (vfs.readDirectoryEvents directory generation cursor length).1 = .ok events) :
    Watched directory generation base vfs
      (vfs.readDirectoryEvents directory generation cursor length).2 recorded (returned ++ events)
  | refused {vfs : Vfs} {cursor : Nat} {recorded returned : List DirectoryChange}
    (watched : Watched directory generation base vfs cursor recorded returned) {length : Nat}
    {failure : Error}
    (fails : (vfs.readDirectoryEvents directory generation cursor length).1 = .error failure) :
    Watched directory generation base vfs
      (vfs.readDirectoryEvents directory generation cursor length).2 recorded returned

/-- What a watch keeps as long as the counter does not wrap. -/
structure Tracks (directory generation base : Nat) (vfs : Vfs) (cursor : Nat)
    (recorded returned : List DirectoryChange) : Prop where
  holds : Holds DirectoryChange.sequence maximumDirectoryEvents vfs.feed base recorded
  plain : ∀ event ∈ recorded, ¬ event.IsOverflow
  opened : base ≤ cursor
  reached : cursor ≤ base + recorded.length
  passed : Passed DirectoryChange.sequence (DirectoryChange.Concerns directory generation)
    DirectoryChange.IsOverflow (recorded.take (cursor - base)) returned cursor
  dropped : ∀ lost ∈ returned, lost.IsOverflow → lost.sequence < vfs.earliestEvent

section Tracks

variable {directory generation base cursor : Nat} {vfs : Vfs} {recorded returned : List DirectoryChange}

variable {after : Vfs}

theorem earliestEvent_mono {before : Vfs}
    (grows : before.directoryEventSequence ≤ after.directoryEventSequence) :
    before.earliestEvent ≤ after.earliestEvent := by
  unfold earliestEvent
  split <;> split <;> omega

theorem earliestEvent_le (vfs : Vfs) : vfs.earliestEvent ≤ vfs.directoryEventSequence + 1 := by
  unfold earliestEvent
  split <;> omega

/-- An opened watch has nothing to account for. -/
theorem tracks_opened (vfs : Vfs) :
    Tracks directory generation vfs.directoryEventSequence vfs vfs.directoryEventSequence [] [] where
  holds := holds_start vfs.feed
  plain _ member := absurd member not_mem_nil
  opened := Nat.le_refl _
  reached := Nat.le_refl _
  passed := by
    rw [Nat.sub_self]
    exact passed_start _
  dropped _ member := absurd member not_mem_nil

/-- A call adds events behind the cursor. -/
theorem Tracks.called (tracks : Tracks directory generation base vfs cursor recorded returned)
    {changes : List DirectoryChange} (records : Records vfs changes after)
    (unwrapped : base + (recorded ++ changes).length < 2 ^ 64) :
    Tracks directory generation base after cursor (recorded ++ changes) returned := by
  have reached := tracks.reached
  have holds := tracks.holds.pushes (fun newest below => nextNonzero_of_lt below) records.2 unwrapped
  refine ⟨holds, fun event member => ?_, tracks.opened, ?_, ?_, fun lost member overflow => ?_⟩
  · rcases mem_append.mp member with old | new
    · exact tracks.plain event old
    · exact records.1 event new
  · rw [length_append]
    omega
  · rw [take_append_of_le_length (by omega)]
    exact tracks.passed
  · refine Nat.lt_of_lt_of_le (tracks.dropped lost member overflow) (earliestEvent_mono ?_)
    have before : vfs.directoryEventSequence = base + recorded.length := tracks.holds.newest
    have now : after.directoryEventSequence = base + (recorded ++ changes).length := holds.newest
    rw [length_append] at now
    omega

/-- What is still in the ring behind the cursor is what was recorded there. -/
theorem Tracks.lists (tracks : Tracks directory generation base vfs cursor recorded returned)
    (current : ¬ cursor + 1 < vfs.earliestEvent) :
    vfs.Lists cursor (recorded.drop (cursor - base)) := by
  intro index event found
  rw [List.getElem?_drop] at found
  have opened := tracks.opened
  have newest : vfs.directoryEventSequence = base + recorded.length := tracks.holds.newest
  have recent : recorded.length ≤ cursor - base + index + maximumDirectoryEvents := by
    unfold earliestEvent at current
    split at current <;> omega
  have slot := tracks.holds.retained _ event found recent
  have number := tracks.holds.numbered _ event found
  rw [show base + (cursor - base + index) = cursor + index from by omega] at slot number
  exact ⟨slot, number⟩

variable {length : Nat}

/-- Either the cursor is behind the ring and a read marks the gap, or a read takes recorded
events from the cursor on. -/
theorem Tracks.read_cases (tracks : Tracks directory generation base vfs cursor recorded returned)
    (valid : vfs.validateDirectoryGeneration directory generation = .ok ()) (room : length ≠ 0) :
    (∃ lost : DirectoryChange, lost.IsOverflow ∧ lost.sequence = vfs.earliestEvent - 1 ∧
      cursor + 1 < vfs.earliestEvent ∧
      vfs.readDirectoryEvents directory generation cursor length = (.ok [lost], lost.sequence) ∧
      vfs.directoryEventsReady directory generation cursor = .ok true) ∨
    ∃ passed rest, recorded.drop (cursor - base) = passed ++ rest ∧
      vfs.readDirectoryEvents directory generation cursor length =
        (.ok (passed.filter fun event => event.Concerns directory generation),
          cursor + passed.length) ∧
      (rest ≠ [] → passed.filter (fun event => event.Concerns directory generation) ≠ []) ∧
      vfs.directoryEventsReady directory generation cursor =
        .ok ((passed ++ rest).any fun event => event.Concerns directory generation) := by
  have newest : vfs.directoryEventSequence = base + recorded.length := tracks.holds.newest
  have opened := tracks.opened
  have reached := tracks.reached
  have behind : ¬ cursor > vfs.directoryEventSequence := by omega
  simp only [readDirectoryEvents, directoryEventsReady, valid, if_neg room, if_neg behind]
  by_cases upToDate : cursor = vfs.directoryEventSequence
  · refine .inr ⟨[], [], drop_eq_nil_of_le (by omega), ?_, fun nonempty => absurd rfl nonempty, ?_⟩
    · rw [if_pos upToDate]
      rfl
    · rw [if_pos upToDate]
      rfl
  · rw [if_neg upToDate, if_neg upToDate]
    by_cases lags : cursor + 1 < vfs.earliestEvent
    · rw [if_pos lags, if_pos lags]
      refine .inl ⟨{
        sequence := vfs.earliestEvent - 1
        directory := directory
        directoryGeneration := generation
        flags := some .overflow }, rfl, rfl, lags, rfl, rfl⟩
    · rw [if_neg lags, if_neg lags]
      have lists := tracks.lists lags
      obtain ⟨passed, rest, split, collected, early⟩ :=
        collectEvents_passed directory generation length lists
      have answered := anyEvent_eq directory generation lists
      rw [length_drop, show recorded.length - (cursor - base) = vfs.directoryEventSequence - cursor
        from by omega] at collected answered
      rw [split] at answered
      exact .inr ⟨passed, rest, split, collected, early, answered⟩

/-- A read moves the cursor past what it returns or gives up. -/
theorem Tracks.read (tracks : Tracks directory generation base vfs cursor recorded returned)
    (room : length ≠ 0) {events : List DirectoryChange} {next : Nat}
    (reads : vfs.readDirectoryEvents directory generation cursor length = (.ok events, next)) :
    Tracks directory generation base vfs next recorded (returned ++ events) := by
  have newest : vfs.directoryEventSequence = base + recorded.length := tracks.holds.newest
  have opened := tracks.opened
  have reached := tracks.reached
  -- The events between the old cursor and the new one, by their place in the history.
  have between (count : Nat) (within : cursor - base + count ≤ recorded.length) :
      ∀ event ∈ (recorded.drop (cursor - base)).take count,
        cursor < event.sequence ∧ event.sequence ≤ cursor + count := by
    intro event member
    obtain ⟨index, below, found⟩ := mem_take_iff_getElem.mp member
    rw [getElem_drop] at found
    rw [tracks.holds.numbered _ event (List.getElem?_eq_some_iff.mpr ⟨_, found⟩)]
    omega
  have ordered : recorded.Pairwise fun earlier later => earlier.sequence < later.sequence := by
    rw [pairwise_iff_getElem]
    intro first second firstBelow secondBelow before
    rw [tracks.holds.numbered _ _ (List.getElem?_eq_getElem firstBelow),
      tracks.holds.numbered _ _ (List.getElem?_eq_getElem secondBelow)]
    omega
  have extend (count : Nat) : recorded.take (cursor + count - base) =
      recorded.take (cursor - base) ++ (recorded.drop (cursor - base)).take count := by
    rw [show cursor + count - base = cursor - base + count from by omega, take_add]
  rcases valid : vfs.validateDirectoryGeneration directory generation with failure | ⟨⟩
  · simp only [readDirectoryEvents, valid] at reads
    cases congrArg Prod.fst reads
  rcases tracks.read_cases valid room with
    ⟨lost, isOverflow, number, lags, answer, -⟩ | ⟨passed, rest, split, answer, -, -⟩
  · obtain ⟨rfl, rfl⟩ : [lost] = events ∧ lost.sequence = next := by
      rw [answer] at reads
      exact ⟨Except.ok.inj (congrArg Prod.fst reads), congrArg Prod.snd reads⟩
    have oldest := vfs.earliestEvent_le
    refine ⟨tracks.holds, tracks.plain, by omega, by omega, ?_, fun mark member overflow => ?_⟩
    · have upTo : cursor + (lost.sequence - cursor) = lost.sequence := by omega
      have skipped := extend (lost.sequence - cursor)
      have gone := between (lost.sequence - cursor) (by omega)
      rw [upTo] at skipped gone
      rw [skipped]
      exact tracks.passed.skip gone (by omega) isOverflow
    · rcases mem_append.mp member with old | new
      · exact tracks.dropped mark old overflow
      · rw [mem_singleton.mp new]
        omega
  · obtain ⟨rfl, rfl⟩ : passed.filter (fun event => event.Concerns directory generation) = events ∧
        cursor + passed.length = next := by
      rw [answer] at reads
      exact ⟨Except.ok.inj (congrArg Prod.fst reads), congrArg Prod.snd reads⟩
    have taken : (recorded.drop (cursor - base)).take passed.length = passed := by
      rw [split, take_left]
    have room : cursor - base + passed.length ≤ recorded.length := by
      have lengths := congrArg List.length split
      rw [length_drop, length_append] at lengths
      omega
    refine ⟨tracks.holds, tracks.plain, by omega, by omega, ?_, fun mark member overflow => ?_⟩
    · have gone := between passed.length room
      rw [extend, taken]
      rw [taken] at gone
      refine tracks.passed.read ?_ gone (Nat.le_add_right _ _)
      rw [← taken]
      exact ordered.drop.take
    · rcases mem_append.mp member with old | new
      · exact tracks.dropped mark old overflow
      · have among : mark ∈ recorded := by
          refine mem_of_mem_drop (i := cursor - base) ?_
          rw [split]
          exact mem_append_left _ (mem_of_mem_filter new)
        exact absurd overflow (tracks.plain mark among)

/-- A read that is refused leaves the cursor. -/
theorem Tracks.refused (tracks : Tracks directory generation base vfs cursor recorded returned)
    {length next : Nat} {failure : Error}
    (fails : vfs.readDirectoryEvents directory generation cursor length = (.error failure, next)) :
    next = cursor := by
  rcases valid : vfs.validateDirectoryGeneration directory generation with other | ⟨⟩
  · simp only [readDirectoryEvents, valid] at fails
    exact (congrArg Prod.snd fails).symm
  · by_cases room : length = 0
    · simp only [readDirectoryEvents, valid, room, if_true] at fails
      cases congrArg Prod.fst fails
    · rcases tracks.read_cases valid room with ⟨_, _, _, _, answer, _⟩ | ⟨_, _, _, answer, _, _⟩ <;>
      · rw [answer] at fails
        cases congrArg Prod.fst fails

/-- The watch is ready exactly when the next read returns something. -/
theorem Tracks.ready_iff (tracks : Tracks directory generation base vfs cursor recorded returned)
    (room : length ≠ 0) :
    vfs.directoryEventsReady directory generation cursor = .ok true ↔ ∃ events, events ≠ [] ∧
      (vfs.readDirectoryEvents directory generation cursor length).1 = .ok events := by
  rcases valid : vfs.validateDirectoryGeneration directory generation with failure | ⟨⟩
  · simp only [readDirectoryEvents, directoryEventsReady, valid]
    constructor
    · intro ready
      cases ready
    · rintro ⟨events, -, answer⟩
      cases answer
  rcases tracks.read_cases valid room with
    ⟨lost, -, -, -, answer, ready⟩ | ⟨passed, rest, -, answer, early, ready⟩
  · rw [answer, ready]
    exact ⟨fun _ => ⟨[lost], cons_ne_nil _ _, rfl⟩, fun _ => rfl⟩
  · rw [answer, ready]
    constructor
    · intro pending
      refine ⟨_, ?_, rfl⟩
      by_cases exhausted : rest = []
      · have found : passed.any (fun event => event.Concerns directory generation) = true := by
          simpa [exhausted] using pending
        obtain ⟨event, member, concerns⟩ := any_eq_true.mp found
        exact ne_nil_of_mem (mem_filter.mpr ⟨member, concerns⟩)
      · exact early exhausted
    · rintro ⟨events, nonempty, same⟩
      cases same
      obtain ⟨event, member⟩ := exists_mem_of_ne_nil _ nonempty
      obtain ⟨among, concerns⟩ := mem_filter.mp member
      refine congrArg Except.ok (any_eq_true.mpr ⟨event, ?_, concerns⟩)
      exact mem_append_left _ among

end Tracks

/-! ### All runs -/

theorem Watched.tracks {directory generation base : Nat} {recorded returned : List DirectoryChange}
    (watched : Watched directory generation base vfs cursor recorded returned)
    (unwrapped : base + recorded.length < 2 ^ 64) :
    Tracks directory generation base vfs cursor recorded returned := by
  induction watched with
  | @opened vfs opens =>
    obtain rfl : vfs.directoryEventSequence = base := by
      unfold directoryEventCursor at opens
      cases valid : vfs.validateDirectoryGeneration directory generation with
      | error failure =>
        rw [valid] at opens
        cases opens
      | ok _ =>
        rw [valid] at opens
        exact Except.ok.inj opens
    exact tracks_opened vfs
  | called _ operation records hypothesis =>
    refine (hypothesis ?_).called records unwrapped
    rw [length_append] at unwrapped
    omega
  | read _ room reads hypothesis =>
    exact (hypothesis unwrapped).read room (Prod.ext reads rfl)
  | @refused vfs cursor _ _ _ length _ fails hypothesis =>
    have tracks := hypothesis unwrapped
    have stays : (vfs.readDirectoryEvents directory generation cursor length).2 = cursor :=
      tracks.refused (Prod.ext fails rfl)
    rwa [stays]

/-- The event of the first directory made in a fresh filesystem. -/
def firstMade : DirectoryChange :=
  { sequence := 1
    directory := 0
    directoryGeneration := 1
    node := 1
    generation := 1
    kind := .directory
    flags := some .created
    name := [97] }

/-- A filesystem in which 2^64 - 1 events were recorded; the ring has the last ones. -/
def counted : Vfs :=
  { Vfs.initialized with
    directoryEvents := fun slot =>
      { firstMade with sequence := 2 ^ 64 - 1 - (62 + maximumDirectoryEvents - slot) % 64 }
    directoryEventSequence := 2 ^ 64 - 1 }

end Vfs

end ZigOs.RuntimeVfs
