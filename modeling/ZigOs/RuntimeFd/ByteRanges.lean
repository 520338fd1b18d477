/-
This file proves that replacing a byte range is pointwise replacement, in a normal
form. The locks of an array are sorted and apart; cutting and adding the new range
keeps them apart, sorting brings them in order, and merging joins exactly the locks
that touch and agree. What remains is the shortest list of locks that covers the
bytes in that way, because each of its locks starts where the kind of lock
changes, so the array is too short for the result only when it is too short for
every list that says the same.
-/

import ZigOs.RuntimeFd.Locks
import ZigOs.RuntimeVfs.State

namespace ZigOs.RuntimeFd

open List RuntimeVfs

/-! ### Lists of locks in order -/

/-- Each lock ends before the next one starts. -/
def Ordered (locks : List ByteRangeLock) : Prop :=
  locks.Pairwise fun earlier later => earlier.stop ≤ later.start

/-- Locks that neither overlap nor could be joined. -/
def Separate (earlier later : ByteRangeLock) : Prop :=
  earlier.stop < later.start ∨ earlier.stop = later.start ∧ earlier.kind ≠ later.kind

/-- No two locks of the list could be joined. -/
def Coalesced (locks : List ByteRangeLock) : Prop := locks.Pairwise Separate

/-- The same without regard to which of the two comes first. -/
def Unjoined (first second : ByteRangeLock) : Prop := Separate first second ∨ Separate second first

instance : Std.Symm Unjoined where
  symm _ _ unjoined := unjoined.symm

theorem Separate.ordered {earlier later : ByteRangeLock} (separate : Separate earlier later) :
    earlier.stop ≤ later.start := by
  rcases separate with apart | ⟨touching, _⟩
  · exact apart.le
  · exact touching.le

variable {locks : List ByteRangeLock}

theorem Coalesced.ordered (coalesced : Coalesced locks) :
    Ordered locks := coalesced.imp Separate.ordered

/-- Two locks without a byte in common. -/
def Disjoint (first second : ByteRangeLock) : Prop :=
  first.stop ≤ second.start ∨ second.stop ≤ first.start

instance : Std.Symm Disjoint where
  symm _ _ disjoint := disjoint.symm

/-- Locks that are disjoint and ascend by where they start are in order. -/
theorem ordered_of_ascends (sound : WellFormedLocks locks)
    (ascends : locks.Pairwise fun first second => first.start ≤ second.start)
    (disjoint : locks.Pairwise Disjoint) : Ordered locks := by
  refine List.Pairwise.imp_of_mem ?_ (ascends.and disjoint)
  rintro first second _ inLocks ⟨before, apart⟩
  rcases apart with apart | apart
  · exact apart
  · exact absurd (sound second inLocks).1 (by omega)

/-! ### Cutting -/

variable {start stop : Nat}

/-- The parts that are left of a lock lie inside it and outside the range. -/
theorem mem_cutLock {lock part : ByteRangeLock} (member : part ∈ cutLock start stop lock) :
    lock.start ≤ part.start ∧ part.stop ≤ lock.stop ∧ (part.stop ≤ start ∨ stop ≤ part.start) := by
  unfold cutLock at member
  split at member
  · rename_i overlap
    simp only [rangesOverlap, Bool.and_eq_true, decide_eq_true_eq] at overlap
    rcases mem_append.mp member with left | right
    · split at left
      · obtain rfl := mem_singleton.mp left
        exact ⟨le_rfl, overlap.2.le, .inl le_rfl⟩
      · cases left
    · split at right
      · obtain rfl := mem_singleton.mp right
        exact ⟨overlap.1.le, le_rfl, .inr le_rfl⟩
      · cases right
  · rename_i apart
    simp only [rangesOverlap, Bool.and_eq_true, decide_eq_true_eq, not_and, not_lt] at apart
    obtain rfl := mem_singleton.mp member
    refine ⟨le_rfl, le_rfl, ?_⟩
    by_cases before : part.start < stop
    · exact .inl (apart before)
    · exact .inr (not_lt.mp before)

theorem cutLock_disjoint (nonempty : start < stop) (lock : ByteRangeLock) :
    (cutLock start stop lock).Pairwise Disjoint := by
  unfold cutLock
  split
  · split <;> split <;> simp [Disjoint]
    omega
  · exact pairwise_singleton _ _

theorem flatMap_cutLock_disjoint (nonempty : start < stop) (disjoint : locks.Pairwise Disjoint) :
    (locks.flatMap (cutLock start stop)).Pairwise Disjoint := by
  induction locks with
  | nil => exact List.Pairwise.nil
  | cons lock rest hypothesis =>
    obtain ⟨apart, restDisjoint⟩ := pairwise_cons.mp disjoint
    rw [flatMap_cons]
    refine pairwise_append.mpr
      ⟨cutLock_disjoint nonempty lock, hypothesis restDisjoint, ?_⟩
    intro part inCut other inRest
    obtain ⟨source, inSource, cut⟩ := mem_flatMap.mp inRest
    have inside := mem_cutLock inCut
    have otherInside := mem_cutLock cut
    rcases apart source inSource with before | after
    · exact .inl (by omega)
    · exact .inr (by omega)

/-- The locks before they are sorted: what is left of the old ones, and the new one. -/
def scratchLocks (current : List ByteRangeLock) (start stop : Nat) (replacement : AdvisoryLock) :
    List ByteRangeLock :=
  current.flatMap (cutLock start stop) ++ replacementLocks start stop replacement

variable {current : List ByteRangeLock}

theorem scratchLocks_disjoint (nonempty : start < stop) (disjoint : current.Pairwise Disjoint)
    (replacement : AdvisoryLock) :
    (scratchLocks current start stop replacement).Pairwise Disjoint := by
  refine pairwise_append.mpr ⟨flatMap_cutLock_disjoint nonempty disjoint, ?_, ?_⟩
  · unfold replacementLocks
    split
    · exact List.Pairwise.nil
    · exact pairwise_singleton _ _
  · intro part inCut other inNew
    obtain ⟨source, _, cut⟩ := mem_flatMap.mp inCut
    unfold replacementLocks at inNew
    split at inNew
    · cases inNew
    · obtain rfl := mem_singleton.mp inNew
      exact (mem_cutLock cut).2.2

theorem scratchLocks_wellFormed (nonempty : start < stop) (sound : WellFormedLocks current)
    (replacement : AdvisoryLock) :
    WellFormedLocks (scratchLocks current start stop replacement) := by
  intro part member
  rcases mem_append.mp member with inCut | inNew
  · exact wellFormed_flatMap_cutLock start stop sound part inCut
  · exact wellFormed_replacementLocks nonempty replacement part inNew

variable {limit : Nat}

theorem scratchLocks_stop_le (within : stop ≤ limit) (bounded : ∀ lock ∈ current, lock.stop ≤ limit)
    (replacement : AdvisoryLock) :
    ∀ lock ∈ scratchLocks current start stop replacement, lock.stop ≤ limit := by
  intro part member
  rcases mem_append.mp member with inCut | inNew
  · obtain ⟨source, inSource, cut⟩ := mem_flatMap.mp inCut
    exact (mem_cutLock cut).2.1.trans (bounded source inSource)
  · unfold replacementLocks at inNew
    split at inNew
    · cases inNew
    · obtain rfl := mem_singleton.mp inNew
      exact within

/-! ### How many parts a cut leaves -/

/-- A lock that reaches past both ends of the range leaves two parts, any other at most one. -/
theorem length_cutLock_le (start stop : Nat) (lock : ByteRangeLock) :
    (cutLock start stop lock).length ≤
      if lock.start < start ∧ stop < lock.stop then 2 else 1 := by
  unfold cutLock
  split
  · by_cases left : lock.start < start <;> by_cases right : stop < lock.stop <;>
      simp [left, right]
  · split <;> simp

/-- At most one of the locks of an ordered list reaches past both ends. -/
theorem length_flatMap_cutLock_le (nonempty : start < stop) (ordered : Ordered locks) :
    (locks.flatMap (cutLock start stop)).length ≤ locks.length + 1 := by
  induction locks with
  | nil => exact Nat.zero_le _
  | cons lock rest hypothesis =>
    obtain ⟨before, restOrdered⟩ := pairwise_cons.mp ordered
    rw [flatMap_cons, length_append, length_cons]
    have cut := length_cutLock_le start stop lock
    by_cases spans : lock.start < start ∧ stop < lock.stop
    · -- The others lie behind the range, so none of them is cut in two.
      rw [if_pos spans] at cut
      have single : (rest.flatMap (cutLock start stop)).length ≤ rest.length := by
        rw [length_flatMap]
        calc (rest.map fun other => (cutLock start stop other).length).sum
            ≤ (rest.map fun _ => 1).sum := by
              refine sum_le_sum ?_
              intro other member
              have behind := before other member
              have few := length_cutLock_le start stop other
              rwa [if_neg (by omega)] at few
          _ = rest.length := by simp
      omega
    · rw [if_neg spans] at cut
      have others := hypothesis restOrdered
      omega

theorem length_scratchLocks_le (nonempty : start < stop) (ordered : Ordered current)
    (replacement : AdvisoryLock) :
    (scratchLocks current start stop replacement).length ≤ current.length + 2 := by
  unfold scratchLocks
  rw [length_append]
  have cut := length_flatMap_cutLock_le nonempty ordered
  have new : (replacementLocks start stop replacement).length ≤ 1 := by
    unfold replacementLocks
    split <;> simp
  omega

/-! ### Merging -/

theorem length_le_joinLock (merged : List ByteRangeLock) (lock : ByteRangeLock) :
    merged.length ≤ (joinLock merged lock).length := by
  unfold joinLock
  split
  · split
    · exact le_rfl
    · exact Nat.le_succ _
  · exact Nat.zero_le _

theorem length_le_foldl_joinLock (locks merged : List ByteRangeLock) :
    merged.length ≤ (locks.foldl joinLock merged).length := by
  induction locks generalizing merged with
  | nil => exact le_rfl
  | cons lock rest hypothesis =>
    exact (length_le_joinLock merged lock).trans (hypothesis _)

variable {merged : List ByteRangeLock}

/-- A lock is merged in unless it needs one entry more than there is. -/
theorem mergeLock_eq (fits : merged.length ≤ maximumByteRangeLocksPerDescription)
    (lock : ByteRangeLock) : mergeLock merged lock =
      if (joinLock merged lock).length ≤ maximumByteRangeLocksPerDescription then
        .ok (joinLock merged lock)
      else .error .rangeLockLimit := by
  cases merged with
  | nil => rfl
  | cons previous earlier =>
    rw [joinLock_cons]
    unfold mergeLock
    dsimp only
    by_cases continues : previous.kind = lock.kind ∧ previous.stop = lock.start
    · rw [if_pos continues, if_pos continues]
      exact (if_pos fits).symm
    · rw [if_neg continues, if_neg continues]
      by_cases full : (previous :: earlier).length = maximumByteRangeLocksPerDescription
      · rw [if_pos full, if_neg]
        rw [length_cons, full]
        exact Nat.not_succ_le_self _
      · rw [if_neg full, if_pos]
        exact Nat.lt_of_le_of_ne fits full

/-- The loop fails exactly when the merged locks do not fit. -/
theorem mergeLocks_eq (locks : List ByteRangeLock)
    (fits : merged.length ≤ maximumByteRangeLocksPerDescription) : mergeLocks merged locks =
      if (locks.foldl joinLock merged).length ≤ maximumByteRangeLocksPerDescription then
        .ok (locks.foldl joinLock merged)
      else .error .rangeLockLimit := by
  induction locks generalizing merged with
  | nil => exact (if_pos fits).symm
  | cons lock rest hypothesis =>
    rw [mergeLocks, mergeLock_eq fits, foldl_cons]
    by_cases room : (joinLock merged lock).length ≤ maximumByteRangeLocksPerDescription
    · rw [if_pos room]
      exact hypothesis room
    · rw [if_neg room, if_neg]
      exact fun all => room ((length_le_foldl_joinLock rest _).trans all)

/-- The merged locks, in order. -/
def coalesce (locks : List ByteRangeLock) : List ByteRangeLock := (locks.foldl joinLock []).reverse

def sortLocks (locks : List ByteRangeLock) : List ByteRangeLock :=
  Sorting.insertionSort (fun lock other => decide (lock.start < other.start)) locks

/-- The list a replacement results in, when it fits. -/
def replacedLocks (current : List ByteRangeLock) (start stop : Nat)
    (replacement : AdvisoryLock) : List ByteRangeLock :=
  coalesce (sortLocks (scratchLocks current start stop replacement))

theorem replaceByteRangeLocks_eq (current : List ByteRangeLock) (start stop : Nat)
    (replacement : AdvisoryLock) :
    replaceByteRangeLocks current start stop replacement =
      if (replacedLocks current start stop replacement).length ≤
          maximumByteRangeLocksPerDescription then
        .ok (replacedLocks current start stop replacement)
      else .error .rangeLockLimit := by
  have merged := mergeLocks_eq (sortLocks (scratchLocks current start stop replacement))
    (show ([] : List ByteRangeLock).length ≤ maximumByteRangeLocksPerDescription from Nat.zero_le _)
  unfold replacedLocks coalesce replaceByteRangeLocks
  unfold sortLocks scratchLocks at merged ⊢
  dsimp only
  rw [length_reverse, merged]
  split_ifs
  · rfl
  · rfl

/-- The accumulator of the merge, whose head is the lock added last. -/
structure Merged (merged : List ByteRangeLock) (limit : Nat) : Prop where
  sound : WellFormedLocks merged
  separate : merged.Pairwise fun later earlier => Separate earlier later
  bounded : ∀ lock ∈ merged, lock.stop ≤ limit

/-- Joining one lock that lies behind all the others. -/
theorem Merged.join {lock : ByteRangeLock} (state : Merged merged limit)
    (wellFormed : lock.start < lock.stop ∧ lock.kind ≠ .none) (within : lock.stop ≤ limit)
    (behind : ∀ earlier ∈ merged, earlier.stop ≤ lock.start) : Merged (joinLock merged lock) limit ∧
      ∀ earlier ∈ joinLock merged lock, earlier.stop ≤ lock.stop := by
  obtain ⟨sound, separate, bounded⟩ := state
  unfold joinLock
  cases merged with
  | nil =>
    refine ⟨⟨?_, pairwise_singleton _ _, ?_⟩, ?_⟩
    all_goals
      intro other member
      obtain rfl := mem_singleton.mp member
    · exact wellFormed
    · exact within
    · exact le_rfl
  | cons previous earlier =>
    obtain ⟨apart, rest⟩ := pairwise_cons.mp separate
    have previousSound := sound previous mem_cons_self
    have previousBehind := behind previous mem_cons_self
    dsimp only
    by_cases continues : previous.kind = lock.kind ∧ previous.stop = lock.start
    · rw [if_pos continues]
      refine ⟨⟨?_, pairwise_cons.mpr ⟨?_, rest⟩, ?_⟩, ?_⟩
      · intro other member
        rcases mem_cons.mp member with rfl | old
        · exact ⟨by show previous.start < lock.stop; omega, previousSound.2⟩
        · exact sound other (mem_cons_of_mem _ old)
      · exact fun other member => apart other member
      · intro other member
        rcases mem_cons.mp member with rfl | old
        · exact within
        · exact bounded other (mem_cons_of_mem _ old)
      · intro other member
        rcases mem_cons.mp member with rfl | old
        · exact le_rfl
        · exact (behind other (mem_cons_of_mem _ old)).trans wellFormed.1.le
    · rw [if_neg continues]
      refine ⟨⟨?_, pairwise_cons.mpr ⟨?_, separate⟩, ?_⟩, ?_⟩
      · intro other member
        rcases mem_cons.mp member with rfl | old
        · exact wellFormed
        · exact sound other old
      · intro other member
        rcases mem_cons.mp member with rfl | old
        · rcases previousBehind.lt_or_eq with gap | touching
          · exact .inl gap
          · exact .inr ⟨touching, fun same => continues ⟨same, touching⟩⟩
        · have ordered := (apart other old).ordered
          exact .inl (by omega)
      · intro other member
        rcases mem_cons.mp member with rfl | old
        · exact within
        · exact bounded other old
      · intro other member
        rcases mem_cons.mp member with rfl | old
        · exact le_rfl
        · exact (behind other old).trans wellFormed.1.le

theorem Merged.foldl (state : Merged merged limit) (sound : WellFormedLocks locks)
    (ordered : Ordered locks) (bounded : ∀ lock ∈ locks, lock.stop ≤ limit)
    (behind : ∀ earlier ∈ merged, ∀ lock ∈ locks, earlier.stop ≤ lock.start) :
    Merged (locks.foldl joinLock merged) limit := by
  induction locks generalizing merged with
  | nil => exact state
  | cons lock rest hypothesis =>
    obtain ⟨before, restOrdered⟩ := pairwise_cons.mp ordered
    obtain ⟨joined, ends⟩ := state.join (sound lock mem_cons_self)
      (bounded lock mem_cons_self) fun earlier member =>
        behind earlier member lock mem_cons_self
    refine hypothesis joined (fun other member => sound other (mem_cons_of_mem _ member))
      restOrdered (fun other member => bounded other (mem_cons_of_mem _ member)) ?_
    intro earlier member other later
    exact (ends earlier member).trans (before other later)

/-- Merging an ordered list gives locks that could not be joined further. -/
theorem coalesce_coalesced (sound : WellFormedLocks locks) (ordered : Ordered locks)
    (bounded : ∀ lock ∈ locks, lock.stop ≤ limit) :
    WellFormedLocks (coalesce locks) ∧ Coalesced (coalesce locks) ∧
      ∀ lock ∈ coalesce locks, lock.stop ≤ limit := by
  have empty : Merged [] limit :=
    { sound := fun _ member => nomatch member
      separate := List.Pairwise.nil
      bounded := fun _ member => nomatch member }
  have state := empty.foldl sound ordered bounded fun _ member => nomatch member
  unfold coalesce
  exact ⟨fun lock member => state.sound lock (mem_reverse.mp member),
    pairwise_reverse.mpr state.separate,
    fun lock member => state.bounded lock (mem_reverse.mp member)⟩

/-- Merging a list covers what its locks cover. -/
theorem foldl_joinLock_covers (sound : WellFormedLocks merged) (wellFormed : WellFormedLocks locks)
    (kind : AdvisoryLock) (offset : Nat) : Covers (locks.foldl joinLock merged) kind offset ↔
      Covers merged kind offset ∨ Covers locks kind offset := by
  induction locks generalizing merged with
  | nil => simp [Covers]
  | cons lock rest hypothesis =>
    obtain ⟨joinedSound, joinedCovers⟩ :=
      joinLock_covers sound (wellFormed lock mem_cons_self)
    rw [foldl_cons, hypothesis joinedSound fun other member =>
        wellFormed other (mem_cons_of_mem _ member),
      joinedCovers, covers_cons, or_assoc]

/-! ### The shortest list -/

variable {others : List ByteRangeLock}

/-- Each lock of a coalesced list starts where the kind of lock changes, so every list that
covers the same bytes in the same way has a lock that starts there. -/
theorem start_mem_of_covers (sound : WellFormedLocks locks) (coalesced : Coalesced locks)
    (same : ∀ kind offset, Covers locks kind offset ↔ Covers others kind offset)
    {lock : ByteRangeLock} (member : lock ∈ locks) :
    lock.start ∈ others.map ByteRangeLock.start := by
  obtain ⟨nonempty, _⟩ := sound lock member
  obtain ⟨other, inOthers, agrees, before, after⟩ :=
    (same lock.kind lock.start).mp ⟨lock, member, rfl, le_rfl, nonempty⟩
  refine mem_map.mpr ⟨other, inOthers, ?_⟩
  by_contra starts
  -- The other lock covers the byte in front of this one, so a lock of this list does too.
  obtain ⟨neighbour, inLocks, alike, begins, ends⟩ :=
    (same lock.kind (lock.start - 1)).mpr ⟨other, inOthers, agrees, by omega, by omega⟩
  have differs : neighbour ≠ lock := by
    rintro rfl
    omega
  have unjoined : locks.Pairwise Unjoined := coalesced.imp .inl
  have apart := unjoined.forall inLocks member differs
  rcases apart with (gap | ⟨_, different⟩) | (gap | ⟨touching, _⟩)
  · omega
  · exact different alike
  · omega
  · omega

/-- A coalesced list is as short as any list that covers the same bytes in the same way. -/
theorem length_le_of_covers (sound : WellFormedLocks locks) (coalesced : Coalesced locks)
    (same : ∀ kind offset, Covers locks kind offset ↔ Covers others kind offset) :
    locks.length ≤ others.length := by
  have distinct : (locks.map ByteRangeLock.start).Nodup := by
    refine pairwise_map.mpr (List.Pairwise.imp_of_mem ?_ coalesced.ordered)
    intro earlier later inLocks _ ordered equal
    have nonempty := (sound earlier inLocks).1
    omega
  have contained : locks.map ByteRangeLock.start ⊆ others.map ByteRangeLock.start := by
    intro start member
    obtain ⟨lock, inLocks, rfl⟩ := mem_map.mp member
    exact start_mem_of_covers sound coalesced same inLocks
  have shorter := (subperm_of_subset distinct contained).length_le
  rwa [length_map, length_map] at shorter

/-! ### The array of an open description -/

/-- A slot of the array of locks. -/
structure LockSlot where
  used : Bool := false
  start : Nat := 0
  stop : Nat := 0
  kind : AdvisoryLock := .none
  deriving DecidableEq, Repr

def LockSlot.lock (slot : LockSlot) : ByteRangeLock := ⟨slot.start, slot.stop, slot.kind⟩

def usedLocks (slots : List LockSlot) : List ByteRangeLock :=
  (slots.filter LockSlot.used).map LockSlot.lock

/-- The array that holds the locks of a list at its beginning. -/
def lockSlots (locks : List ByteRangeLock) : List LockSlot :=
  locks.map (fun lock => { used := true, start := lock.start, stop := lock.stop, kind := lock.kind })
    ++ List.replicate (maximumByteRangeLocksPerDescription - locks.length) ({} : LockSlot)

def validateSlots : Bool → Nat → List LockSlot → Bool
  | _, _, [] => true
  | seenUnused, previousEnd, slot :: rest =>
    if slot.used = false then validateSlots true previousEnd rest
    else if seenUnused = true ∨ slot.kind = .none ∨ slot.stop ≤ slot.start ∨
      maximumFileSize < slot.stop then false
    else if slot.start < previousEnd then false
    else validateSlots seenUnused slot.stop rest

def validateByteRangeLocks (slots : List LockSlot) : Bool := validateSlots false 0 slots

/-- The replacement on the array itself. -/
def replaceSlots (current : List LockSlot) (start stop : Nat) (replacement : AdvisoryLock) :
    Except Error (List LockSlot) :=
  (replaceByteRangeLocks (usedLocks current) start stop replacement).map lockSlots

/-- The kind of lock a list has on a byte. -/
def kindOn (locks : List ByteRangeLock) (offset : Nat) : AdvisoryLock :=
  match locks.find? fun lock => decide (lock.start ≤ offset ∧ offset < lock.stop) with
  | some lock => lock.kind
  | none => .none

def kindAt (slots : List LockSlot) (offset : Nat) : AdvisoryLock := kindOn (usedLocks slots) offset

/-- The kinds a replacement asks for. -/
def replacedKindAt (slots : List LockSlot) (start stop : Nat) (replacement : AdvisoryLock)
    (offset : Nat) : AdvisoryLock :=
  if start ≤ offset ∧ offset < stop then replacement else kindAt slots offset

/-- What a valid array holds. -/
structure ValidLocks (locks : List ByteRangeLock) : Prop where
  sound : WellFormedLocks locks
  ordered : Ordered locks
  bounded : ∀ lock ∈ locks, lock.stop ≤ maximumFileSize

theorem ValidLocks.disjoint (valid : ValidLocks locks) :
    locks.Pairwise Disjoint := valid.ordered.imp .inl

/-- A byte has one kind of lock at most. -/
theorem ValidLocks.covers_iff (valid : ValidLocks locks) (kind : AdvisoryLock) (offset : Nat) :
    Covers locks kind offset ↔ kindOn locks offset = kind ∧ kind ≠ .none := by
  unfold kindOn
  constructor
  · rintro ⟨lock, member, rfl, before, after⟩
    refine ⟨?_, (valid.sound lock member).2⟩
    cases found : locks.find? fun lock => decide (lock.start ≤ offset ∧ offset < lock.stop) with
    | none =>
      have uncovered := find?_eq_none.mp found lock member
      exact absurd (decide_eq_true ⟨before, after⟩) uncovered
    | some other =>
      have inside : other.start ≤ offset ∧ offset < other.stop := by
        simpa using find?_some found
      by_cases same : other = lock
      · rw [same]
      · rcases valid.disjoint.forall (mem_of_find?_eq_some found) member same with apart | apart
        · omega
        · omega
  · rintro ⟨agrees, present⟩
    cases found : locks.find? fun lock => decide (lock.start ≤ offset ∧ offset < lock.stop) with
    | none =>
      rw [found] at agrees
      exact absurd agrees.symm present
    | some lock =>
      rw [found] at agrees
      have inside : lock.start ≤ offset ∧ offset < lock.stop := by
        simpa using find?_some found
      exact ⟨lock, mem_of_find?_eq_some found, agrees, inside⟩

/-- Valid arrays agree on the kinds exactly when they cover the same bytes. -/
theorem covers_iff_of_kindOn (valid : ValidLocks locks) (otherValid : ValidLocks others)
    (same : ∀ offset, kindOn locks offset = kindOn others offset) (kind : AdvisoryLock)
    (offset : Nat) : Covers locks kind offset ↔ Covers others kind offset := by
  rw [valid.covers_iff, otherValid.covers_iff, same]

variable {previousEnd : Nat}

/-- An array that passes the check holds ordered locks, all behind what was seen before it. -/
theorem validateSlots_sound {seenUnused : Bool} {slots : List LockSlot}
    (passes : validateSlots seenUnused previousEnd slots = true) :
    ValidLocks (usedLocks slots) ∧ (∀ lock ∈ usedLocks slots, previousEnd ≤ lock.start) := by
  induction slots generalizing seenUnused previousEnd with
  | nil =>
    exact ⟨⟨fun _ member => (not_mem_nil member).elim, List.Pairwise.nil,
      fun _ member => (not_mem_nil member).elim⟩,
      fun _ member => (not_mem_nil member).elim⟩
  | cons slot rest hypothesis =>
    unfold validateSlots at passes
    by_cases unused : slot.used = false
    · rw [if_pos unused] at passes
      have skipped : usedLocks (slot :: rest) = usedLocks rest := by
        simp [usedLocks, unused]
      rw [skipped]
      exact hypothesis passes
    · rw [if_neg unused] at passes
      have taken : usedLocks (slot :: rest) = slot.lock :: usedLocks rest := by
        simp [usedLocks, unused]
      by_cases broken : seenUnused = true ∨ slot.kind = .none ∨ slot.stop ≤ slot.start ∨
          maximumFileSize < slot.stop
      · rw [if_pos broken] at passes
        cases passes
      · rw [if_neg broken] at passes
        by_cases overlaps : slot.start < previousEnd
        · rw [if_pos overlaps] at passes
          cases passes
        · rw [if_neg overlaps] at passes
          simp only [not_or, not_le, not_lt] at broken overlaps
          obtain ⟨_, present, nonempty, within⟩ := broken
          obtain ⟨⟨sound, ordered, bounded⟩, behind⟩ := hypothesis passes
          rw [taken]
          refine ⟨⟨?_, pairwise_cons.mpr ⟨behind, ordered⟩, ?_⟩, ?_⟩
          · intro lock member
            rcases mem_cons.mp member with rfl | later
            · exact ⟨nonempty, present⟩
            · exact sound lock later
          · intro lock member
            rcases mem_cons.mp member with rfl | later
            · exact within
            · exact bounded lock later
          · intro lock member
            rcases mem_cons.mp member with rfl | later
            · exact overlaps
            · exact overlaps.trans (nonempty.le.trans (behind lock later))

theorem validateSlots_replicate (seenUnused : Bool) (previousEnd count : Nat) :
    validateSlots seenUnused previousEnd (List.replicate count ({} : LockSlot)) = true := by
  induction count generalizing seenUnused with
  | zero => rfl
  | succ count hypothesis => exact hypothesis true

/-- An array that holds ordered locks at its beginning passes the check. -/
theorem validateSlots_complete (count : Nat) (valid : ValidLocks locks)
    (behind : ∀ lock ∈ locks, previousEnd ≤ lock.start) :
    validateSlots false previousEnd (locks.map (fun lock =>
      { used := true, start := lock.start, stop := lock.stop, kind := lock.kind }) ++
        List.replicate count ({} : LockSlot)) = true := by
  induction locks generalizing previousEnd with
  | nil => exact validateSlots_replicate _ _ _
  | cons lock rest hypothesis =>
    obtain ⟨before, restOrdered⟩ := pairwise_cons.mp valid.ordered
    obtain ⟨nonempty, present⟩ := valid.sound lock mem_cons_self
    have within := valid.bounded lock mem_cons_self
    have first := behind lock mem_cons_self
    rw [map_cons, cons_append, validateSlots, if_neg Bool.noConfusion, if_neg, if_neg]
    · refine hypothesis ⟨?_, restOrdered, ?_⟩ before
      · exact fun other member => valid.sound other (mem_cons_of_mem _ member)
      · exact fun other member => valid.bounded other (mem_cons_of_mem _ member)
    · exact not_lt.mpr first
    · simp only [not_or, not_le, not_lt]
      exact ⟨Bool.false_ne_true, present, nonempty, within⟩

theorem usedLocks_lockSlots (locks : List ByteRangeLock) : usedLocks (lockSlots locks) = locks := by
  unfold usedLocks lockSlots
  have unused : (List.replicate (maximumByteRangeLocksPerDescription - locks.length)
      ({} : LockSlot)).filter LockSlot.used = [] := by
    refine filter_eq_nil_iff.mpr ?_
    intro slot member
    rw [eq_of_mem_replicate member]
    exact Bool.false_ne_true
  rw [filter_append, unused, append_nil]
  clear unused
  induction locks with
  | nil => rfl
  | cons lock rest hypothesis => exact congrArg (lock :: ·) hypothesis

theorem length_lockSlots (fits : locks.length ≤ maximumByteRangeLocksPerDescription) :
    (lockSlots locks).length = maximumByteRangeLocksPerDescription := by
  unfold lockSlots
  rw [length_append, length_map, length_replicate]
  exact Nat.add_sub_cancel' fits

theorem validateByteRangeLocks_lockSlots (valid : ValidLocks locks) :
    validateByteRangeLocks (lockSlots locks) = true :=
  validateSlots_complete _ valid fun _ _ => Nat.zero_le _

/-! ### Replacement on a valid array -/

section Replacement

variable {slots : List LockSlot} {start stop : Nat}

/-- The list a replacement on a valid array results in is valid and coalesced. -/
theorem replacedLocks_valid (valid : ValidLocks current) (nonempty : start < stop)
    (within : stop ≤ maximumFileSize) (replacement : AdvisoryLock) :
    ValidLocks (replacedLocks current start stop replacement) ∧
      Coalesced (replacedLocks current start stop replacement) := by
  have scratchSound := scratchLocks_wellFormed nonempty valid.sound replacement
  have sortedSound : WellFormedLocks (sortLocks (scratchLocks current start stop replacement)) :=
    fun lock member => scratchSound lock ((Sorting.mem_insertionSort _ _ _).mp member)
  have disjoint : (sortLocks (scratchLocks current start stop replacement)).Pairwise Disjoint :=
    ((Sorting.insertionSort_perm _ _).pairwise_iff fun h => h.symm).mpr
      (scratchLocks_disjoint nonempty valid.disjoint replacement)
  have ordered := ordered_of_ascends sortedSound
    (Sorting.insertionSort_ascends ByteRangeLock.start _) disjoint
  obtain ⟨sound, coalesced, bounded⟩ := coalesce_coalesced sortedSound ordered
    fun lock member => scratchLocks_stop_le within valid.bounded replacement lock
      ((Sorting.mem_insertionSort _ _ _).mp member)
  exact ⟨⟨sound, coalesced.ordered, bounded⟩, coalesced⟩

theorem replacedLocks_covers (valid : ValidLocks current) (nonempty : start < stop)
    (replacement kind : AdvisoryLock) (offset : Nat) :
    Covers (replacedLocks current start stop replacement) kind offset ↔
      if start ≤ offset ∧ offset < stop then replacement = kind ∧ replacement ≠ .none
      else Covers current kind offset := by
  have scratchSound := scratchLocks_wellFormed nonempty valid.sound replacement
  have nothing : ¬ Covers [] kind offset := fun ⟨_, member, _⟩ => nomatch member
  have sortedSound : WellFormedLocks (sortLocks (scratchLocks current start stop replacement)) :=
    fun lock member => scratchSound lock ((Sorting.mem_insertionSort _ _ _).mp member)
  have merged := foldl_joinLock_covers (fun lock member => (not_mem_nil member).elim)
    sortedSound kind offset
  unfold replacedLocks coalesce
  rw [covers_congr (fun lock => mem_reverse), merged, or_iff_right nothing]
  unfold sortLocks
  rw [covers_congr (fun lock => Sorting.mem_insertionSort _ _ lock)]
  exact covers_cut_append current start stop replacement kind offset

/-- The replacement list has the replacement kind in the range and the old kinds elsewhere. -/
theorem kindOn_replacedLocks (valid : ValidLocks current) (nonempty : start < stop)
    (within : stop ≤ maximumFileSize) (replacement : AdvisoryLock) (offset : Nat) :
    kindOn (replacedLocks current start stop replacement) offset =
      if start ≤ offset ∧ offset < stop then replacement else kindOn current offset := by
  have validResult := (replacedLocks_valid valid nonempty within replacement).1
  have covered : ∀ kind, kind ≠ .none →
      (kindOn (replacedLocks current start stop replacement) offset = kind ↔
        (if start ≤ offset ∧ offset < stop then replacement else kindOn current offset) = kind) := by
    intro kind present
    have meaning := replacedLocks_covers valid nonempty replacement kind offset
    rw [validResult.covers_iff, valid.covers_iff] at meaning
    split at meaning
    · rename_i inside
      rw [if_pos inside]
      constructor
      · exact fun agrees => (meaning.mp ⟨agrees, present⟩).1
      · rintro rfl
        exact (meaning.mpr ⟨rfl, present⟩).1
    · rename_i outside
      rw [if_neg outside]
      constructor
      · exact fun agrees => (meaning.mp ⟨agrees, present⟩).1
      · exact fun agrees => (meaning.mpr ⟨agrees, present⟩).1
  by_cases bare : kindOn (replacedLocks current start stop replacement) offset = .none
  · rw [bare]
    by_contra differs
    exact differs (bare.symm.trans ((covered _ (Ne.symm differs)).mpr rfl))
  · exact ((covered _ bare).mp rfl).symm

end Replacement

/-- Replacing a range of a valid array never needs more scratch space than there is. It succeeds
with a valid, coalesced array that has the replacement kind on the bytes of the range and the old
kinds elsewhere; and it fails exactly when no valid array has these kinds. -/
theorem replaceSlots_exact (slots : List LockSlot) (start stop : Nat) (replacement : AdvisoryLock)
    (size : slots.length = maximumByteRangeLocksPerDescription)
    (valid : validateByteRangeLocks slots = true) (nonempty : start < stop)
    (within : stop ≤ maximumFileSize) :
    (scratchLocks (usedLocks slots) start stop replacement).length ≤
        maximumByteRangeLocksPerDescription + 2 ∧
      (∀ result, replaceSlots slots start stop replacement = .ok result →
        result.length = maximumByteRangeLocksPerDescription ∧
        validateByteRangeLocks result = true ∧ Coalesced (usedLocks result) ∧
        ∀ offset, kindAt result offset = replacedKindAt slots start stop replacement offset) ∧
      (∀ failure, replaceSlots slots start stop replacement = .error failure →
        failure = .rangeLockLimit) ∧
      (replaceSlots slots start stop replacement = .error .rangeLockLimit ↔
        ¬ ∃ other : List LockSlot, other.length = maximumByteRangeLocksPerDescription ∧
          validateByteRangeLocks other = true ∧
          ∀ offset, kindAt other offset = replacedKindAt slots start stop replacement offset) := by
  obtain ⟨current, _⟩ := validateSlots_sound valid
  obtain ⟨validResult, coalesced⟩ := replacedLocks_valid current nonempty within replacement
  have kinds := kindOn_replacedLocks current nonempty within replacement
  have outcome := replaceByteRangeLocks_eq (usedLocks slots) start stop replacement
  have few : (usedLocks slots).length ≤ maximumByteRangeLocksPerDescription := by
    rw [← size]
    unfold usedLocks
    rw [length_map]
    exact length_filter_le _ _
  refine ⟨(length_scratchLocks_le nonempty current.ordered replacement).trans
    (Nat.add_le_add_right few 2), ?_, ?_, ?_⟩
  · intro result succeeded
    unfold replaceSlots at succeeded
    rw [outcome] at succeeded
    split at succeeded
    · rename_i fits
      cases succeeded
      refine ⟨length_lockSlots fits, validateByteRangeLocks_lockSlots validResult, ?_, ?_⟩
      · rwa [usedLocks_lockSlots]
      · intro offset
        unfold kindAt
        rw [usedLocks_lockSlots]
        exact kinds offset
    · cases succeeded
  · intro failure failed
    unfold replaceSlots at failed
    rw [outcome] at failed
    split at failed
    · cases failed
    · cases failed
      rfl
  · unfold replaceSlots
    rw [outcome]
    constructor
    · rintro failed ⟨other, otherSize, otherValid, agrees⟩
      obtain ⟨otherLocks, _⟩ := validateSlots_sound otherValid
      have shortest := length_le_of_covers validResult.sound coalesced
        (covers_iff_of_kindOn validResult otherLocks fun offset =>
          (kinds offset).trans (agrees offset).symm)
      have fits : (replacedLocks (usedLocks slots) start stop replacement).length ≤
          maximumByteRangeLocksPerDescription := by
        refine shortest.trans ?_
        rw [← otherSize]
        unfold usedLocks
        rw [length_map]
        exact length_filter_le _ _
      rw [if_pos fits] at failed
      cases failed
    · intro impossible
      rw [if_neg]
      · rfl
      · intro fits
        refine impossible ⟨lockSlots (replacedLocks (usedLocks slots) start stop replacement),
          length_lockSlots fits, validateByteRangeLocks_lockSlots validResult, ?_⟩
        intro offset
        unfold kindAt
        rw [usedLocks_lockSlots]
        exact kinds offset

/-- Unlocking the middle of a locked range splits the lock in two. -/
theorem replaceSlots_splits : replaceSlots (lockSlots [⟨0, 10, .exclusive⟩]) 3 5 .none =
        .ok (lockSlots [⟨0, 3, .exclusive⟩, ⟨5, 10, .exclusive⟩]) ∧
      ∀ offset, kindAt (lockSlots [⟨0, 3, .exclusive⟩, ⟨5, 10, .exclusive⟩]) offset =
        replacedKindAt (lockSlots [⟨0, 10, .exclusive⟩]) 3 5 .none offset := by
  have exact := replaceSlots_exact (lockSlots [⟨0, 10, .exclusive⟩]) 3 5 .none (by decide)
    (by decide) (by decide) (by decide)
  have splits : replaceSlots (lockSlots [⟨0, 10, .exclusive⟩]) 3 5 .none =
      .ok (lockSlots [⟨0, 3, .exclusive⟩, ⟨5, 10, .exclusive⟩]) := by decide
  exact ⟨splits, (exact.2.1 _ splits).2.2.2⟩

end ZigOs.RuntimeFd
