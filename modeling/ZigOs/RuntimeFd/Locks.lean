/-
This file models the byte-range locks of an open description: a short sorted
array of ranges, and the replacement of whatever lies in a range by one kind of
lock or by none. What matters about such an array is which kind of lock covers
each byte, and a replacement changes exactly the bytes of its range.
-/

import ZigOs.Error

namespace ZigOs.RuntimeFd

open List

abbrev maximumByteRangeLocksPerDescription : Nat := 8

inductive AdvisoryLock where
  | none | shared | exclusive
  deriving DecidableEq, Repr

/-- A used entry of the array; it covers the bytes from `start` up to `stop`. The used entries
of an array stand at its beginning, so an array is the list of them. -/
structure ByteRangeLock where
  start : Nat
  stop : Nat
  kind : AdvisoryLock
  deriving DecidableEq, Repr

def rangesOverlap (startA endA startB endB : Nat) : Bool :=
  decide (startA < endB) && decide (startB < endA)

def byteRangeLocksOverlap (locks : List ByteRangeLock) (start stop : Nat) : Bool :=
  locks.any fun lock => rangesOverlap start stop lock.start lock.stop

/-- What is left of a lock outside a range. -/
def cutLock (start stop : Nat) (lock : ByteRangeLock) : List ByteRangeLock :=
  if rangesOverlap lock.start lock.stop start stop then
    (if lock.start < start then [{ lock with stop := start }] else []) ++
      (if lock.stop > stop then [{ lock with start := stop }] else [])
  else [lock]

/-- Add a lock to the result, latest first; a lock that continues the one before it extends
it instead. -/
def mergeLock (merged : List ByteRangeLock) (lock : ByteRangeLock) :
    Except Error (List ByteRangeLock) :=
  match merged with
  | previous :: earlier =>
    if previous.kind = lock.kind ∧ previous.stop = lock.start then
      .ok ({ previous with stop := lock.stop } :: earlier)
    else if merged.length = maximumByteRangeLocksPerDescription then .error .rangeLockLimit
    else .ok (lock :: merged)
  | [] => .ok [lock]

def mergeLocks : List ByteRangeLock → List ByteRangeLock → Except Error (List ByteRangeLock)
  | merged, [] => .ok merged
  | merged, lock :: rest =>
    match mergeLock merged lock with
    | .ok next => mergeLocks next rest
    | .error failure => .error failure

def replacementLocks (start stop : Nat) (replacement : AdvisoryLock) : List ByteRangeLock :=
  if replacement = .none then [] else [{ start, stop, kind := replacement }]

def replaceByteRangeLocks (current : List ByteRangeLock) (start stop : Nat)
    (replacement : AdvisoryLock) : Except Error (List ByteRangeLock) :=
  let scratch := current.flatMap (cutLock start stop) ++ replacementLocks start stop replacement
  let sorted := Sorting.insertionSort (fun lock other => decide (lock.start < other.start)) scratch
  match mergeLocks [] sorted with
  | .ok merged => .ok merged.reverse
  | .error failure => .error failure

/-! ### Which bytes are covered -/

/-- Some lock of this kind covers the byte. -/
def Covers (locks : List ByteRangeLock) (kind : AdvisoryLock) (offset : Nat) : Prop :=
  ∃ lock ∈ locks, lock.kind = kind ∧ lock.start ≤ offset ∧ offset < lock.stop

instance (locks : List ByteRangeLock) (kind : AdvisoryLock) (offset : Nat) :
    Decidable (Covers locks kind offset) :=
  inferInstanceAs (Decidable (∃ lock ∈ locks, _))

/-- Every lock starts before it stops and is a lock. -/
def WellFormedLocks (locks : List ByteRangeLock) : Prop :=
  ∀ lock ∈ locks, lock.start < lock.stop ∧ lock.kind ≠ .none

theorem covers_append (first second : List ByteRangeLock) (kind : AdvisoryLock) (offset : Nat) :
    Covers (first ++ second) kind offset ↔ Covers first kind offset ∨ Covers second kind offset := by
  simp only [Covers, mem_append]
  constructor
  · rintro ⟨lock, member | member, covered⟩
    · exact .inl ⟨lock, member, covered⟩
    · exact .inr ⟨lock, member, covered⟩
  · rintro (⟨lock, member, covered⟩ | ⟨lock, member, covered⟩)
    · exact ⟨lock, .inl member, covered⟩
    · exact ⟨lock, .inr member, covered⟩

theorem covers_cons (lock : ByteRangeLock) (locks : List ByteRangeLock) (kind : AdvisoryLock)
    (offset : Nat) :
    Covers (lock :: locks) kind offset ↔
      (lock.kind = kind ∧ lock.start ≤ offset ∧ offset < lock.stop) ∨ Covers locks kind offset := by
  simp [Covers]

theorem covers_congr {first second : List ByteRangeLock}
    (same : ∀ lock, lock ∈ first ↔ lock ∈ second) (kind : AdvisoryLock) (offset : Nat) :
    Covers first kind offset ↔ Covers second kind offset := by
  simp only [Covers, same]

/-- Cutting keeps the bytes outside the range. -/
theorem covers_cutLock (start stop : Nat) (lock : ByteRangeLock) (kind : AdvisoryLock)
    (offset : Nat) :
    Covers (cutLock start stop lock) kind offset ↔
      (lock.kind = kind ∧ lock.start ≤ offset ∧ offset < lock.stop) ∧
        ¬ (start ≤ offset ∧ offset < stop) := by
  unfold cutLock
  split
  · rename_i overlap
    simp only [rangesOverlap, Bool.and_eq_true, decide_eq_true_eq] at overlap
    rw [covers_append]
    split <;> split <;> simp [Covers] <;> grind
  · rename_i apart
    simp only [rangesOverlap, Bool.and_eq_true, decide_eq_true_eq, not_and] at apart
    simp [Covers]
    grind

theorem covers_flatMap_cutLock (start stop : Nat) (locks : List ByteRangeLock)
    (kind : AdvisoryLock) (offset : Nat) :
    Covers (locks.flatMap (cutLock start stop)) kind offset ↔
      Covers locks kind offset ∧ ¬ (start ≤ offset ∧ offset < stop) := by
  induction locks with
  | nil => simp [Covers]
  | cons lock rest hypothesis =>
    rw [flatMap_cons, covers_append, covers_cutLock, hypothesis, covers_cons]
    tauto

variable {start stop : Nat} {lock : ByteRangeLock}

theorem wellFormed_cutLock (wellFormed : lock.start < lock.stop ∧ lock.kind ≠ .none) :
    WellFormedLocks (cutLock start stop lock) := by
  intro part member
  unfold cutLock at member
  split at member
  · rcases mem_append.mp member with left | right
    · split at left
      · rename_i before
        obtain rfl := mem_singleton.mp left
        exact ⟨before, wellFormed.2⟩
      · cases left
    · split at right
      · rename_i after
        obtain rfl := mem_singleton.mp right
        exact ⟨after, wellFormed.2⟩
      · cases right
  · obtain rfl := mem_singleton.mp member
    exact wellFormed

theorem wellFormed_flatMap_cutLock {locks : List ByteRangeLock} (start stop : Nat)
    (wellFormed : WellFormedLocks locks) :
    WellFormedLocks (locks.flatMap (cutLock start stop)) := by
  intro part member
  obtain ⟨lock, inLocks, inCut⟩ := mem_flatMap.mp member
  exact wellFormed_cutLock (wellFormed lock inLocks) part inCut

/-- What merging one lock does when there is room for it. -/
def joinLock (merged : List ByteRangeLock) (lock : ByteRangeLock) : List ByteRangeLock :=
  match merged with
  | previous :: earlier =>
    if previous.kind = lock.kind ∧ previous.stop = lock.start then
      { previous with stop := lock.stop } :: earlier
    else lock :: merged
  | [] => [lock]

theorem joinLock_cons (previous lock : ByteRangeLock) (earlier : List ByteRangeLock) :
    joinLock (previous :: earlier) lock =
      if previous.kind = lock.kind ∧ previous.stop = lock.start then
        { previous with stop := lock.stop } :: earlier
      else lock :: previous :: earlier := rfl

variable {merged next : List ByteRangeLock}

theorem eq_joinLock (result : mergeLock merged lock = .ok next) : next = joinLock merged lock := by
  cases merged with
  | nil => exact (Except.ok.inj result).symm
  | cons previous earlier =>
    rw [joinLock_cons]
    unfold mergeLock at result
    dsimp only at result
    split at result
    · rename_i continues
      rw [if_pos continues]
      exact (Except.ok.inj result).symm
    · rename_i starts
      rw [if_neg starts]
      split at result
      · cases result
      · exact (Except.ok.inj result).symm

/-- Merging one lock covers what was covered and what it covers. -/
theorem joinLock_covers (sound : WellFormedLocks merged)
    (wellFormed : lock.start < lock.stop ∧ lock.kind ≠ .none) :
    WellFormedLocks (joinLock merged lock) ∧ ∀ kind offset,
      Covers (joinLock merged lock) kind offset ↔ Covers merged kind offset ∨
          (lock.kind = kind ∧ lock.start ≤ offset ∧ offset < lock.stop) := by
  cases merged with
  | nil =>
    refine ⟨fun other member => ?_, fun kind offset => ?_⟩
    · obtain rfl := mem_singleton.mp member
      exact wellFormed
    · simp [joinLock, Covers]
  | cons previous earlier =>
    have ordered := sound previous mem_cons_self
    rw [joinLock_cons]
    split
    · rename_i continues
      refine ⟨fun other member => ?_, fun kind offset => ?_⟩
      · rcases mem_cons.mp member with rfl | old
        · exact ⟨by simp; omega, ordered.2⟩
        · exact sound other (mem_cons_of_mem _ old)
      · rw [covers_cons, covers_cons]
        grind
    · refine ⟨fun other member => ?_, fun kind offset => ?_⟩
      · rcases mem_cons.mp member with rfl | old
        · exact wellFormed
        · exact sound other old
      · rw [covers_cons, or_comm]

theorem mergeLock_covers (result : mergeLock merged lock = .ok next)
    (sound : WellFormedLocks merged) (wellFormed : lock.start < lock.stop ∧ lock.kind ≠ .none) :
    WellFormedLocks next ∧ ∀ kind offset, Covers next kind offset ↔ Covers merged kind offset ∨
        (lock.kind = kind ∧ lock.start ≤ offset ∧ offset < lock.stop) := by
  rw [eq_joinLock result]
  exact joinLock_covers sound wellFormed

theorem mergeLocks_covers (locks : List ByteRangeLock) {final : List ByteRangeLock}
    (result : mergeLocks merged locks = .ok final) (sound : WellFormedLocks merged)
    (wellFormed : WellFormedLocks locks) :
    WellFormedLocks final ∧ ∀ kind offset, Covers final kind offset ↔
      Covers merged kind offset ∨ Covers locks kind offset := by
  induction locks generalizing merged with
  | nil =>
    cases result
    exact ⟨sound, fun kind offset => by simp [Covers]⟩
  | cons lock rest hypothesis =>
    unfold mergeLocks at result
    rcases step : mergeLock merged lock with failure | next
    · rw [step] at result
      cases result
    · rw [step] at result
      obtain ⟨nextSound, nextCovers⟩ := mergeLock_covers step sound (wellFormed lock mem_cons_self)
      obtain ⟨finalSound, finalCovers⟩ := hypothesis result nextSound
        fun other member => wellFormed other (mem_cons_of_mem _ member)
      refine ⟨finalSound, fun kind offset => ?_⟩
      rw [finalCovers, nextCovers, covers_cons, or_assoc]

/-- Cutting a range out and adding the new lock gives the bytes of the range the new kind. -/
theorem covers_cut_append (current : List ByteRangeLock) (start stop : Nat)
    (replacement kind : AdvisoryLock) (offset : Nat) :
    Covers (current.flatMap (cutLock start stop) ++ replacementLocks start stop replacement)
        kind offset ↔
      if start ≤ offset ∧ offset < stop then replacement = kind ∧ replacement ≠ .none
      else Covers current kind offset := by
  rw [covers_append, covers_flatMap_cutLock]
  have covered : Covers (replacementLocks start stop replacement) kind offset ↔
      (start ≤ offset ∧ offset < stop) ∧ replacement = kind ∧ replacement ≠ .none := by
    unfold replacementLocks
    split
    · simp_all [Covers]
    · simp_all [Covers]
      tauto
  rw [covered]
  split <;> tauto

theorem wellFormed_replacementLocks (nonempty : start < stop)
    (replacement : AdvisoryLock) : WellFormedLocks (replacementLocks start stop replacement) := by
  intro lock member
  unfold replacementLocks at member
  split at member
  · cases member
  · rename_i present
    obtain rfl := mem_singleton.mp member
    exact ⟨nonempty, present⟩

/-- A replacement that succeeds gives the bytes of its range the new kind and leaves the other
bytes alone. -/
theorem replaceByteRangeLocks_covers {current result : List ByteRangeLock}
    {replacement : AdvisoryLock}
    (replaced : replaceByteRangeLocks current start stop replacement = .ok result)
    (nonempty : start < stop) (sound : WellFormedLocks current) :
    WellFormedLocks result ∧ ∀ kind offset, Covers result kind offset ↔
      if start ≤ offset ∧ offset < stop then replacement = kind ∧ replacement ≠ .none
      else Covers current kind offset := by
  simp only [replaceByteRangeLocks] at replaced
  split at replaced
  · rename_i merged mergedResult
    cases replaced
    have newSound := wellFormed_replacementLocks nonempty replacement
    have scratchSound := wellFormed_flatMap_cutLock start stop sound
    obtain ⟨mergedSound, mergedCovers⟩ := mergeLocks_covers _ mergedResult
      (fun lock member => nomatch member) fun lock member => by
        rw [Sorting.mem_insertionSort, mem_append] at member
        exact member.elim (scratchSound lock) (newSound lock)
    refine ⟨fun lock member => mergedSound lock (mem_reverse.mp member), fun kind offset => ?_⟩
    have nothing : ¬ Covers [] kind offset := fun ⟨_, member, _⟩ => nomatch member
    rw [covers_congr (fun lock => mem_reverse), mergedCovers,
      covers_congr (fun lock => Sorting.mem_insertionSort _ _ lock), covers_cut_append]
    exact or_iff_right nothing
  · cases replaced

/-- The replacement of a range by no lock uncovers it. -/
example : replaceByteRangeLocks [⟨0, 10, .exclusive⟩] 3 5 .none =
    .ok [⟨0, 3, .exclusive⟩, ⟨5, 10, .exclusive⟩] := by decide

end ZigOs.RuntimeFd
