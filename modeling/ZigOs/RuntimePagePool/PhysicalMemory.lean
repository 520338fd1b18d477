/-
This file proves what the physical memory manager promises over every sequence
of requests. The manager is taken with its counters, which the refusals change
too. The free extents stay in order with a gap between any two of them, which
makes the search for a free run complete, and their size is the number of free
pages.
-/

import ZigOs.Lib.ApartExtents
import ZigOs.RuntimePagePool.Manager

namespace ZigOs.RuntimePagePool

open Extents List PhysicalMemoryManager

/-- Counters stop at the largest 64-bit number. -/
def countUp (counter step : Nat) : Nat := min (counter + step) (2 ^ 64 - 1)

structure CountedManager extends PhysicalMemoryManager where
  freePages : Nat := 0
  peakAllocatedPages : Nat := 0
  allocations : Nat := 0
  frees : Nat := 0
  failedAllocations : Nat := 0
  invalidFrees : Nat := 0
  doubleFrees : Nat := 0
  metadataFailures : Nat := 0
  deriving DecidableEq, Repr

namespace CountedManager

def appendInitialExtent (manager : CountedManager) (raw : Extent) : Option CountedManager :=
  match manager.toPhysicalMemoryManager.appendInitialExtent raw with
  | none => none
  | some grown => some { manager with
      toPhysicalMemoryManager := grown
      freePages := manager.freePages + (alignBackward raw.stop - alignForward raw.base) / pageBytes }

def appendInitialExtents (manager : CountedManager) : List Extent → Option CountedManager
  | [] => some manager
  | raw :: rest =>
    match manager.appendInitialExtent raw with
    | none => none
    | some grown => grown.appendInitialExtents rest

def initForTesting (extents : List Extent) : Option CountedManager :=
  match appendInitialExtents {} extents with
  | none => none
  | some manager => if manager.totalPages = 0 then none else some manager

def rejectAllocation (manager : CountedManager) : Option Nat × CountedManager :=
  (none, { manager with failedAllocations := countUp manager.failedAllocations 1 })

def allocateContiguousBelow (manager : CountedManager) (pageCount limitExclusive : Nat) :
    Option Nat × CountedManager :=
  match manager.toPhysicalMemoryManager.allocateContiguousBelow pageCount limitExclusive with
  | none => manager.rejectAllocation
  | some (base, after) =>
    let freePages := manager.freePages - pageCount
    (some base, { manager with
      toPhysicalMemoryManager := after
      freePages
      allocations := countUp manager.allocations pageCount
      peakAllocatedPages := max manager.peakAllocatedPages (manager.totalPages - freePages) })

/-- Every refusal is counted by its kind. -/
def reject (manager : CountedManager) : PhysicalMemoryError → CountedManager
  | .invalidAddress => { manager with invalidFrees := countUp manager.invalidFrees 1 }
  | .doubleFree => { manager with doubleFrees := countUp manager.doubleFrees 1 }
  | .metadataExhausted => { manager with metadataFailures := countUp manager.metadataFailures 1 }

def free (manager : CountedManager) (address : Nat) :
    Except PhysicalMemoryError Unit × CountedManager :=
  match manager.toPhysicalMemoryManager.free address with
  | .error error => (.error error, manager.reject error)
  | .ok after => (.ok (), { manager with
      toPhysicalMemoryManager := after
      freePages := manager.freePages + 1
      frees := countUp manager.frees 1 })

inductive Request where
  | allocateContiguousBelow (pageCount limitExclusive : Nat)
  | free (address : Nat)
  deriving DecidableEq, Repr

def answer (manager : CountedManager) : Request → CountedManager
  | .allocateContiguousBelow pageCount limit => (manager.allocateContiguousBelow pageCount limit).2
  | .free address => (manager.free address).2

def answerAll (manager : CountedManager) (requests : List Request) : CountedManager :=
  requests.foldl answer manager

/-! ### The promises -/

/-- A run of free pages that ends by a limit. -/
structure FreeRun (manager : CountedManager) (pageCount limit base : Nat) : Prop where
  nonempty : 0 < pageCount
  aligned : pageBytes ∣ base
  below : base + pageCount * pageBytes ≤ limit
  free : ∀ address, base ≤ address → address < base + pageCount * pageBytes → manager.IsFree address

/-- The first address of a page of managed memory. -/
def ManagedPage (manager : CountedManager) (address : Nat) : Prop :=
  pageBytes ∣ address ∧ manager.IsManaged address

/-- What holds between any two requests, and what the next request does. -/
structure Faithful (manager : CountedManager) : Prop where
  tidy : Tidy pageBytes manager.freeExtents
  apart : Apart manager.freeExtents
  within : ∀ address, manager.IsFree address → manager.IsManaged address
  counted : totalSize manager.freeExtents = manager.freePages * pageBytes
  allocates : ∀ pageCount limit base after,
    manager.allocateContiguousBelow pageCount limit = (some base, after) →
      manager.FreeRun pageCount limit base ∧ after.managed = manager.managed ∧
        ∀ address, after.IsFree address ↔
          manager.IsFree address ∧ ¬ (base ≤ address ∧ address < base + pageCount * pageBytes)
  refuses : ∀ pageCount limit after,
    manager.allocateContiguousBelow pageCount limit = (none, after) →
      (∀ base, ¬ manager.FreeRun pageCount limit base) ∧ after.freeExtents = manager.freeExtents
  invalid : ∀ address,
    (manager.free address).1 = .error .invalidAddress ↔ ¬ manager.ManagedPage address
  double : ∀ address, (manager.free address).1 = .error .doubleFree ↔
    manager.ManagedPage address ∧ manager.IsFree address
  frees : ∀ address, manager.ManagedPage address → ¬ manager.IsFree address →
    (manager.free address).1 = .error .metadataExhausted ∨
      (manager.free address).1 = .ok () ∧ ∀ other, (manager.free address).2.IsFree other ↔
        manager.IsFree other ∨ (address ≤ other ∧ other < address + pageBytes)
  errors : ∀ address error, (manager.free address).1 = .error error →
    (manager.free address).2.freeExtents = manager.freeExtents

/-! ### The invariant -/

/-- The manager is sound, its free extents do not touch, and its free pages are counted. -/
structure Kept (manager : CountedManager) : Prop where
  sound : manager.Sound
  apart : Apart manager.freeExtents
  counted : totalSize manager.freeExtents = manager.freePages * pageBytes

variable {manager after : CountedManager} {pageCount limit base address : Nat}

theorem allocateContiguousBelow_some
    (allocated : manager.allocateContiguousBelow pageCount limit = (some base, after)) :
    ∃ rest, manager.toPhysicalMemoryManager.allocateContiguousBelow pageCount limit =
        some (base, rest) ∧ after.toPhysicalMemoryManager = rest ∧
      after.freePages = manager.freePages - pageCount := by
  unfold allocateContiguousBelow at allocated
  split at allocated
  · cases congrArg Prod.fst allocated
  · rename_i found rest taken
    cases (congrArg Prod.fst allocated)
    obtain rfl := congrArg Prod.snd allocated
    exact ⟨rest, taken, rfl, rfl⟩

theorem allocateContiguousBelow_none
    (refused : manager.allocateContiguousBelow pageCount limit = (none, after)) :
    manager.toPhysicalMemoryManager.allocateContiguousBelow pageCount limit = none ∧
      after = (manager.rejectAllocation).2 := by
  unfold allocateContiguousBelow at refused
  split at refused
  · rename_i missed
    exact ⟨missed, (congrArg Prod.snd refused).symm⟩
  · cases congrArg Prod.fst refused

theorem reject_manager (error : PhysicalMemoryError) :
    (manager.reject error).toPhysicalMemoryManager = manager.toPhysicalMemoryManager ∧
      (manager.reject error).freePages = manager.freePages := by
  cases error <;> exact ⟨rfl, rfl⟩

/-! ### Taking pages -/

theorem takeFirst_of_allocated {manager rest : PhysicalMemoryManager}
    (allocated : manager.allocateContiguousBelow pageCount limit = some (base, rest)) :
    0 < pageCount ∧ pageCount * pageBytes ≤ limit ∧
      takeFirst (pageCount * pageBytes) limit manager.freeExtents = some (base, rest.freeExtents) := by
  unfold PhysicalMemoryManager.allocateContiguousBelow at allocated
  split_ifs at allocated with asked large tooLarge
  split at allocated
  · cases allocated
  · rename_i found left taken
    cases (Option.some.inj allocated)
    exact ⟨Nat.pos_of_ne_zero fun zero => asked (.inl zero), not_lt.mp tooLarge, taken⟩

theorem Kept.allocate (kept : Kept manager)
    (allocated : manager.allocateContiguousBelow pageCount limit = (some base, after)) :
    Kept after ∧ manager.FreeRun pageCount limit base ∧ after.managed = manager.managed ∧
      ∀ address, after.IsFree address ↔
        manager.IsFree address ∧ ¬ (base ≤ address ∧ address < base + pageCount * pageBytes) := by
  obtain ⟨rest, taken, isRest, free⟩ := allocateContiguousBelow_some allocated
  obtain ⟨sound, managed, positive, aligned, covered, gone⟩ := kept.sound.allocate taken
  obtain ⟨-, -, found⟩ := takeFirst_of_allocated taken
  have size : 0 < pageCount * pageBytes := Nat.mul_pos positive (by decide)
  have whole : pageBytes ∣ pageCount * pageBytes := dvd_mul_left _ _
  have spec := takeFirst_taken kept.sound.free size whole found
  have shrinks := takeFirst_size found
  rw [kept.counted] at shrinks
  refine ⟨⟨isRest ▸ sound, ?_, ?_⟩, ⟨positive, aligned, spec.below, fun address lower upper => ?_⟩,
    isRest ▸ managed, fun address => ?_⟩
  · rw [isRest]
    exact takeFirst_apart kept.sound.free size whole kept.apart found
  · rw [isRest, free, Nat.sub_mul]
    omega
  · exact (covered address).mpr (.inr ⟨lower, upper⟩)
  · rw [covered address, isRest]
    constructor
    · exact fun stays => ⟨.inl stays, fun taken => gone address taken.1 taken.2 stays⟩
    · rintro ⟨stays | taken, outside⟩
      · exact stays
      · exact absurd taken outside

theorem Kept.refuse (kept : Kept manager)
    (refused : manager.allocateContiguousBelow pageCount limit = (none, after)) :
    Kept after ∧ (∀ base, ¬ manager.FreeRun pageCount limit base) ∧
      after.freeExtents = manager.freeExtents := by
  obtain ⟨missed, rfl⟩ := allocateContiguousBelow_none refused
  refine ⟨⟨kept.sound, kept.apart, kept.counted⟩, fun base run => ?_, rfl⟩
  have positive := run.nonempty
  have below := run.below
  have size : 0 < pageCount * pageBytes := Nat.mul_pos positive (by decide)
  have page : pageBytes ≤ pageCount * pageBytes := Nat.le_mul_of_pos_left _ positive
  -- The last address of the run is managed, so the size of the run does not overflow.
  have small : pageCount * pageBytes < 2 ^ 64 := by
    obtain ⟨extent, member, covers⟩ := kept.sound.within _
      (run.free (base + pageCount * pageBytes - 1) (by omega) (by omega))
    have bounds := (kept.sound.bounds extent member).2
    have inside := covers.2
    have unit : 0 < pageBytes := by decide
    omega
  unfold PhysicalMemoryManager.allocateContiguousBelow at missed
  rw [if_neg (by omega), if_neg (by omega), if_neg (by omega)] at missed
  split at missed
  · rename_i nothing
    exact takeFirst_complete kept.apart size nothing below run.free
  · cases missed

/-! ### Giving pages back -/

theorem giveBack_of_freed {manager rest : PhysicalMemoryManager}
    (freed : manager.free address = .ok rest) :
    giveBack maximumPhysicalExtents address (address + pageBytes) manager.freeExtents =
      some rest.freeExtents := by
  unfold PhysicalMemoryManager.free at freed
  split_ifs at freed
  split at freed
  · cases freed
  · rename_i left given
    rw [given, ← Except.ok.inj freed]

theorem free_of_ok (freed : (manager.free address).1 = .ok ()) :
    ∃ rest, manager.toPhysicalMemoryManager.free address = .ok rest ∧
      (manager.free address).2.toPhysicalMemoryManager = rest ∧
      (manager.free address).2.freePages = manager.freePages + 1 := by
  unfold CountedManager.free at freed ⊢
  split at freed
  · cases freed
  · rename_i rest accepted
    exact ⟨rest, accepted, rfl, rfl⟩

theorem free_error_iff {error : PhysicalMemoryError} : (manager.free address).1 = .error error ↔
    manager.toPhysicalMemoryManager.free address = .error error := by
  unfold CountedManager.free
  split <;> rename_i outcome <;> simp [outcome]

theorem free_of_error {error : PhysicalMemoryError} (refused : (manager.free address).1 = .error error) :
    (manager.free address).2 = manager.reject error := by
  rw [free_error_iff] at refused
  rw [CountedManager.free, refused]

theorem Kept.free_ok (kept : Kept manager) (freed : (manager.free address).1 = .ok ()) :
    Kept (manager.free address).2 ∧ ∀ other, (manager.free address).2.IsFree other ↔
      manager.IsFree other ∨ (address ≤ other ∧ other < address + pageBytes) := by
  obtain ⟨rest, accepted, isRest, free⟩ := free_of_ok freed
  obtain ⟨sound, -, multiple, uncovered, covered⟩ := kept.sound.free_ok accepted
  have given := giveBack_of_freed accepted
  refine ⟨⟨isRest ▸ sound, ?_, ?_⟩, isRest ▸ covered⟩
  · rw [isRest]
    exact giveBack_apart kept.sound.free (by decide) multiple uncovered kept.apart given
  · rw [isRest, free, giveBack_size kept.sound.free (by decide) given, kept.counted, Nat.succ_mul]

theorem Kept.reject (kept : Kept manager) (error : PhysicalMemoryError) :
    Kept (manager.reject error) := by
  obtain ⟨same, free⟩ := @reject_manager manager error
  exact ⟨same ▸ kept.sound, same ▸ kept.apart, by rw [same, free]; exact kept.counted⟩

/-- The errors of a free say what the address is. -/
theorem Kept.free_cases (kept : Kept manager) (address : Nat) : (¬ manager.ManagedPage address ∧
        manager.toPhysicalMemoryManager.free address = .error .invalidAddress) ∨
      (manager.ManagedPage address ∧ manager.IsFree address ∧
        manager.toPhysicalMemoryManager.free address = .error .doubleFree) ∨
      (manager.ManagedPage address ∧ ¬ manager.IsFree address ∧
        (manager.toPhysicalMemoryManager.free address = .error .metadataExhausted ∨
          ∃ rest, manager.toPhysicalMemoryManager.free address = .ok rest)) := by
  by_cases page : manager.ManagedPage address
  · obtain ⟨multiple, extent, member, covers⟩ := page
    have wellFormed : ¬ (address = 0 ∨ address % pageBytes ≠ 0 ∨ address > 2 ^ 64 - 1 - pageBytes) := by
      obtain ⟨low, high⟩ := kept.sound.bounds extent member
      have inside := (kept.sound.managed.aligned extent member).unit_le multiple covers
      have start := covers.1
      have aligned := Nat.mod_eq_zero_of_dvd multiple
      unfold minimumAllocatableAddress pageBytes at *
      omega
    have managed : manager.IsManaged address := ⟨extent, member, covers⟩
    refine .inr ?_
    rw [PhysicalMemoryManager.free, if_neg wellFormed,
      if_neg (by rw [kept.sound.containsManaged multiple managed]; decide)]
    by_cases isFree : manager.IsFree address
    · exact .inl ⟨⟨multiple, managed⟩, isFree,
        if_pos ((containsFree_iff kept.sound.free multiple).mpr isFree)⟩
    · refine .inr ⟨⟨multiple, managed⟩, isFree, ?_⟩
      rw [if_neg fun found => isFree
        ((containsFree_iff kept.sound.free multiple).mp found)]
      split
      · exact .inl rfl
      · exact .inr ⟨_, rfl⟩
  · refine .inl ⟨page, ?_⟩
    unfold PhysicalMemoryManager.free
    split
    · rfl
    · rename_i wellFormed
      refine if_pos (Bool.eq_false_iff.mpr fun contains => page ?_)
      obtain ⟨extent, member, inside⟩ := any_eq_true.mp contains
      simp only [ge_iff_le, decide_eq_true_eq] at inside
      refine ⟨Nat.dvd_of_mod_eq_zero (by omega), extent, member, inside.1, ?_⟩
      have size : 0 < pageBytes := by decide
      omega

theorem Kept.faithful (kept : Kept manager) : Faithful manager where
  tidy := kept.sound.free
  apart := kept.apart
  within := kept.sound.within
  counted := kept.counted
  allocates := fun _ _ _ _ allocated => (kept.allocate allocated).2
  refuses := fun _ _ _ refused => (kept.refuse refused).2
  invalid := fun address => by
    rw [free_error_iff]
    rcases kept.free_cases address with ⟨page, outcome⟩ | ⟨page, isFree, outcome⟩ |
      ⟨page, isFree, outcome | ⟨rest, outcome⟩⟩ <;> simp [outcome, page]
  double := fun address => by
    rw [free_error_iff]
    rcases kept.free_cases address with ⟨page, outcome⟩ | ⟨page, isFree, outcome⟩ |
      ⟨page, isFree, outcome | ⟨rest, outcome⟩⟩ <;> simp_all
  frees := fun address page held => by
    rcases kept.free_cases address with ⟨other, -⟩ | ⟨-, isFree, -⟩ | ⟨-, -, full | ⟨rest, accepted⟩⟩
    · exact absurd page other
    · exact absurd isFree held
    · exact .inl (free_error_iff.mpr full)
    · have freed : (manager.free address).1 = .ok () := by rw [CountedManager.free, accepted]
      exact .inr ⟨freed, (kept.free_ok freed).2⟩
  errors := fun address error refused => by rw [free_of_error refused, (reject_manager error).1]

/-! ### Building the manager -/

/-- An extent is added behind a gap, or merged with the last one. -/
theorem appendInitialExtent_managed {manager grown : PhysicalMemoryManager} {raw : Extent}
    (appended : manager.appendInitialExtent raw = some grown) :
    alignForward raw.base < alignBackward raw.stop ∧
      (((∀ last ∈ manager.managed.getLast?, last.stop < alignForward raw.base) ∧
          grown.managed = manager.managed ++ [⟨alignForward raw.base, alignBackward raw.stop⟩]) ∨
        ∃ front last, manager.managed = front ++ [last] ∧ last.stop = alignForward raw.base ∧
          grown.managed = front ++ [⟨last.base, alignBackward raw.stop⟩]) := by
  unfold PhysicalMemoryManager.appendInitialExtent at appended
  dsimp only at appended
  split_ifs at appended with refused
  refine ⟨not_le.mp (not_or.mp refused).2, ?_⟩
  split at appended
  · rename_i empty
    cases appended
    exact .inl ⟨fun last isLast => (by rw [empty] at isLast; cases isLast), rfl⟩
  · rename_i last isLast
    split_ifs at appended with above touches
    · cases appended
      obtain ⟨front, split⟩ := getLast?_eq_some_iff.mp isLast
      refine .inr ⟨front, last, split, touches, ?_⟩
      dsimp only
      rw [split, extendLast_concat]
    · cases appended
      refine .inl ⟨fun other isOther => ?_, rfl⟩
      cases (isLast.symm.trans isOther)
      exact lt_of_le_of_ne (not_lt.mp above) touches

/-- A manager that has handed nothing out, with gaps and with its pages counted. -/
structure Fresh (manager : CountedManager) : Prop where
  untouched : manager.Untouched
  apart : Apart manager.managed
  counted : totalSize manager.managed = manager.freePages * pageBytes

theorem Fresh.kept (fresh : Fresh manager) : Kept manager :=
  ⟨fresh.untouched.sound, fresh.untouched.whole ▸ fresh.apart, fresh.untouched.whole ▸ fresh.counted⟩

theorem Fresh.append {raw : Extent} (fresh : Fresh manager) (small : raw.stop < 2 ^ 64)
    (appended : manager.appendInitialExtent raw = some after) : Fresh after := by
  unfold CountedManager.appendInitialExtent at appended
  split at appended
  · cases appended
  · rename_i grown added
    cases appended
    obtain ⟨nonempty, shape⟩ := appendInitialExtent_managed added
    have tidy := fresh.untouched.tidy
    have whole : (alignBackward raw.stop - alignForward raw.base) / pageBytes * pageBytes =
        alignBackward raw.stop - alignForward raw.base :=
      Nat.div_mul_cancel (Nat.dvd_sub (dvd_mul_left _ _) (dvd_mul_left _ _))
    have before := fresh.counted
    refine ⟨fresh.untouched.append small added, ?_, ?_⟩
    · rcases shape with ⟨gap, managed⟩ | ⟨front, last, split, touches, managed⟩
      · have upTo : ∀ extent ∈ manager.managed, extent.stop < alignForward raw.base := by
          intro extent member
          rcases eq_nil_or_concat' manager.managed with empty | ⟨front, last, split⟩
          · rw [empty] at member
            cases member
          · have ends : last.stop < alignForward raw.base := gap last (by simp [split])
            refine stop_lt_of_last tidy (fun other isOther => ?_) (fun other isLast => ?_) member
            · rw [split] at isOther tidy
              obtain ⟨-, tidyLast, ordered⟩ := tidy_append.mp tidy
              rcases mem_append.mp isOther with early | late
              · exact (ordered other early last mem_cons_self).trans
                  ((tidy_cons.mp tidyLast).1.nonempty.trans ends).le
              · rw [mem_singleton.mp late]
                exact ends.le
            · exact (gap other isLast).ne
        dsimp only
        rw [managed]
        exact apart_between fresh.apart nonempty List.Pairwise.nil upTo nofun
      · have apart := fresh.apart
        rw [split] at apart tidy
        obtain ⟨apartFront, -, upTo⟩ := apart_append.mp apart
        have startsBelow := (tidy_cons.mp (tidy_append.mp tidy).2.1).1.nonempty
        dsimp only
        rw [managed]
        exact apart_between apartFront (by dsimp only; omega) List.Pairwise.nil
          (fun earlier member => upTo earlier member last mem_cons_self) nofun
    · dsimp only
      rcases shape with ⟨gap, managed⟩ | ⟨front, last, split, touches, managed⟩
      · rw [managed, totalSize_append, totalSize_cons, totalSize_nil, before, Nat.add_mul, whole,
          Nat.add_zero]
      · rw [split] at before tidy
        have startsBelow := (tidy_cons.mp (tidy_append.mp tidy).2.1).1.nonempty
        rw [managed, Nat.add_mul, whole, ← before]
        simp only [totalSize_append, totalSize_cons, totalSize_nil]
        omega

theorem Fresh.appends {extents : List Extent} (fresh : Fresh manager)
    (small : ∀ raw ∈ extents, raw.stop < 2 ^ 64)
    (appended : manager.appendInitialExtents extents = some after) : Fresh after := by
  induction extents generalizing manager with
  | nil => exact Option.some.inj appended ▸ fresh
  | cons raw rest hypothesis =>
    unfold CountedManager.appendInitialExtents at appended
    split at appended
    · cases appended
    · rename_i middle first
      exact hypothesis (fresh.append (small raw mem_cons_self) first)
        (fun other member => small other (mem_cons_of_mem _ member)) appended

theorem initForTesting_fresh {extents : List Extent} (small : ∀ raw ∈ extents, raw.stop < 2 ^ 64)
    (built : initForTesting extents = some manager) : Fresh manager := by
  have empty : Fresh {} := ⟨⟨rfl, tidy_nil, Nat.zero_le _, nofun⟩, List.Pairwise.nil, rfl⟩
  unfold initForTesting at built
  split at built
  · cases built
  · rename_i grown appended
    split_ifs at built
    exact Option.some.inj built ▸ empty.appends small appended

/-! ### Every sequence of requests -/

theorem Kept.answer (kept : Kept manager) (request : Request) : Kept (manager.answer request) := by
  cases request with
  | allocateContiguousBelow pageCount limit =>
    rcases outcome : manager.allocateContiguousBelow pageCount limit with ⟨found, after⟩
    rw [CountedManager.answer, outcome]
    cases found with
    | none => exact (kept.refuse outcome).1
    | some base => exact (kept.allocate outcome).1
  | free address =>
    rcases outcome : (manager.free address).1 with error | ⟨⟩
    · rw [CountedManager.answer, free_of_error outcome]
      exact kept.reject error
    · exact (kept.free_ok outcome).1

theorem Kept.answerAll (kept : Kept manager) (requests : List Request) :
    Kept (manager.answerAll requests) := by
  induction requests generalizing manager with
  | nil => exact kept
  | cons request rest hypothesis => exact hypothesis (kept.answer request)

/-- A manager over any extents keeps its promises through every sequence of requests. -/
theorem answerAll_faithful {extents : List Extent} (small : ∀ raw ∈ extents, raw.stop < 2 ^ 64)
    (built : initForTesting extents = some manager) (requests : List Request) :
    Faithful (manager.answerAll requests) :=
  ((initForTesting_fresh small built).kept.answerAll requests).faithful

/-- Three of four pages are taken and the middle one comes back, so that no two touch. -/
theorem fourPages_faithful :
    Faithful (answerAll (⟨⟨[⟨0x100000, 0x104000⟩], [⟨0x100000, 0x104000⟩], 4⟩, 4, 0, 0, 0, 0, 0, 0, 0⟩ :
        CountedManager)
      [.allocateContiguousBelow 3 0x200000, .free 0x101000, .free 0x101000]) :=
  @answerAll_faithful _ [⟨0x100000, 0x104000⟩] (by decide) (by decide) _

/-- Memory that is free again is as if it had never been taken: after any requests, the free extents
and their number of pages depend on nothing but which addresses are free. -/
theorem answerAll_canonical {extents : List Extent} (small : ∀ raw ∈ extents, raw.stop < 2 ^ 64)
    (built : initForTesting extents = some manager) (first second : List Request)
    (same : ∀ address, (manager.answerAll first).IsFree address ↔
      (manager.answerAll second).IsFree address) :
    (manager.answerAll first).freeExtents = (manager.answerAll second).freeExtents ∧
      (manager.answerAll first).freePages = (manager.answerAll second).freePages := by
  have kept := (initForTesting_fresh small built).kept.answerAll first
  have other := (initForTesting_fresh small built).kept.answerAll second
  have extentsSame := kept.apart.unique kept.faithful.tidy other.apart other.faithful.tidy same
  refine ⟨extentsSame, Nat.eq_of_mul_eq_mul_right (by decide : 0 < pageBytes) ?_⟩
  rw [← kept.counted, ← other.counted, extentsSame]

/-- Three pages are given back one by one in any order, and one run is left. -/
theorem fourPages_canonical : ∃ manager, initForTesting [⟨0x100000, 0x104000⟩] = some manager ∧
    (manager.answerAll [.allocateContiguousBelow 3 0x200000, .free 0x101000, .free 0x100000,
      .free 0x102000]).freeExtents = manager.freeExtents :=
  ⟨_, rfl, (@answerAll_canonical _ [⟨0x100000, 0x104000⟩] (by decide) rfl _ []
    fun address => iff_of_eq (congrArg (Covered · address) (by decide))).1⟩

end CountedManager

end ZigOs.RuntimePagePool
