/-
This file says what a request for an advisory lock comes to. While the books
balance the search for a conflict never fails, so it answers whether another
description on the same inode holds what the request excludes. Every request
then ends in one of a few ways: nothing changes, locks are given up and the
sleepers of the inode are awake, locks are granted that no other description
excludes, or the caller has given up what it held and sleeps.
-/

import ZigOs.RuntimeFd.Calls

namespace ZigOs.RuntimeFd

open Scan RuntimeProcess RuntimeVfs Call List System OpenDescription

/-! ### Conflicts -/

/-- Another description on the inode holds a whole-file lock that excludes the request. -/
def AdvisoryConflict (kernel : Kernel) (owner : Nat) (target : Nat × Nat)
    (requested : AdvisoryLock) : Prop :=
  ∃ other < maximumOpenDescriptions, other ≠ owner ∧ kernel.inodeOf other = some target ∧
    (kernel.system.openDescriptions other).advisoryLock ≠ .none ∧
    (requested = .exclusive ∨ (kernel.system.openDescriptions other).advisoryLock = .exclusive)

/-- Another description on the inode holds a range lock that excludes the request. -/
def RangeConflict (kernel : Kernel) (owner : Nat) (target : Nat × Nat) (start stop : Nat)
    (requested : AdvisoryLock) : Prop :=
  ∃ other < maximumOpenDescriptions, other ≠ owner ∧ kernel.inodeOf other = some target ∧
    rangeExcluded (kernel.system.openDescriptions other).byteRangeLocks start stop
      requested = true

variable {kernel : Kernel} {index : Nat}

/-- A description of the filesystem has an inode while the books balance. -/
theorem Conserved.inodeOf_some (sound : Conserved kernel) (below : index < maximumOpenDescriptions)
    (used : (kernel.system.openDescriptions index).used = true)
    (kindOf : (kernel.system.openDescriptions index).kind = .vfs) :
    ∃ info, kernel.vfs.openInfo (kernel.system.openDescriptions index).vfsOwner
        (kernel.system.openDescriptions index).vfsHandle = .ok info ∧
      kernel.inodeOf index = some (info.node, info.nodeGeneration) := by
  have holds : (kernel.system.openDescriptions index).holdsHandle = true := by
    simp [holdsHandle, kindOf]
  obtain ⟨-, target, found⟩ := sound.handles index below used holds
  obtain ⟨info, result, same⟩ := Vfs.openInfo_of_inode found
  refine ⟨info, result, ?_⟩
  rw [Kernel.inodeOf, if_pos ⟨used, kindOf⟩, found, same]

variable {target : Nat × Nat}

theorem inodeOf_isVfs (inode : kernel.inodeOf index = some target) :
    (kernel.system.openDescriptions index).used = true ∧
      (kernel.system.openDescriptions index).kind = .vfs := by
  unfold Kernel.inodeOf at inode
  split at inode
  · assumption
  · cases inode

/-- The search answers whether some description in the list conflicts. -/
theorem conflictsAmong_spec (sound : Conserved kernel) (owner node generation : Nat)
    (holds excludes : OpenDescription → Bool) (indices : List Nat)
    (below : ∀ index ∈ indices, index < maximumOpenDescriptions) :
    ∃ answer, kernel.system.conflictsAmong kernel.vfs owner node generation holds excludes
        indices = .ok answer ∧
      (answer = true ↔ ∃ other ∈ indices, other ≠ owner ∧
        kernel.inodeOf other = some (node, generation) ∧
        holds (kernel.system.openDescriptions other) = true ∧
        excludes (kernel.system.openDescriptions other) = true) := by
  induction indices with
  | nil => exact ⟨false, rfl, by simp⟩
  | cons index rest hypothesis =>
    obtain ⟨answer, result, meaning⟩ :=
      hypothesis fun other member => below other (mem_cons_of_mem _ member)
    simp only [conflictsAmong, mem_cons, exists_eq_or_imp]
    split
    · rename_i skipped
      refine ⟨answer, result, meaning.trans (or_iff_right ?_).symm⟩
      rintro ⟨different, inode, held, -⟩
      obtain ⟨used, kindOf⟩ := inodeOf_isVfs inode
      rcases skipped with same | unused | otherKind | free
      · exact different same
      · cases used.symm.trans unused
      · exact otherKind kindOf
      · cases held.symm.trans free
    · rename_i present
      simp only [not_or, Bool.not_eq_false, not_not] at present
      obtain ⟨different, used, kindOf, held⟩ := present
      obtain ⟨info, found, inode⟩ := sound.inodeOf_some (below index mem_cons_self) used kindOf
      rw [found]
      dsimp only
      split
      · rename_i conflict
        refine ⟨true, rfl, iff_of_true rfl (.inl ⟨different, ?_, held, conflict.2⟩)⟩
        rw [inode, conflict.1.1, conflict.1.2]
      · rename_i harmless
        refine ⟨answer, result, meaning.trans (or_iff_right ?_).symm⟩
        rintro ⟨-, located, -, excluded⟩
        rw [inode] at located
        obtain ⟨sameNode, sameGeneration⟩ := Prod.mk.inj (Option.some.inj located)
        exact harmless ⟨⟨sameNode, sameGeneration⟩, excluded⟩

theorem advisoryLockConflicts_spec (sound : Conserved kernel) (owner node generation : Nat)
    (requested : AdvisoryLock) :
    ∃ answer, kernel.system.advisoryLockConflicts kernel.vfs owner node generation requested =
        .ok answer ∧
      (answer = true ↔ AdvisoryConflict kernel owner (node, generation) requested) := by
  simpa [AdvisoryConflict, advisoryLockConflicts] using
    conflictsAmong_spec sound owner node generation (fun other => other.advisoryLock != .none)
      (fun other => requested == .exclusive || other.advisoryLock == .exclusive)
      (List.range maximumOpenDescriptions) fun _ member => mem_range.mp member

theorem byteRangeLockConflicts_spec (sound : Conserved kernel)
    (owner node generation start stop : Nat) (requested : AdvisoryLock) :
    ∃ answer, kernel.system.byteRangeLockConflicts kernel.vfs owner node generation start stop
        requested = .ok answer ∧
      (answer = true ↔ RangeConflict kernel owner (node, generation) start stop requested) := by
  obtain ⟨answer, result, meaning⟩ :=
    conflictsAmong_spec sound owner node generation (fun other => other.byteRangeLocks != [])
      (fun other => rangeExcluded other.byteRangeLocks start stop requested)
      (List.range maximumOpenDescriptions) fun _ member => mem_range.mp member
  refine ⟨answer, result, meaning.trans ?_⟩
  simp only [mem_range, bne_iff_ne]
  refine exists_congr fun other => and_congr_right fun _ => and_congr_right fun _ =>
    and_congr_right fun _ => and_iff_right_of_imp fun excluded empty => ?_
  rw [empty] at excluded
  cases excluded

variable {locks : List ByteRangeLock} {start stop : Nat} {requested : AdvisoryLock}

/-- A range lock excludes a request when they share a byte and one of them is exclusive. -/
theorem rangeExcluded_of_covers {offset : Nat} {kind : AdvisoryLock}
    (inside : start ≤ offset ∧ offset < stop) (covered : Covers locks kind offset)
    (excludes : requested = .exclusive ∨ kind = .exclusive) :
    rangeExcluded locks start stop requested = true := by
  obtain ⟨lock, member, rfl, from_start, below_stop⟩ := covered
  refine any_eq_true.mpr ⟨lock, member, ?_⟩
  have overlaps : rangesOverlap start stop lock.start lock.stop = true := by
    simp only [rangesOverlap, Bool.and_eq_true, decide_eq_true_eq]
    omega
  simpa [overlaps] using excludes

theorem covers_of_rangeExcluded (nonempty : start < stop) (wellFormed : WellFormedLocks locks)
    (excluded : rangeExcluded locks start stop requested = true) :
    ∃ offset kind, (start ≤ offset ∧ offset < stop) ∧ Covers locks kind offset ∧
      (requested = .exclusive ∨ kind = .exclusive) := by
  obtain ⟨lock, member, excludes⟩ := any_eq_true.mp excluded
  simp only [rangesOverlap, Bool.and_eq_true, decide_eq_true_eq, Bool.or_eq_true, beq_iff_eq]
    at excludes
  have ordered := (wellFormed lock member).1
  exact ⟨max start lock.start, lock.kind, by omega, ⟨lock, member, rfl, by omega, by omega⟩,
    excludes.2⟩

/-! ### What a request ends in -/

/-- The caller's descriptor names a description that is open on an inode. -/
structure LockedOn (kernel : Kernel) (handle fd slot index : Nat) (target : Nat × Nat) : Prop where
  located : kernel.system.resolveNamespace handle = .ok slot
  resolved : kernel.system.resolveDescriptor slot fd = .ok index
  inode : kernel.inodeOf index = some target

/-- These locks are at most the ones the description holds. -/
structure Loosens (description : OpenDescription) (advisory : AdvisoryLock)
    (ranges : List ByteRangeLock) : Prop where
  wellFormed : WellFormedLocks ranges
  held : advisory ≠ .none → description.advisoryLock ≠ .none
  exclusive : advisory = .exclusive → description.advisoryLock = .exclusive
  covers : ∀ kind offset, Covers ranges kind offset →
    Covers description.byteRangeLocks kind offset

/-- The locks of one description replaced. -/
def Kernel.relocked (kernel : Kernel) (index : Nat) (advisory : AdvisoryLock)
    (ranges : List ByteRangeLock) : System :=
  kernel.system.modifyDescription index (withLocks · advisory ranges)

/-- How a request for a lock can end; `asked` is the range and the lock asked for it, if any. -/
inductive LockOutcome (kernel : Kernel) (handle fd : Nat)
    (asked : Option (Nat × Nat × AdvisoryLock)) (nonblocking : Bool) :
    Except Error LockResult → Kernel → Prop
  /-- Nothing happened. -/
  | unchanged (result : Except Error LockResult) :
      LockOutcome kernel handle fd asked nonblocking result kernel
  /-- The caller could not be put to sleep, and has its locks back. -/
  | restored (failure : Error) {processes : Table} (calm : Calm kernel.processes processes) :
      LockOutcome kernel handle fd asked nonblocking (.error failure) { kernel with processes }
  /-- Locks were given up and nobody sleeps on the inode. -/
  | loosened {slot index : Nat} {target : Nat × Nat} {advisory : AdvisoryLock}
      {ranges : List ByteRangeLock} {processes : Table}
      (on : LockedOn kernel handle fd slot index target)
      (loosens : WellFormedLocks (kernel.system.openDescriptions index).byteRangeLocks →
        Loosens (kernel.system.openDescriptions index) advisory ranges)
      (calm : Calm kernel.processes processes)
      (awake : Nobody processes .fileLock (fileLockWaitKey target.1 target.2)) :
      LockOutcome kernel handle fd asked nonblocking (.ok .acquired)
        { kernel with system := kernel.relocked index advisory ranges, processes }
  /-- A whole-file lock was granted. -/
  | granted {slot index : Nat} {target : Nat × Nat} {requested : AdvisoryLock}
      (on : LockedOn kernel handle fd slot index target) (wanted : requested ≠ .none)
      (stronger : (kernel.system.openDescriptions index).advisoryLock = .exclusive →
        requested = .exclusive)
      (free : ¬ AdvisoryConflict kernel index target requested) :
      LockOutcome kernel handle fd asked nonblocking (.ok .acquired) { kernel with
          system := kernel.relocked index requested
            (kernel.system.openDescriptions index).byteRangeLocks }
  /-- A range lock was granted. -/
  | rangeGranted {slot index start stop : Nat} {target : Nat × Nat} {requested : AdvisoryLock}
      {ranges : List ByteRangeLock} (on : LockedOn kernel handle fd slot index target)
      (request : asked = some (start, stop, requested)) (nonempty : start < stop)
      (wanted : requested ≠ .none)
      (free : ¬ RangeConflict kernel index target start stop requested)
      (replaced : replaceByteRangeLocks (kernel.system.openDescriptions index).byteRangeLocks
        start stop requested = .ok ranges) :
      LockOutcome kernel handle fd asked nonblocking (.ok .acquired) { kernel with
          system := kernel.relocked index
            (kernel.system.openDescriptions index).advisoryLock ranges }
  /-- Locks were given up, everybody else on the inode is awake, and the caller sleeps. -/
  | slept {slot index : Nat} {target : Nat × Nat} {advisory : AdvisoryLock}
      {ranges : List ByteRangeLock} {woken processes : Table} (blocking : nonblocking = false)
      (on : LockedOn kernel handle fd slot index target)
      (loosens : WellFormedLocks (kernel.system.openDescriptions index).byteRangeLocks →
        Loosens (kernel.system.openDescriptions index) advisory ranges)
      (calm : Calm kernel.processes woken)
      (awake : Nobody woken .fileLock (fileLockWaitKey target.1 target.2) ∨
        (WellFormedLocks (kernel.system.openDescriptions index).byteRangeLocks →
          Loosens ((kernel.system.openDescriptions index).withLocks advisory ranges)
            (kernel.system.openDescriptions index).advisoryLock
            (kernel.system.openDescriptions index).byteRangeLocks))
      (sleeps : Table.block handle .fileLock (fileLockWaitKey target.1 target.2) woken =
        (.ok (), processes)) :
      LockOutcome kernel handle fd asked nonblocking (.ok .blocked)
        { kernel with system := kernel.relocked index advisory ranges, processes }

theorem Loosens.refl {description : OpenDescription}
    (wellFormed : WellFormedLocks description.byteRangeLocks) :
    Loosens description description.advisoryLock description.byteRangeLocks :=
  ⟨wellFormed, id, id, fun _ _ covered => covered⟩

variable {description : OpenDescription} {advisory : AdvisoryLock}

theorem loosens_advisory (wellFormed : WellFormedLocks description.byteRangeLocks)
    (held : advisory ≠ .none → description.advisoryLock ≠ .none)
    (exclusive : advisory = .exclusive → description.advisoryLock = .exclusive) :
    Loosens description advisory description.byteRangeLocks :=
  ⟨wellFormed, held, exclusive, fun _ _ covered => covered⟩

variable {ranges : List ByteRangeLock}

/-- Uncovering a range loosens. -/
theorem loosens_uncover (nonempty : start < stop)
    (wellFormed : WellFormedLocks description.byteRangeLocks)
    (replaced : replaceByteRangeLocks description.byteRangeLocks start stop .none = .ok ranges) :
    Loosens description description.advisoryLock ranges := by
  obtain ⟨sound, covers⟩ := replaceByteRangeLocks_covers replaced nonempty wellFormed
  refine ⟨sound, id, id, fun kind offset covered => ?_⟩
  rw [covers] at covered
  split at covered
  · exact absurd rfl covered.2
  · exact covered

/-- Uncovering a range that no lock touches changes nothing. -/
theorem loosens_untouched (nonempty : start < stop)
    (wellFormed : WellFormedLocks description.byteRangeLocks)
    (replaced : replaceByteRangeLocks description.byteRangeLocks start stop .none = .ok ranges)
    (apart : byteRangeLocksOverlap description.byteRangeLocks start stop = false) :
    Loosens (description.withLocks description.advisoryLock ranges) description.advisoryLock
      description.byteRangeLocks := by
  obtain ⟨sound, covers⟩ := replaceByteRangeLocks_covers replaced nonempty wellFormed
  refine ⟨wellFormed, id, id, fun kind offset covered => ?_⟩
  change Covers ranges kind offset
  rw [covers]
  split
  · rename_i inside
    obtain ⟨lock, member, -, from_start, below_stop⟩ := covered
    have none_overlaps := any_eq_false.mp apart lock member
    simp only [rangesOverlap, Bool.and_eq_true, decide_eq_true_eq] at none_overlaps
    omega
  · exact covered

namespace Kernel

variable {kernel : Kernel} {Value : Type}

variable {handle : Nat}

theorem yields_caller {post : Except Error Value → Kernel → Prop}
    {next : Process × Nat → KernelCall Value}
    (fails : ∀ failure, kernel.processes.get handle = .error failure ∨
      kernel.system.resolveNamespace handle = .error failure → post (.error failure) kernel)
    (rest : ∀ process slot, kernel.processes.get handle = .ok process →
      kernel.system.resolveNamespace handle = .ok slot →
        Yields post kernel (next (process, slot))) :
    Yields post kernel (caller handle >>= next) := by
  unfold Yields
  rw [bind_apply]
  simp only [caller, bind_state]
  cases found : kernel.processes.get handle with
  | error failure => exact fails failure (.inl found)
  | ok process =>
    rw [bind_lift_ok]
    cases located : kernel.system.resolveNamespace handle with
    | error failure => exact fails failure (.inr located)
    | ok slot => exact rest process slot found located

/-- The description a lock is asked for is open on an inode. -/
theorem yields_lockTarget {post : Except Error Value → Kernel → Prop} {fd slot : Nat}
    {next : Nat × Vfs.OpenInfo → KernelCall Value}
    (located : kernel.system.resolveNamespace handle = .ok slot)
    (fails : ∀ failure, post (.error failure) kernel)
    (rest : ∀ index info, LockedOn kernel handle fd slot index (info.node, info.nodeGeneration) →
      Yields post kernel (next (index, info))) :
    Yields post kernel (lockTarget slot fd >>= next) := by
  unfold Yields
  rw [bind_apply]
  simp only [lockTarget, bind_state]
  cases resolved : kernel.system.resolveDescriptor slot fd with
  | error failure => exact fails failure
  | ok index =>
    rw [bind_lift_ok, bind_failWhen]
    obtain ⟨-, -, -, -, used⟩ := resolveDescriptor_ok resolved
    by_cases kindOf : (kernel.system.openDescriptions index).kind ≠ .vfs
    · rw [if_pos kindOf]
      exact fails _
    · rw [if_neg kindOf]
      cases found : kernel.vfs.openInfo (kernel.system.openDescriptions index).vfsOwner
          (kernel.system.openDescriptions index).vfsHandle with
      | error failure => exact fails failure
      | ok info =>
        rw [bind_lift_ok]
        cases kernel.vfs.statNode info.node with
        | error failure => exact fails failure
        | ok nodeStat =>
          rw [bind_lift_ok, bind_failWhen]
          by_cases other : nodeStat.kind ≠ .file ∨ nodeStat.generation ≠ info.nodeGeneration
          · rw [if_pos other]
            exact fails _
          · rw [if_neg other]
            refine rest index info ⟨located, resolved, ?_⟩
            rw [inodeOf, if_pos ⟨used, not_not.mp kindOf⟩]
            exact Vfs.inode_of_openInfo found

theorem yields_wakeAll {post : Except Error Value → Kernel → Prop} {reason : WaitReason}
    {target : Nat} {next : Nat → KernelCall Value}
    (rest : Yields post
      { kernel with processes := (kernel.processes.wakeMatching reason target true).2 }
      (next (kernel.processes.wakeMatching reason target true).1)) :
    Yields post kernel (wakeAll reason target >>= next) := rest

/-- A caller that cannot sleep gets its locks back. -/
theorem yields_blockOnLock {post : Except Error LockResult → Kernel → Prop} {key : Nat}
    {restore : KernelCall Unit}
    (slept : ∀ processes, Table.block handle .fileLock key kernel.processes = (.ok (), processes) →
      post (.ok .blocked) { kernel with processes })
    (restored : ∀ failure, Yields post kernel (do restore; fail failure)) :
    Yields post kernel (blockOnLock handle key restore) := by
  refine yields_attempt ?_
  have outcome := block_apply handle .fileLock key kernel.processes (by simp)
  rcases blocked : Table.block handle .fileLock key kernel.processes with ⟨failure | _, processes⟩
  · have same : processes = kernel.processes := by
      rw [blocked] at outcome
      split at outcome
      · exact (Prod.mk.inj outcome).2
      · split at outcome
        · exact (Prod.mk.inj outcome).2
        · cases outcome
    subst same
    simp only [inProcesses, within_apply, blocked]
    exact restored failure
  · simp only [inProcesses, within_apply, blocked]
    exact slept processes blocked

theorem relocked_self (kernel : Kernel) (index : Nat) :
    kernel.relocked index (kernel.system.openDescriptions index).advisoryLock
      (kernel.system.openDescriptions index).byteRangeLocks = kernel.system := by
  have same : (kernel.system.openDescriptions index).withLocks
      (kernel.system.openDescriptions index).advisoryLock
      (kernel.system.openDescriptions index).byteRangeLocks =
      kernel.system.openDescriptions index := rfl
  simp [relocked, modifyDescription, same]

/-- The search for a conflict does not look at the requester's own locks. -/
theorem conflictsAmong_owner (system : System) (vfs : Vfs) (owner node generation : Nat)
    (holds excludes : OpenDescription → Bool) (step : OpenDescription → OpenDescription)
    (indices : List Nat) :
    (system.modifyDescription owner step).conflictsAmong vfs owner node generation holds excludes
        indices =
      system.conflictsAmong vfs owner node generation holds excludes indices := by
  induction indices with
  | nil => rfl
  | cons index rest hypothesis =>
    by_cases own : index = owner
    · simp only [conflictsAmong, own, true_or, if_true, hypothesis]
    · simp only [conflictsAmong, modifyDescription_other system step own,
        hypothesis]

theorem advisoryLockConflicts_owner (system : System) (vfs : Vfs) (owner node generation : Nat)
    (requested : AdvisoryLock) (step : OpenDescription → OpenDescription) :
    (system.modifyDescription owner step).advisoryLockConflicts vfs owner node generation requested =
      system.advisoryLockConflicts vfs owner node generation requested :=
  conflictsAmong_owner system vfs owner node generation _ _ step _

variable {handle fd slot index : Nat} {info : Vfs.OpenInfo} {requested : AdvisoryLock}
  {asked : Option (Nat × Nat × AdvisoryLock)}

theorem loosens_to_none (description : OpenDescription)
    (wellFormed : WellFormedLocks description.byteRangeLocks) :
    Loosens description .none description.byteRangeLocks :=
  loosens_advisory wellFormed (fun present => absurd rfl present) (nomatch ·)

/-- A shared holder that asks for an exclusive lock gives up its own lock first. -/
theorem upgrade_outcome (sound : Conserved kernel) (nonblocking : Bool)
    (on : LockedOn kernel handle fd slot index (info.node, info.nodeGeneration))
    (held : (kernel.system.openDescriptions index).advisoryLock = .shared) :
    Yields (LockOutcome kernel handle fd asked nonblocking) kernel
      (acquireAdvisory handle index info .exclusive nonblocking) := by
  let dropped : Kernel := { kernel with
    system := kernel.relocked index .none (kernel.system.openDescriptions index).byteRangeLocks }
  have back : dropped.system.modifyDescription index
      (fun description => { description with advisoryLock := .shared }) = kernel.system := by
    rw [← held]
    refine Eq.trans ?_ (relocked_self kernel index)
    simp [dropped, relocked, modifyDescription, withLocks]
  have taken : dropped.system.modifyDescription index
      (fun description => { description with advisoryLock := .exclusive }) =
      kernel.relocked index .exclusive (kernel.system.openDescriptions index).byteRangeLocks := by
    simp [dropped, relocked, modifyDescription, withLocks]
  have unchanged (result : Except Error LockResult) : LockOutcome kernel handle fd asked nonblocking result
      { dropped with
        system := dropped.system.modifyDescription index
          (fun description => { description with advisoryLock := .shared }) } := by
    rw [back]
    exact LockOutcome.unchanged result
  obtain ⟨answer, result, meaning⟩ := advisoryLockConflicts_spec sound index info.node
    info.nodeGeneration .exclusive
  have answered : dropped.system.advisoryLockConflicts dropped.vfs index info.node
      info.nodeGeneration .exclusive = .ok answer :=
    (advisoryLockConflicts_owner kernel.system kernel.vfs index _ _ _
      (withLocks · .none
        (kernel.system.openDescriptions index).byteRangeLocks)).trans result
  refine yields_state ?_
  rw [held]
  refine yields_change ?_
  change Yields _ dropped _
  refine yields_state ?_
  rw [answered]
  refine yields_ite (fun free => ?_) fun excluded => yields_ite (fun wait => ?_) fun wait => ?_
  · have granted : LockOutcome kernel handle fd asked nonblocking (.ok .acquired) { dropped with
          system := dropped.system.modifyDescription index
            (fun description => { description with advisoryLock := .exclusive }) } := by
      rw [taken]
      refine LockOutcome.granted on (by decide) (fun _ => rfl) fun conflict => ?_
      rw [meaning.mpr conflict] at free
      cases free
    exact granted
  · exact unchanged _
  · rw [if_pos rfl]
    refine yields_wakeAll (yields_blockOnLock (fun processes blocked => ?_) fun failure => ?_)
    · exact LockOutcome.slept (by simpa using wait) on (loosens_to_none _) (wakeMatching_calm _ _ _)
        (.inl (wakeMatching_nobody _ _ _)) blocked
    · have restored : LockOutcome kernel handle fd asked nonblocking (.error failure) { dropped with
            system := dropped.system.modifyDescription index
              (fun description => { description with advisoryLock := .shared })
            processes := (kernel.processes.wakeMatching .fileLock
              (fileLockWaitKey info.node info.nodeGeneration) true).2 } := by
        rw [back]
        exact LockOutcome.restored failure (wakeMatching_calm _ _ _)
      exact restored

/-- A caller that holds nothing the wait would give up just sleeps. -/
theorem slept_unchanged {nonblocking : Bool} {target : Nat × Nat} {processes : Table}
    (blocking : nonblocking = false) (on : LockedOn kernel handle fd slot index target)
    (sleeps : Table.block handle .fileLock (fileLockWaitKey target.1 target.2) kernel.processes =
      (.ok (), processes)) :
    LockOutcome kernel handle fd asked nonblocking (.ok .blocked) { kernel with processes } := by
  rw [show kernel.system = kernel.relocked index _ _ from (relocked_self kernel index).symm]
  exact LockOutcome.slept blocking on Loosens.refl (refl kernel.processes)
    (.inr Loosens.refl) sleeps

/-- A request of a description that holds no whole-file lock. -/
theorem acquire_outcome (sound : Conserved kernel) (nonblocking : Bool)
    (on : LockedOn kernel handle fd slot index (info.node, info.nodeGeneration))
    (wanted : requested ≠ .none)
    (held : (kernel.system.openDescriptions index).advisoryLock = .none) :
    Yields (LockOutcome kernel handle fd asked nonblocking) kernel
      (acquireAdvisory handle index info requested nonblocking) := by
  have back : kernel.system.modifyDescription index
      (fun description => { description with advisoryLock := .none }) = kernel.system := by
    rw [← held]
    exact relocked_self kernel index
  have unchanged (result : Except Error LockResult) : LockOutcome kernel handle fd asked nonblocking result
      { kernel with
        system := kernel.system.modifyDescription index
          (fun description => { description with advisoryLock := .none }) } := by
    rw [back]
    exact LockOutcome.unchanged result
  obtain ⟨answer, result, meaning⟩ := advisoryLockConflicts_spec sound index info.node
    info.nodeGeneration requested
  refine yields_state ?_
  rw [held]
  refine yields_ite (fun impossible => nomatch impossible.1) fun _ => ?_
  refine yields_state ?_
  rw [result]
  refine yields_ite (fun free => ?_) fun excluded => yields_ite (fun wait => ?_) fun wait => ?_
  · refine LockOutcome.granted on wanted (fun exclusive => ?_) fun conflict => ?_
    · rw [held] at exclusive
      cases exclusive
    · rw [meaning.mpr conflict] at free
      cases free
  · exact unchanged _
  · rw [if_neg (by decide)]
    refine yields_blockOnLock (fun processes blocked => ?_) fun failure => ?_
    · exact slept_unchanged (by simpa using wait) on blocked
    · exact unchanged _

theorem flock_outcome (sound : Conserved kernel) (handle fd : Nat) (requested : AdvisoryLock)
    (nonblocking : Bool) :
    Yields (LockOutcome kernel handle fd none nonblocking) kernel
      (flock handle fd requested nonblocking) := by
  refine yields_caller (fun _ _ => LockOutcome.unchanged _) fun _ slot _ located => ?_
  refine yields_lockTarget located (fun _ => LockOutcome.unchanged _) fun index info on => ?_
  refine yields_state ?_
  refine yields_ite (fun unlock => ?_) fun wanted => ?_
  · refine yields_ite (fun _ => LockOutcome.unchanged _) fun _ => ?_
    exact LockOutcome.loosened on (loosens_to_none _) (wakeMatching_calm _ _ _)
      (wakeMatching_nobody _ _ _)
  · refine yields_ite (fun _ => LockOutcome.unchanged _) fun different => ?_
    refine yields_ite (fun downgrade => ?_) fun other => ?_
    · refine LockOutcome.loosened on (fun wellFormed => loosens_advisory wellFormed ?_ ?_)
        (wakeMatching_calm _ _ _) (wakeMatching_nobody _ _ _)
      · rw [downgrade.1]
        exact fun _ => by decide
      · exact fun impossible => nomatch impossible
    · cases held : (kernel.system.openDescriptions index).advisoryLock with
      | none => exact acquire_outcome sound nonblocking on wanted held
      | shared =>
        obtain rfl : requested = .exclusive := by
          cases requested with
          | none => exact absurd rfl wanted
          | shared => exact absurd held different
          | exclusive => rfl
        exact upgrade_outcome sound nonblocking on held
      | exclusive =>
        cases requested with
        | none => exact absurd rfl wanted
        | shared => exact absurd ⟨held, rfl⟩ other
        | exclusive => exact absurd held different

theorem lockRange_outcome (sound : Conserved kernel) (handle fd startValue lengthValue : Nat)
    (requested : AdvisoryLock) (nonblocking : Bool) :
    Yields (LockOutcome kernel handle fd
      (some (startValue, startValue + lengthValue, requested)) nonblocking) kernel
      (lockRange handle fd startValue lengthValue requested nonblocking) := by
  refine yields_state (yields_lift (fun _ _ => LockOutcome.unchanged _) fun _ _ => ?_)
  refine yields_failWhen (fun _ => LockOutcome.unchanged _) fun checked => ?_
  refine yields_lift (fun _ _ => LockOutcome.unchanged _) fun slot located => ?_
  refine yields_lockTarget located (fun _ => LockOutcome.unchanged _) fun index info on => ?_
  have nonempty : startValue < startValue + lengthValue := by omega
  refine yields_ite (fun unlock => ?_) fun wanted => ?_
  · refine yields_lift (fun _ _ => LockOutcome.unchanged _) fun ranges replaced => ?_
    exact LockOutcome.loosened on (fun wellFormed => loosens_uncover nonempty wellFormed replaced)
      (wakeMatching_calm _ _ _) (wakeMatching_nobody _ _ _)
  · obtain ⟨answer, result, meaning⟩ := byteRangeLockConflicts_spec sound index info.node
      info.nodeGeneration startValue (startValue + lengthValue) requested
    rw [result]
    refine yields_ite (fun free => ?_) fun excluded => yields_ite (fun _ => ?_) fun wait => ?_
    · refine yields_lift (fun _ _ => LockOutcome.unchanged _) fun ranges replaced => ?_
      refine LockOutcome.rangeGranted on rfl nonempty wanted (fun conflict => ?_) replaced
      rw [meaning.mpr conflict] at free
      cases free
    · exact LockOutcome.unchanged _
    · refine yields_lift (fun _ _ => LockOutcome.unchanged _) fun ranges replaced => ?_
      refine yields_change ?_
      have loosens := fun wellFormed => loosens_uncover nonempty wellFormed replaced
      let uncovered : Kernel := { kernel with
        system := kernel.relocked index (kernel.system.openDescriptions index).advisoryLock ranges }
      have back : uncovered.system.modifyDescription index (fun description =>
          { description with
            byteRangeLocks := (kernel.system.openDescriptions index).byteRangeLocks }) =
          kernel.system := by
        refine Eq.trans ?_ (relocked_self kernel index)
        simp [uncovered, relocked, modifyDescription, withLocks]
      have restored (failure : Error) {processes : Table} (calm : Calm kernel.processes processes) :
          LockOutcome kernel handle fd (some (startValue, startValue + lengthValue, requested))
            nonblocking (.error failure)
            { uncovered with
              system := uncovered.system.modifyDescription index (fun description =>
                { description with
                  byteRangeLocks := (kernel.system.openDescriptions index).byteRangeLocks })
              processes } := by
        rw [back]
        exact LockOutcome.restored failure calm
      refine yields_ite (fun overlaps => ?_) fun apart => ?_
      · refine yields_wakeAll (yields_blockOnLock (fun processes blocked => ?_) fun failure => ?_)
        · exact LockOutcome.slept (by simpa using wait) on loosens (wakeMatching_calm _ _ _)
            (.inl (wakeMatching_nobody _ _ _)) blocked
        · exact restored failure (wakeMatching_calm _ _ _)
      · refine yields_blockOnLock (fun processes blocked => ?_) fun failure => ?_
        · exact LockOutcome.slept (by simpa using wait) on loosens (refl kernel.processes)
            (.inr fun wellFormed => loosens_untouched nonempty wellFormed replaced
              (by simpa using apart)) blocked
        · exact restored failure (refl _)

end Kernel

/-! ### Requests as moves -/

theorem Loosens.compatible {other : OpenDescription} (loosens : Loosens description advisory ranges)
    (coexist : Coexist description other) :
    Coexist (description.withLocks advisory ranges) other := by
  obtain ⟨mine, theirs⟩ := coexist
  refine ⟨⟨fun exclusive => mine.advisory (loosens.exclusive exclusive), fun offset covered =>
    mine.ranges offset (loosens.covers _ _ covered)⟩, ⟨fun exclusive => ?_, fun offset covered kind
    mineCovered => theirs.ranges offset covered kind (loosens.covers _ _ mineCovered)⟩⟩
  by_contra held
  exact loosens.held held (theirs.advisory exclusive)

theorem Loosens.admissible
    (loosens : WellFormedLocks (kernel.system.openDescriptions index).byteRangeLocks →
      Loosens (kernel.system.openDescriptions index) advisory ranges) :
    Admissible kernel index advisory ranges :=
  ⟨fun wellFormed => (loosens wellFormed).wellFormed,
    fun wellFormed _ _ _ _ _ _ coexist => (loosens wellFormed).compatible coexist⟩

theorem advisory_admissible (inode : kernel.inodeOf index = some target)
    (free : ¬ AdvisoryConflict kernel index target requested) :
    Admissible kernel index requested (kernel.system.openDescriptions index).byteRangeLocks := by
  refine ⟨id, fun _ other below different found mine theirs coexist => ?_⟩
  obtain rfl : found = target := Option.some.inj (mine.symm.trans inode)
  have harmless (held : (kernel.system.openDescriptions other).advisoryLock ≠ .none) :
      ¬ (requested = .exclusive ∨
        (kernel.system.openDescriptions other).advisoryLock = .exclusive) :=
    fun excludes => free ⟨other, below, different, theirs, held, excludes⟩
  refine ⟨⟨fun exclusive => ?_, coexist.1.ranges⟩, ⟨fun exclusive => ?_, coexist.2.ranges⟩⟩
  · by_contra held
    exact harmless held (.inl exclusive)
  · exact absurd (.inr exclusive) (harmless (by rw [exclusive]; decide))

theorem range_admissible (inode : kernel.inodeOf index = some target) (nonempty : start < stop)
    (free : ¬ RangeConflict kernel index target start stop requested)
    (replaced : replaceByteRangeLocks (kernel.system.openDescriptions index).byteRangeLocks
      start stop requested = .ok ranges) :
    Admissible kernel index (kernel.system.openDescriptions index).advisoryLock ranges := by
  refine ⟨fun wellFormed => (replaceByteRangeLocks_covers replaced nonempty wellFormed).1,
    fun wellFormed other below different found mine theirs coexist => ?_⟩
  obtain rfl : found = target := Option.some.inj (mine.symm.trans inode)
  obtain ⟨-, covers⟩ := replaceByteRangeLocks_covers replaced nonempty wellFormed
  have harmless {offset : Nat} {kind : AdvisoryLock} (inside : start ≤ offset ∧ offset < stop)
      (covered : Covers (kernel.system.openDescriptions other).byteRangeLocks kind offset) :
      ¬ (requested = .exclusive ∨ kind = .exclusive) := fun excludes =>
    free ⟨other, below, different, theirs, rangeExcluded_of_covers inside covered excludes⟩
  refine ⟨⟨coexist.1.advisory, fun offset covered kind otherCovered => ?_⟩,
    ⟨coexist.2.advisory, fun offset otherCovered kind covered => ?_⟩⟩
  · have before : if start ≤ offset ∧ offset < stop then requested = .exclusive ∧ requested ≠ .none
        else Covers (kernel.system.openDescriptions index).byteRangeLocks .exclusive offset :=
      (covers _ _).mp covered
    split at before
    · rename_i inside
      exact harmless inside otherCovered (.inl before.1)
    · exact coexist.1.ranges offset before kind otherCovered
  · have before : if start ≤ offset ∧ offset < stop then requested = kind ∧ requested ≠ .none
        else Covers (kernel.system.openDescriptions index).byteRangeLocks kind offset :=
      (covers _ _).mp covered
    split at before
    · rename_i inside
      exact harmless inside otherCovered (.inr rfl)
    · exact coexist.2.ranges offset otherCovered kind before

theorem LockOutcome.runs {transfers : Prop} {kernel after : Kernel} {handle fd : Nat}
    {asked : Option (Nat × Nat × AdvisoryLock)} {nonblocking : Bool} {result : Except Error LockResult}
    (outcome : LockOutcome kernel handle fd asked nonblocking result after) :
    Runs True transfers kernel after := by
  cases outcome with
  | unchanged => exact refl kernel
  | restored failure calm => exact Kernel.runs_processes calm
  | @loosened slot index target advisory ranges processes on loosens calm awake =>
    have relocked : Runs True transfers kernel
        { kernel with system := kernel.relocked index advisory ranges } :=
      runs_of_move fun _ => Move.relock kernel advisory ranges trivial (Loosens.admissible loosens)
    exact IsTrans.trans _ _ _ relocked (Kernel.runs_processes calm)
  | granted on _ _ free =>
    exact runs_of_move fun _ =>
      Move.relock kernel _ _ trivial (advisory_admissible on.inode free)
  | rangeGranted on _ nonempty wanted free replaced =>
    exact runs_of_move fun _ =>
      Move.relock kernel _ _ trivial (range_admissible on.inode nonempty free replaced)
  | @slept slot index target advisory ranges woken processes blocking on loosens calm awake sleeps =>
    have relocked : Runs True transfers kernel
        { kernel with system := kernel.relocked index advisory ranges } :=
      runs_of_move fun _ => Move.relock kernel advisory ranges trivial (Loosens.admissible loosens)
    have wakes : Runs True transfers { kernel with system := kernel.relocked index advisory ranges }
        { kernel with system := kernel.relocked index advisory ranges, processes := woken } :=
      Kernel.runs_processes calm
    have sleepers : CalmBut .fileLock (fileLockWaitKey target.1 target.2) woken _ :=
      Kernel.block_calmBut handle (fileLockWaitKey target.1 target.2) woken
    rw [sleeps] at sleepers
    refine IsTrans.trans _ _ _ relocked (IsTrans.trans _ _ _ wakes ?_)
    exact runs_of_move fun _ => Move.awaitLock
      { kernel with system := kernel.relocked index advisory ranges, processes := woken } _ trivial
      sleepers

variable {transfers : Prop}

/-- A request for a lock is a sequence of moves, some of which change locks. -/
theorem flock_runs (handle fd : Nat) (requested : AdvisoryLock) (nonblocking : Bool) :
    Keeps (Runs True transfers) (Kernel.flock handle fd requested nonblocking) :=
  fun _ => runs_assuming fun sound =>
    (Kernel.flock_outcome sound handle fd requested nonblocking).runs

theorem lockRange_runs (handle fd startValue lengthValue : Nat) (requested : AdvisoryLock)
    (nonblocking : Bool) : Keeps (Runs True transfers)
      (Kernel.lockRange handle fd startValue lengthValue requested nonblocking) :=
  fun _ => runs_assuming fun sound =>
    (Kernel.lockRange_outcome sound handle fd startValue lengthValue requested nonblocking).runs

end ZigOs.RuntimeFd
