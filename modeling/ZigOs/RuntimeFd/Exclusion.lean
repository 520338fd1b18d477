/-
This file proves the mutual exclusion of advisory locks. On one inode no two
descriptions hold locks that exclude each other, neither whole-file locks nor
locks of a byte, in any reachable state. Moves that are not requests for locks
leave a description's locks and inode alone, or take the description away.
-/

import ZigOs.RuntimeFd.Runs

namespace ZigOs.RuntimeFd

open Scan RuntimeProcess RuntimeVfs Kernel System OpenDescription

/-! ### What a move does to the locks of a description -/

/-- The descriptions hold the same locks by the same handle. -/
structure SameFile (first second : OpenDescription) : Prop where
  used : second.used = first.used
  kind : second.kind = first.kind
  owner : second.vfsOwner = first.vfsOwner
  handle : second.vfsHandle = first.vfsHandle
  advisory : second.advisoryLock = first.advisoryLock
  ranges : second.byteRangeLocks = first.byteRangeLocks

theorem SameFile.refl (description : OpenDescription) : SameFile description description :=
  ⟨rfl, rfl, rfl, rfl, rfl, rfl⟩

/-- The description keeps its inode and its locks. -/
structure FileKept (before after : Kernel) (index : Nat) : Prop where
  inode : after.inodeOf index = before.inodeOf index
  advisory : (after.system.openDescriptions index).advisoryLock =
    (before.system.openDescriptions index).advisoryLock
  ranges : (after.system.openDescriptions index).byteRangeLocks =
    (before.system.openDescriptions index).byteRangeLocks

/-- The description holds no locks, and nobody sleeps for locks it held. -/
structure FileGone (before after : Kernel) (index : Nat) : Prop where
  advisory : (after.system.openDescriptions index).advisoryLock = .none
  ranges : (after.system.openDescriptions index).byteRangeLocks = []
  awake : ∀ target, before.inodeOf index = some target →
    ((before.system.openDescriptions index).advisoryLock ≠ .none ∨
      (before.system.openDescriptions index).byteRangeLocks ≠ []) →
    Nobody after.processes .fileLock (fileLockWaitKey target.1 target.2)

variable {before after : Kernel} {index : Nat}

/-- A description with the same handle keeps its inode where handles stay open. -/
theorem Conserved.fileKept (sound : Conserved before) (below : index < maximumOpenDescriptions)
    (same : SameFile (before.system.openDescriptions index) (after.system.openDescriptions index))
    (kept : (before.system.openDescriptions index).used = true →
      (before.system.openDescriptions index).holdsHandle = true → ∀ target,
        before.vfs.inode (before.system.openDescriptions index).vfsOwner
            (before.system.openDescriptions index).vfsHandle = some target →
          after.vfs.inode (before.system.openDescriptions index).vfsOwner
            (before.system.openDescriptions index).vfsHandle = some target) :
    FileKept before after index := by
  refine ⟨?_, same.advisory, same.ranges⟩
  unfold inodeOf
  rw [same.used, same.kind, same.owner, same.handle]
  by_cases onVfs : (before.system.openDescriptions index).used = true ∧
      (before.system.openDescriptions index).kind = .vfs
  · rw [if_pos onVfs, if_pos onVfs]
    have holds : (before.system.openDescriptions index).holdsHandle = true := by
      simp [holdsHandle, onVfs.2]
    obtain ⟨-, target, found⟩ := sound.handles index below onVfs.1 holds
    rw [found, kept onVfs.1 holds target found]
  · rw [if_neg onVfs, if_neg onVfs]

theorem fileGone_of_free (free : (before.system.openDescriptions index).used = false)
    (advisory : (after.system.openDescriptions index).advisoryLock = .none)
    (ranges : (after.system.openDescriptions index).byteRangeLocks = []) :
    FileGone before after index := by
  refine ⟨advisory, ranges, fun target inode _ => ?_⟩
  have used := (inodeOf_isVfs inode).1
  cases used.symm.trans free

/-- A change of the tables that leaves every handle and lock alone keeps the files. -/
theorem Conserved.filesKept (sound : Conserved before) (below : index < maximumOpenDescriptions)
    (sameVfs : after.vfs = before.vfs)
    (same : SameFile (before.system.openDescriptions index) (after.system.openDescriptions index)) :
    FileKept before after index :=
  sound.fileKept below same fun _ _ _ found => sameVfs ▸ found

/-- A move leaves the locks of a description alone, takes the description away, or is the
outcome of a request for locks. -/
theorem Move.files {relocks transfers : Prop} (move : Move relocks transfers before after)
    (sound : Conserved before) :
    (∀ index < maximumOpenDescriptions, FileKept before after index ∨ FileGone before after index) ∨
      ∃ index advisory ranges, relocks ∧ Admissible before index advisory ranges ∧
        after = { before with system := before.relocked index advisory ranges } := by
  have unchanged (index : Nat) :
      SameFile (before.system.openDescriptions index) (before.system.openDescriptions index) :=
    SameFile.refl _
  cases move with
  | outside terminal close calls held calm =>
    exact .inl fun index below => .inl (sound.fileKept below (unchanged index)
      fun used holds target found => held.kept index below used holds target found)
  | awaitBytes => exact .inl fun index below => .inl (sound.filesKept below rfl (unchanged index))
  | awaitRoom => exact .inl fun index below => .inl (sound.filesKept below rfl (unchanged index))
  | awaitLock => exact .inl fun index below => .inl (sound.filesKept below rfl (unchanged index))
  | mark => exact .inl fun index below => .inl (sound.filesKept below rfl (unchanged index))
  | bind => exact .inl fun index below => .inl (sound.filesKept below rfl (unchanged index))
  | unbind => exact .inl fun index below => .inl (sound.filesKept below rfl (unchanged index))
  | readPipe => exact .inl fun index below => .inl (sound.filesKept below rfl (unchanged index))
  | writePipe => exact .inl fun index below => .inl (sound.filesKept below rfl (unchanged index))
  | @watch index cursor =>
    exact .inl fun other below => .inl (sound.filesKept below rfl
      (modifyDescription_forall before.system index
        (fun description => { description with watchCursor := cursor }) SameFile.refl
        (fun _ => ⟨rfl, rfl, rfl, rfl, rfl, rfl⟩) other))
  | @share slot fd index =>
    exact .inl fun other below => .inl (sound.filesKept below rfl
      (modifyDescription_forall before.system index retain SameFile.refl
        (fun _ => ⟨rfl, rfl, rfl, rfl, rfl, rfl⟩) other))
  | @drop slot fd =>
    exact .inl fun other below => .inl (sound.filesKept below rfl
      (modifyDescription_forall before.system _ release SameFile.refl
        (fun _ => ⟨rfl, rfl, rfl, rfl, rfl, rfl⟩) other))
  | @clone source target handle =>
    refine .inl fun index below => .inl (sound.filesKept below rfl ?_)
    rw [(before.system.cloned_facts source target handle).2.2]
    exact ⟨rfl, rfl, rfl, rfl, rfl, rfl⟩
  | @install slot fd index new closeOnExec free =>
    refine .inl fun other below => ?_
    by_cases same : other = index
    · subst same
      refine .inr (fileGone_of_free free.indexFree ?_ ?_)
      · rw [installDescription_self]
        rfl
      · rw [installDescription_self]
        rfl
    · refine .inl (sound.fileKept below ?_ fun _ _ _ found => found)
      rw [installDescription_other _ _ _ _ _ same]
      exact SameFile.refl _
  | @installPipe slot readFd writeFd readIndex writeIndex pipe freeRead freeWrite fdApart indexApart =>
    refine .inl fun other below => ?_
    obtain rfl | isWrite := eq_or_ne other writeIndex
    · refine .inr (fileGone_of_free freeWrite.indexFree ?_ ?_)
      · rw [Kernel.installPipe, installDescription_self]
        rfl
      · rw [Kernel.installPipe, installDescription_self]
        rfl
    · by_cases isRead : other = readIndex
      · subst isRead
        refine .inr (fileGone_of_free freeRead.indexFree ?_ ?_)
        · rw [Kernel.installPipe, installDescription_other _ _ _ _ _ isWrite,
            installDescription_self]
          rfl
        · rw [Kernel.installPipe, installDescription_other _ _ _ _ _ isWrite,
            installDescription_self]
          rfl
      · refine .inl (sound.fileKept below ?_ fun _ _ _ found => found)
        rw [Kernel.installPipe, installDescription_other _ _ _ _ _ isWrite,
          installDescription_other _ _ _ _ _ isRead]
        exact SameFile.refl _
  | @retire slot fd vfs processes retires =>
    refine .inl fun other below => ?_
    obtain rfl | same := eq_or_ne other (((before.system.namespaces slot).descriptors fd).openIndex)
    · have cleared := modifyDescription_self before.system
        ((before.system.namespaces slot).descriptors fd).openIndex
        fun old => { generation := old.generation }
      exact .inr ⟨congrArg advisoryLock cleared,
        congrArg byteRangeLocks cleared,
        fun target inode locked => retires.locks locked target inode⟩
    · refine .inl (sound.fileKept below ?_ fun used holds target found => ?_)
      · have kept : (before.system.retired slot fd).openDescriptions other =
            before.system.openDescriptions other :=
          modifyDescription_other before.system
            (fun old => { generation := old.generation }) same
        rw [kept]
        exact SameFile.refl _
      · refine retires.kept _ _ _ (fun owned => same ?_) found
        have owner := (sound.handles other below used holds).1
        exact makeOpenId_index below (sound.described_used retires.named).1 (owner.symm.trans owned)
  | @relock index advisory ranges allowed admissible =>
    exact .inr ⟨index, advisory, ranges, allowed, admissible, rfl⟩

/-! ### Exclusion is invariant -/

/-- The locks on one inode coexist. -/
structure Exclusion (kernel : Kernel) : Prop where
  wellFormed : ∀ index < maximumOpenDescriptions, ∀ target, kernel.inodeOf index = some target →
    WellFormedLocks (kernel.system.openDescriptions index).byteRangeLocks
  coexist : ∀ first < maximumOpenDescriptions, ∀ second < maximumOpenDescriptions,
    second ≠ first → ∀ target, kernel.inodeOf first = some target →
      kernel.inodeOf second = some target →
        Coexist (kernel.system.openDescriptions first) (kernel.system.openDescriptions second)

variable {first second : OpenDescription}

/-- A description without locks coexists with every other. -/
theorem coexist_of_free (advisory : first.advisoryLock = .none)
    (ranges : first.byteRangeLocks = []) : Coexist first second := by
  refine ⟨⟨fun exclusive => ?_, fun offset covered => ?_⟩, ⟨fun _ => advisory, fun offset _ kind
    covered => ?_⟩⟩
  · rw [advisory] at exclusive
    cases exclusive
  · rw [ranges] at covered
    cases covered.choose_spec.1
  · rw [ranges] at covered
    cases covered.choose_spec.1

theorem Coexist.symm (coexist : Coexist first second) :
    Coexist second first := ⟨coexist.2, coexist.1⟩

theorem Coexist.congr {newFirst newSecond : OpenDescription} (coexist : Coexist first second)
    (firstAdvisory : newFirst.advisoryLock = first.advisoryLock)
    (firstRanges : newFirst.byteRangeLocks = first.byteRangeLocks)
    (secondAdvisory : newSecond.advisoryLock = second.advisoryLock)
    (secondRanges : newSecond.byteRangeLocks = second.byteRangeLocks) :
    Coexist newFirst newSecond := by
  obtain ⟨mine, theirs⟩ := coexist
  refine ⟨⟨?_, ?_⟩, ⟨?_, ?_⟩⟩
  · rw [firstAdvisory, secondAdvisory]
    exact mine.advisory
  · rw [firstRanges, secondRanges]
    exact mine.ranges
  · rw [firstAdvisory, secondAdvisory]
    exact theirs.advisory
  · rw [firstRanges, secondRanges]
    exact theirs.ranges

/-- Keeping locks or losing them keeps the exclusion. -/
theorem Exclusion.of_files (exclusion : Exclusion before)
    (files : ∀ index < maximumOpenDescriptions,
      FileKept before after index ∨ FileGone before after index) : Exclusion after := by
  refine ⟨fun index below target inode => ?_, fun first firstBelow second secondBelow different
    target firstInode secondInode => ?_⟩
  · rcases files index below with kept | gone
    · rw [kept.ranges]
      exact exclusion.wellFormed index below target (kept.inode ▸ inode)
    · rw [gone.ranges]
      exact fun _ member => nomatch member
  · rcases files first firstBelow with firstKept | firstGone
    · rcases files second secondBelow with secondKept | secondGone
      · exact (exclusion.coexist first firstBelow second secondBelow different target
          (firstKept.inode ▸ firstInode) (secondKept.inode ▸ secondInode)).congr firstKept.advisory
          firstKept.ranges secondKept.advisory secondKept.ranges
      · exact (coexist_of_free secondGone.advisory secondGone.ranges).symm
    · exact coexist_of_free firstGone.advisory firstGone.ranges

theorem relocked_self_description (kernel : Kernel) (index : Nat) (advisory : AdvisoryLock)
    (ranges : List ByteRangeLock) :
    (kernel.relocked index advisory ranges).openDescriptions index =
      (kernel.system.openDescriptions index).withLocks advisory ranges :=
  modifyDescription_self kernel.system index (withLocks · advisory ranges)

theorem relocked_other_description (kernel : Kernel) {other : Nat} (advisory : AdvisoryLock)
    (ranges : List ByteRangeLock) (different : other ≠ index) :
    (kernel.relocked index advisory ranges).openDescriptions other =
      kernel.system.openDescriptions other :=
  modifyDescription_other kernel.system (withLocks · advisory ranges) different

/-- Replacing locks moves no description to another inode. -/
theorem inodeOf_relocked (kernel : Kernel) (index : Nat) (advisory : AdvisoryLock)
    (ranges : List ByteRangeLock) (processes : Table) (other : Nat) :
    ({ kernel with system := kernel.relocked index advisory ranges, processes } : Kernel).inodeOf
        other = kernel.inodeOf other := by
  obtain rfl | same := eq_or_ne other index
  · simp only [inodeOf, relocked_self_description]
    rfl
  · simp only [inodeOf, relocked_other_description kernel advisory ranges same]

theorem Exclusion.relock {kernel : Kernel} (exclusion : Exclusion kernel) {index : Nat}
    {advisory : AdvisoryLock} {ranges : List ByteRangeLock}
    (admissible : Admissible kernel index advisory ranges) :
    Exclusion { kernel with system := kernel.relocked index advisory ranges } := by
  have inodes := inodeOf_relocked kernel index advisory ranges kernel.processes
  -- What the changed description holds coexists with every other on its inode.
  have changed (below : index < maximumOpenDescriptions) (other : Nat)
      (otherBelow : other < maximumOpenDescriptions) (different : other ≠ index)
      (target : Nat × Nat) (mine : kernel.inodeOf index = some target)
      (theirs : kernel.inodeOf other = some target) :
      Coexist ((kernel.system.openDescriptions index).withLocks advisory ranges)
        (kernel.system.openDescriptions other) :=
    admissible.others (exclusion.wellFormed index below target mine) other otherBelow different
      target mine theirs
      (exclusion.coexist index below other otherBelow different target mine theirs)
  refine ⟨fun other below target inode => ?_, fun first firstBelow second secondBelow different
    target firstInode secondInode => ?_⟩
  · rw [inodes] at inode
    obtain rfl | same := eq_or_ne other index
    · rw [relocked_self_description]
      exact admissible.wellFormed (exclusion.wellFormed other below target inode)
    · rw [relocked_other_description kernel advisory ranges same]
      exact exclusion.wellFormed other below target inode
  · rw [inodes] at firstInode secondInode
    by_cases isFirst : first = index
    · subst isFirst
      rw [relocked_self_description, relocked_other_description kernel advisory ranges different]
      exact changed firstBelow second secondBelow different target firstInode secondInode
    · rw [relocked_other_description kernel advisory ranges isFirst]
      obtain rfl | isSecond := eq_or_ne second index
      · rw [relocked_self_description]
        exact (changed secondBelow first firstBelow isFirst target secondInode firstInode).symm
      · rw [relocked_other_description kernel advisory ranges isSecond]
        exact exclusion.coexist first firstBelow second secondBelow different target firstInode
          secondInode

variable {kernel : Kernel}

theorem Reachable.exclusion (reachable : Reachable kernel) : Exclusion kernel := by
  refine (reachable.invariant (fun start fresh => ?_) fun before after sound move exclusion => ?_).2
  · have nowhere (index : Nat) (target : Nat × Nat) : start.inodeOf index ≠ some target := by
      intro inode
      have used := (inodeOf_isVfs inode).1
      simp [fresh.openDescriptions] at used
    exact ⟨fun index _ target inode => absurd inode (nowhere index target),
      fun first _ _ _ _ target inode => absurd inode (nowhere first target)⟩
  · rcases move.files sound with files | ⟨index, advisory, ranges, -, admissible, rfl⟩
    · exact exclusion.of_files files
    · exact exclusion.relock admissible

/-! ### Mutual exclusion -/

/-- On every inode an exclusive whole-file lock stands alone, and so does an exclusive lock of
a byte among the locks of that byte. -/
structure LocksExclusive (kernel : Kernel) : Prop where
  wholeFile : ∀ target, ∀ holder < maximumOpenDescriptions, kernel.inodeOf holder = some target →
    (kernel.system.openDescriptions holder).advisoryLock = .exclusive →
      ∀ other < maximumOpenDescriptions, other ≠ holder → kernel.inodeOf other = some target →
        (kernel.system.openDescriptions other).advisoryLock = .none
  bytes : ∀ target, ∀ offset < maximumFileSize, ∀ holder < maximumOpenDescriptions,
    kernel.inodeOf holder = some target →
      Covers (kernel.system.openDescriptions holder).byteRangeLocks .exclusive offset →
        ∀ other < maximumOpenDescriptions, other ≠ holder → kernel.inodeOf other = some target →
          ∀ kind, ¬ Covers (kernel.system.openDescriptions other).byteRangeLocks kind offset

/-- The request failed, or it was not to wait and had to. -/
def Refused (nonblocking : Bool) (result : Except Error LockResult) : Prop :=
  (∃ failure, result = .error failure) ∨ (nonblocking = true ∧ result = .ok .blocked)

theorem Exclusion.locksExclusive (exclusion : Exclusion kernel) : LocksExclusive kernel :=
  ⟨fun target holder below inode exclusive other otherBelow different otherInode =>
    (exclusion.coexist holder below other otherBelow different target inode otherInode).1.advisory
      exclusive,
  fun target offset _ holder below inode covered other otherBelow different otherInode =>
    (exclusion.coexist holder below other otherBelow different target inode otherInode).1.ranges
      offset covered⟩

theorem LockOutcome.refused {kernel after : Kernel} {handle fd : Nat}
    {asked : Option (Nat × Nat × AdvisoryLock)} {nonblocking : Bool} {result : Except Error LockResult}
    (outcome : LockOutcome kernel handle fd asked nonblocking result after)
    (refused : Refused nonblocking result) : after.system = kernel.system := by
  cases outcome with
  | unchanged | restored => rfl
  | loosened | granted | rangeGranted =>
    obtain ⟨_, failed⟩ | ⟨-, blocked⟩ := refused
    · cases failed
    · cases blocked
  | slept blocking =>
    obtain ⟨_, failed⟩ | ⟨nonblocking, -⟩ := refused
    · cases failed
    · cases nonblocking.symm.trans blocking

/-- Advisory locks exclude each other in every run, and a request that fails or may not wait
leaves every lock of every description as it was. -/
theorem reachable_lockExclusion {kernel : Kernel} (reachable : Reachable kernel) :
    LocksExclusive kernel ∧ (∀ handle fd requested nonblocking,
        Refused nonblocking (flock handle fd requested nonblocking kernel).1 →
          (flock handle fd requested nonblocking kernel).2.system = kernel.system) ∧
      ∀ handle fd start length requested nonblocking, Refused nonblocking
            (lockRange handle fd start length requested nonblocking kernel).1 →
          (lockRange handle fd start length requested nonblocking kernel).2.system =
            kernel.system :=
  ⟨reachable.exclusion.locksExclusive, fun handle fd requested nonblocking refused =>
      (flock_outcome reachable.conserved handle fd requested nonblocking).refused refused,
    fun handle fd start length requested nonblocking refused =>
      (lockRange_outcome reachable.conserved handle fd start length requested
        nonblocking).refused refused⟩

/-- A process opens a file twice and locks it through the first descriptor. -/
def lockRun : List Operation := [
  .bindProcess 0x100000000 true,
  .openFile 0x100000000 [47, 102] { read := true, write := true, create := true } 0o644 0,
  .openFile 0x100000000 [47, 102] { read := true, write := true } 0 0,
  .flock 0x100000000 3 .exclusive true]

theorem lockRun_excludes_second :
    (flock 0x100000000 4 .exclusive true ((initialized 0).after lockRun)).1 =
        .ok .blocked ∧
      LocksExclusive ((initialized 0).after lockRun) ∧
      (flock 0x100000000 4 .exclusive true ((initialized 0).after lockRun)).2.system =
        ((initialized 0).after lockRun).system := by
  have blocked : (flock 0x100000000 4 .exclusive true
      ((initialized 0).after lockRun)).1 = .ok .blocked := by decide +kernel
  obtain ⟨exclusive, refused, -⟩ :=
    reachable_lockExclusion ((reachable_initialized 0).after lockRun)
  exact ⟨blocked, exclusive, refused _ _ _ _ (.inr ⟨rfl, blocked⟩)⟩

end ZigOs.RuntimeFd
