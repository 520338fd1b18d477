/-
This file is about the processes that sleep for an advisory lock. Whenever an
operation gives up so much that a request which conflicted before conflicts no
more, everybody who sleeps on the inode should be awake afterwards. That holds
of every operation but one: a range that turns from exclusive to shared wakes
nobody.
-/

import ZigOs.RuntimeFd.Exclusion

namespace ZigOs.RuntimeFd

open Scan RuntimeProcess RuntimeVfs Call Kernel

/-- A request for a lock of an inode. -/
inductive LockRequest where
  | wholeFile (requested : AdvisoryLock)
  | range (start stop : Nat) (requested : AdvisoryLock)

/-- The request asks for a lock, and a range lies in a file. -/
def LockRequest.Valid : LockRequest → Prop
  | .wholeFile requested => requested ≠ .none
  | .range start stop requested => requested ≠ .none ∧ start < stop ∧ stop ≤ maximumFileSize

/-- The answer of the search for a conflict. -/
def LockRequest.conflicts (request : LockRequest) (kernel : Kernel) (owner : Nat)
    (target : Nat × Nat) : Except Error Bool :=
  match request with
  | .wholeFile requested =>
    kernel.system.advisoryLockConflicts kernel.vfs owner target.1 target.2 requested
  | .range start stop requested =>
    kernel.system.byteRangeLockConflicts kernel.vfs owner target.1 target.2 start stop requested

/-- Some request of some description conflicted and conflicts no more. -/
def Weakened (before after : Kernel) (target : Nat × Nat) : Prop :=
  ∃ owner < maximumOpenDescriptions, ∃ request : LockRequest, request.Valid ∧
    request.conflicts before owner target = .ok true ∧
    request.conflicts after owner target = .ok false

/-- What the search for a conflict finds. -/
def LockRequest.Conflict (request : LockRequest) (kernel : Kernel) (owner : Nat)
    (target : Nat × Nat) : Prop :=
  match request with
  | .wholeFile requested => AdvisoryConflict kernel owner target requested
  | .range start stop requested => RangeConflict kernel owner target start stop requested

variable {kernel : Kernel}

theorem LockRequest.conflicts_spec (sound : Conserved kernel) (request : LockRequest) (owner : Nat)
    (target : Nat × Nat) : ∃ answer, request.conflicts kernel owner target = .ok answer ∧
      (answer = true ↔ request.Conflict kernel owner target) := by
  cases request with
  | wholeFile requested => exact advisoryLockConflicts_spec sound owner _ _ requested
  | range start stop requested => exact byteRangeLockConflicts_spec sound owner _ _ start stop requested

variable {request : LockRequest} {owner : Nat} {target : Nat × Nat}

theorem LockRequest.conflicts_true (sound : Conserved kernel) :
    request.conflicts kernel owner target = .ok true ↔ request.Conflict kernel owner target := by
  obtain ⟨answer, result, meaning⟩ := request.conflicts_spec sound owner target
  rw [result, ← meaning]
  exact ⟨fun same => Except.ok.inj same, fun same => congrArg _ same⟩

theorem LockRequest.conflicts_false (sound : Conserved kernel) :
    request.conflicts kernel owner target = .ok false ↔ ¬ request.Conflict kernel owner target := by
  obtain ⟨answer, result, meaning⟩ := request.conflicts_spec sound owner target
  rw [result, ← meaning, Bool.not_eq_true]
  exact ⟨fun same => Except.ok.inj same, fun same => congrArg _ same⟩

/-! ### Moves that are not requests for locks -/

variable {transfers : Prop} {before after : Kernel} {slot : Nat}

/-- Only a request for a lock puts anybody to sleep on one. -/
theorem Move.lock_calm (move : Move False transfers before after) {target : Nat}
    (asleep : after.processes.Asleep slot .fileLock target) :
    before.processes.Asleep slot .fileLock target := by
  cases move with
  | outside terminal close calls held calm => exact calm _ _ _ rfl asleep
  | awaitBytes below live empty written calm =>
    exact (calm _ _ _ rfl asleep).resolve_right fun other => nomatch other.1
  | awaitRoom below live full read calm =>
    exact (calm _ _ _ rfl asleep).resolve_right fun other => nomatch other.1
  | awaitLock key allowed => exact allowed.elim
  | retire retires => exact retires.calm _ _ _ rfl asleep
  | readPipe length allowed calm => exact calm _ _ _ rfl asleep
  | writePipe bytes allowed calm => exact calm _ _ _ rfl asleep
  | mark | watch | bind | unbind | clone | install | installPipe | share | drop | relock =>
    exact asleep

/-- The locks that a description still holds conflict as before, and nobody sleeps for the
locks of one that is gone. -/
theorem conflict_of_files (files : ∀ index < maximumOpenDescriptions,
      FileKept before after index ∨ FileGone before after index)
    (conflict : request.Conflict before owner target) : request.Conflict after owner target ∨
      Nobody after.processes .fileLock (fileLockWaitKey target.1 target.2) := by
  cases request with
  | wholeFile requested =>
    obtain ⟨other, below, different, inode, held, excludes⟩ := conflict
    rcases files other below with kept | gone
    · exact .inl ⟨other, below, different, kept.inode.trans inode, by rwa [kept.advisory], by
        rwa [kept.advisory]⟩
    · exact .inr (gone.awake target inode (.inl held))
  | range start stop requested =>
    obtain ⟨other, below, different, inode, excluded⟩ := conflict
    rcases files other below with kept | gone
    · exact .inl ⟨other, below, different, kept.inode.trans inode, by rwa [kept.ranges]⟩
    · refine .inr (gone.awake target inode (.inr fun empty => ?_))
      rw [empty] at excluded
      cases excluded

/-- While nothing but locks of vanishing descriptions is given up, a conflict stays or nobody
sleeps on the inode. -/
theorem moves_conflict (moves : Relation.ReflTransGen (Move False transfers) before after)
    (sound : Conserved before) (conflict : request.Conflict before owner target) :
    Conserved after ∧ (request.Conflict after owner target ∨
      Nobody after.processes .fileLock (fileLockWaitKey target.1 target.2)) := by
  induction moves with
  | refl => exact ⟨sound, .inl conflict⟩
  | tail _ move hypothesis =>
    obtain ⟨middleSound, sofar⟩ := hypothesis
    refine ⟨move.conserved middleSound, ?_⟩
    rcases sofar with stays | awake
    · rcases move.files middleSound with files | ⟨_, _, _, allowed, _⟩
      · exact conflict_of_files files stays
      · exact allowed.elim
    · exact .inr fun slot asleep => awake slot (move.lock_calm asleep)

/-! ### Requests for locks -/

variable {handle : Nat}

theorem resolve_slot {table : Table}
    (resolved : table.resolve handle = .ok slot) : slot = handle % 2 ^ 32 := by
  unfold Table.resolve at resolved
  dsimp only at resolved
  split at resolved
  · cases resolved
  · split at resolved
    · cases resolved
    · exact (Except.ok.inj resolved).symm

/-- Whatever the first locks exclude the second ones exclude too. -/
structure Tightens (first second : OpenDescription) : Prop where
  held : first.advisoryLock ≠ .none → second.advisoryLock ≠ .none
  exclusive : first.advisoryLock = .exclusive → second.advisoryLock = .exclusive
  exclusiveBytes : ∀ offset, Covers first.byteRangeLocks .exclusive offset →
    Covers second.byteRangeLocks .exclusive offset
  bytes : ∀ kind offset, Covers first.byteRangeLocks kind offset →
    ∃ other, Covers second.byteRangeLocks other offset

variable {index : Nat} {ranges : List ByteRangeLock}

/-- Where the locks of a description tighten, every conflict stays. -/
theorem conflict_of_tightens (exclusion : Exclusion kernel) {advisory : AdvisoryLock}
    (processes : Table) (valid : request.Valid)
    (tightens : kernel.inodeOf index = some target → index < maximumOpenDescriptions →
      Tightens (kernel.system.openDescriptions index)
        ((kernel.system.openDescriptions index).withLocks advisory ranges))
    (conflict : request.Conflict kernel owner target) :
    request.Conflict { kernel with system := kernel.relocked index advisory ranges, processes }
      owner target := by
  have inodes := inodeOf_relocked kernel index advisory ranges processes
  cases request with
  | wholeFile requested =>
    obtain ⟨other, below, different, inode, held, excludes⟩ := conflict
    refine ⟨other, below, different, (inodes other).trans inode, ?_⟩
    by_cases same : other = index
    · subst same
      rw [relocked_self_description]
      have tight := tightens inode below
      exact ⟨tight.held held, excludes.imp_right tight.exclusive⟩
    · rw [relocked_other_description kernel advisory ranges same]
      exact ⟨held, excludes⟩
  | range start stop requested =>
    obtain ⟨other, below, different, inode, excluded⟩ := conflict
    refine ⟨other, below, different, (inodes other).trans inode, ?_⟩
    obtain rfl | same := eq_or_ne other index
    · rw [relocked_self_description]
      have tight := tightens inode below
      obtain ⟨offset, kind, inside, covered, excludes⟩ := covers_of_rangeExcluded valid.2.1
        (exclusion.wellFormed other below target inode) excluded
      rcases excludes with wants | holds
      · obtain ⟨new, newCovered⟩ := tight.bytes kind offset covered
        exact rangeExcluded_of_covers inside newCovered (.inl wants)
      · subst holds
        exact rangeExcluded_of_covers inside (tight.exclusiveBytes offset covered) (.inr rfl)
    · rwa [relocked_other_description kernel advisory ranges same]

/-- Locks that loosen to the old ones are at least the old ones. -/
theorem Loosens.tightens {first second : OpenDescription}
    (loosens : Loosens second first.advisoryLock first.byteRangeLocks) : Tightens first second :=
  ⟨loosens.held, loosens.exclusive, fun offset covered => loosens.covers _ offset covered,
    fun kind offset covered => ⟨kind, loosens.covers kind offset covered⟩⟩

variable {description : OpenDescription} {requested : AdvisoryLock}

theorem tightens_advisory (wanted : requested ≠ .none)
    (stronger : description.advisoryLock = .exclusive → requested = .exclusive) :
    Tightens description (description.withLocks requested description.byteRangeLocks) :=
  ⟨fun _ => wanted, stronger, fun _ covered => covered, fun kind _ covered => ⟨kind, covered⟩⟩

variable {start : Nat}

/-- A granted range tightens when it turns no exclusive byte into a shared one. -/
theorem tightens_range {stop : Nat} (nonempty : start < stop) (wanted : requested ≠ .none)
    (wellFormed : WellFormedLocks description.byteRangeLocks)
    (replaced : replaceByteRangeLocks description.byteRangeLocks start stop requested = .ok ranges)
    (noDowngrade : requested = .exclusive ∨ ∀ offset, start ≤ offset → offset < stop →
      ¬ Covers description.byteRangeLocks .exclusive offset) :
    Tightens description (description.withLocks description.advisoryLock ranges) := by
  obtain ⟨-, covers⟩ := replaceByteRangeLocks_covers replaced nonempty wellFormed
  refine ⟨id, id, fun offset covered => ?_, fun kind offset covered => ?_⟩
  · change Covers ranges .exclusive offset
    rw [covers]
    split
    · rename_i inside
      rcases noDowngrade with exclusive | none_exclusive
      · exact ⟨exclusive, wanted⟩
      · exact absurd covered (none_exclusive offset inside.1 inside.2)
    · exact covered
  · by_cases inside : start ≤ offset ∧ offset < stop
    · refine ⟨requested, (covers requested offset).mpr ?_⟩
      rw [if_pos inside]
      exact ⟨rfl, wanted⟩
    · refine ⟨kind, (covers kind offset).mpr ?_⟩
      rwa [if_neg inside]

/-- The range lock that is granted turns an exclusive byte into a shared one. -/
def TurnsShared (kernel : Kernel) (index start stop : Nat) (requested : AdvisoryLock) : Prop :=
  requested = .shared ∧ ∃ offset, start ≤ offset ∧ offset < stop ∧
    Covers (kernel.system.openDescriptions index).byteRangeLocks .exclusive offset

variable {fd : Nat} {nonblocking : Bool}

/-- After a request for a lock either every conflict stays, or everybody on the inode is awake but
the caller that went to sleep, or a granted range turned exclusive bytes into shared ones. -/
theorem LockOutcome.conflict {asked : Option (Nat × Nat × AdvisoryLock)}
    {result : Except Error LockResult}
    (outcome : LockOutcome kernel handle fd asked nonblocking result after)
    (exclusion : Exclusion kernel) (valid : request.Valid)
    (conflict : request.Conflict kernel owner target) : request.Conflict after owner target ∨
      (∀ slot, after.processes.Asleep slot .fileLock (fileLockWaitKey target.1 target.2) →
        slot = handle % 2 ^ 32 ∧ result = .ok .blocked) ∨
      ∃ slot index start stop requested, asked = some (start, stop, requested) ∧
        LockedOn kernel handle fd slot index target ∧
        TurnsShared kernel index start stop requested ∧ result = .ok .acquired := by
  -- Locks that change on another inode leave the conflict alone.
  have elsewhere {slot index : Nat} {located : Nat × Nat} {advisory : AdvisoryLock}
      {ranges : List ByteRangeLock} {processes : Table}
      (on : LockedOn kernel handle fd slot index located) (other : located ≠ target) :
      request.Conflict { kernel with system := kernel.relocked index advisory ranges, processes }
        owner target :=
    conflict_of_tightens exclusion processes valid (fun inode _ =>
      absurd (Option.some.inj (on.inode.symm.trans inode)) other) conflict
  cases outcome with
  | unchanged => exact .inl conflict
  | restored => cases request <;> exact .inl conflict
  | @loosened slot index located advisory ranges processes on loosens calm awake =>
    obtain rfl | here := eq_or_ne located target
    · exact .inr (.inl fun slot asleep => absurd asleep (awake slot))
    · exact .inl (elsewhere on here)
  | @granted slot index located requested on wanted stronger free =>
    exact .inl (conflict_of_tightens exclusion kernel.processes valid
      (fun _ _ => tightens_advisory wanted stronger) conflict)
  | @rangeGranted slot index start stop located requested ranges on request nonempty wanted free
      replaced =>
    by_cases here : located = target
    · subst here
      by_cases turns : TurnsShared kernel index start stop requested
      · exact .inr (.inr ⟨slot, index, start, stop, requested, request, on, turns, rfl⟩)
      · refine .inl (conflict_of_tightens exclusion kernel.processes valid (fun inode below =>
          tightens_range nonempty wanted (exclusion.wellFormed index below _ inode) replaced ?_)
          conflict)
        cases requested with
        | none => exact absurd rfl wanted
        | exclusive => exact .inl rfl
        | shared =>
          exact .inr fun offset from_start below_stop covered =>
            turns ⟨rfl, offset, from_start, below_stop, covered⟩
    · exact .inl (elsewhere on here)
  | @slept slot index located advisory ranges woken processes blocking on loosens calm awake sleeps =>
    obtain rfl | here := eq_or_ne located target
    · rcases awake with nobody | unchanged
      · refine .inr (.inl fun sleeper asleep => ?_)
        have blocked : (Table.block handle .fileLock (fileLockWaitKey located.1 located.2)
            woken).2.Asleep sleeper .fileLock (fileLockWaitKey located.1 located.2) := by
          rwa [sleeps]
        have cause := block_asleep blocked
        rcases cause with before | ⟨-, -, resolved⟩
        · exact absurd before (nobody sleeper)
        · exact ⟨resolve_slot resolved, rfl⟩
      · exact .inl (conflict_of_tightens exclusion processes valid (fun inode below =>
          (unchanged (exclusion.wellFormed index below _ inode)).tightens) conflict)
    · exact .inl (elsewhere on here)

/-! ### The range that turns shared -/

/-- The request for a range lock passes every check and nothing conflicts. -/
structure Grantable (kernel : Kernel) (handle fd start length : Nat) (requested : AdvisoryLock)
    (slot index : Nat) (info : Vfs.OpenInfo) (ranges : List ByteRangeLock) : Prop where
  process : ∃ process, kernel.processes.get handle = .ok process
  inFile : ¬ (length = 0 ∨ start ≥ maximumFileSize ∨ length > maximumFileSize - start)
  located : kernel.system.resolveNamespace handle = .ok slot
  target : lockTarget slot fd kernel = (.ok (index, info), kernel)
  free : kernel.system.byteRangeLockConflicts kernel.vfs index info.node info.nodeGeneration start
    (start + length) requested = .ok false
  replaced : replaceByteRangeLocks (kernel.system.openDescriptions index).byteRangeLocks start
    (start + length) requested = .ok ranges

variable {length : Nat} {info : Vfs.OpenInfo}

theorem lockRange_of_grantable (wanted : requested ≠ .none) (nonblocking : Bool)
    (grantable : Grantable kernel handle fd start length requested slot index info ranges) :
    Kernel.lockRange handle fd start length requested nonblocking kernel =
      (.ok .acquired, { kernel with
        system := kernel.relocked index (kernel.system.openDescriptions index).advisoryLock
          ranges }) := by
  obtain ⟨process, found⟩ := grantable.process
  unfold Kernel.lockRange
  rw [bind_state, found, bind_lift_ok, bind_failWhen, if_neg grantable.inFile,
    grantable.located, bind_lift_ok, bind_of_ok grantable.target]
  dsimp only
  rw [if_neg wanted, grantable.free, bind_lift_ok, if_pos rfl, grantable.replaced, bind_lift_ok]
  rfl

/-- Looking for the target of a lock changes nothing. -/
theorem lockTarget_state {target : Nat × Vfs.OpenInfo}
    (found : lockTarget slot fd kernel = (.ok target, after)) : after = kernel := by
  have keeps : Keeps Eq (lockTarget slot fd) :=
    keeps_state_bind fun _ => keeps_lift_bind fun _ =>
      keeps_failWhen_bind fun _ => keeps_lift_bind fun _ =>
        keeps_lift_bind fun _ => keeps_bind (keeps_failWhen _ _) fun _ => keeps_pure _
  have same := keeps kernel
  rw [found] at same
  exact same.symm

theorem lockedOn_of_lockTarget (located : kernel.system.resolveNamespace handle = .ok slot)
    (found : lockTarget slot fd kernel = (.ok (index, info), after)) :
    LockedOn kernel handle fd slot index (info.node, info.nodeGeneration) := by
  have outcome : Yields (fun result _ => ∀ index (info : Vfs.OpenInfo), result = .ok (index, info) →
        LockedOn kernel handle fd slot index (info.node, info.nodeGeneration)) kernel
      (lockTarget slot fd >>= pure) := by
    refine yields_lockTarget located (fun _ _ _ same => nomatch same) fun index info on => ?_
    refine yields_pure fun otherIndex otherInfo same => ?_
    cases (Except.ok.inj same)
    exact on
  unfold Yields at outcome
  rw [bind_of_ok found] at outcome
  exact outcome index info rfl

/-- A range lock is acquired only by a request that passes every check. -/
theorem grantable_of_lockRange (wanted : requested ≠ .none)
    (acquired : (Kernel.lockRange handle fd start length requested nonblocking kernel).1 =
      .ok .acquired) : ∃ slot index info ranges,
      Grantable kernel handle fd start length requested slot index info ranges := by
  revert acquired
  have never {failure : Error} {claim : Prop} :
      (.error failure : Except Error LockResult) = .ok .acquired → claim := fun same => nomatch same
  have waits {claim : Prop} :
      (.ok .blocked : Except Error LockResult) = .ok .acquired → claim := fun same => nomatch same
  suffices Yields (fun result _ => result = .ok .acquired → ∃ slot index info ranges,
      Grantable kernel handle fd start length requested slot index info ranges) kernel
      (Kernel.lockRange handle fd start length requested nonblocking) from this
  refine yields_state (yields_lift (fun _ _ => never) fun process found => ?_)
  refine yields_failWhen (fun _ => never) fun inFile => ?_
  refine yields_lift (fun _ _ => never) fun slot located => ?_
  refine yields_bind (fun _ _ _ => never) fun (index, info) after target => ?_
  obtain rfl := lockTarget_state target
  refine yields_ite (fun unlock => absurd unlock wanted) fun _ => ?_
  refine yields_lift (fun _ _ => never) fun conflicts free => ?_
  refine yields_ite (fun isFree => ?_) fun excluded => ?_
  · subst isFree
    refine yields_lift (fun _ _ => never) fun ranges replaced => ?_
    exact fun _ => ⟨slot, index, info, ranges, ⟨process, found⟩, inFile, located, target, free, replaced⟩
  · refine yields_ite (fun _ => waits) fun _ => ?_
    refine yields_lift (fun _ _ => never) fun ranges _ => yields_change ?_
    refine yields_ite (fun _ => ?_) fun _ => ?_
    · exact yields_wakeAll (yields_blockOnLock (fun _ _ => waits) fun _ => never)
    · exact yields_blockOnLock (fun _ _ => waits) fun _ => never

/-- A range lock is granted that turns an exclusive byte into a shared one, while somebody sleeps
on the inode. -/
def SilentDowngrade (kernel : Kernel) (handle fd start length : Nat) (requested : AdvisoryLock) :
    Prop :=
  ∃ slot index info ranges,
    Grantable kernel handle fd start length requested slot index info ranges ∧
    TurnsShared kernel index start (start + length) requested ∧
    ∃ sleeper, kernel.processes.Asleep sleeper .fileLock
      (fileLockWaitKey info.node info.nodeGeneration)

/-- The operation is such a request. -/
def Operation.DowngradesSilently : Operation → Kernel → Prop
  | .lockRange handle fd start length requested _, kernel =>
    SilentDowngrade kernel handle fd start length requested
  | _, _ => False

/-- The operation puts this process to sleep on a lock. -/
def Operation.PutsToSleep : Operation → Kernel → Nat → Prop
  | .flock handle fd requested nonblocking, kernel, slot =>
    slot = handle % 2 ^ 32 ∧ (Kernel.flock handle fd requested nonblocking kernel).1 = .ok .blocked
  | .lockRange handle fd start length requested nonblocking, kernel, slot =>
    slot = handle % 2 ^ 32 ∧
      (Kernel.lockRange handle fd start length requested nonblocking kernel).1 = .ok .blocked
  | _, _, _ => False

/-- If the operation gives up locks on an inode so that a request conflicts no more, nobody still
sleeps on the inode's locks. -/
def Operation.WakesSleepers (operation : Operation) (kernel : Kernel) : Prop :=
  ∀ target, Weakened kernel (operation.next kernel) target → ∀ slot,
    (operation.next kernel).processes.Asleep slot .fileLock (fileLockWaitKey target.1 target.2) →
      operation.PutsToSleep kernel slot

/-- An operation without requests for locks wakes whoever may go on. -/
theorem wakesSleepers_of_moves (sound : Conserved kernel) {operation : Operation}
    (runs : Runs False transfers kernel (operation.next kernel)) : operation.WakesSleepers kernel := by
  rintro target ⟨owner, -, request, -, conflicted, free⟩ slot asleep
  obtain ⟨-, moves⟩ := runs sound
  obtain ⟨final, stays | awake⟩ :=
    moves_conflict moves sound ((LockRequest.conflicts_true sound).mp conflicted)
  · exact absurd stays ((LockRequest.conflicts_false final).mp free)
  · exact absurd asleep (awake slot)

/-- A silent downgrade leaves somebody asleep whose request may conflict no more. -/
theorem silentDowngrade_loses (sound : Conserved kernel) (exclusion : Exclusion kernel)
    (nonblocking : Bool) (downgrade : SilentDowngrade kernel handle fd start length requested) :
    ¬ (Operation.lockRange handle fd start length requested nonblocking).WakesSleepers kernel := by
  obtain ⟨slot, index, info, ranges, grantable, ⟨rfl, offset, from_start, below_stop, covered⟩, sleeper,
    asleep⟩ := downgrade
  have on := lockedOn_of_lockTarget grantable.located grantable.target
  have below := (System.resolveDescriptor_ok on.resolved).2.2.2.1
  have wellFormed := exclusion.wellFormed index below _ on.inode
  obtain ⟨process, found⟩ := grantable.process
  have inFile := grantable.inFile
  have free : ¬ RangeConflict kernel index (info.node, info.nodeGeneration) start (start + length)
      .shared :=
    (LockRequest.conflicts_false sound : LockRequest.conflicts (.range start (start + length)
      .shared) kernel index (info.node, info.nodeGeneration) = .ok false ↔ _).mp grantable.free
  have relocks := range_admissible on.inode (by omega) free grantable.replaced
  have granted := lockRange_of_grantable (by decide) nonblocking grantable
  have next : (Operation.lockRange handle fd start length .shared nonblocking).next kernel =
      { kernel with
        system := kernel.relocked index (kernel.system.openDescriptions index).advisoryLock
          ranges } := congrArg Prod.snd granted
  have finalSound : Conserved { kernel with
      system := kernel.relocked index (kernel.system.openDescriptions index).advisoryLock ranges } :=
    Move.conserved (Move.relock kernel _ _ trivial relocks : Move True True kernel _) sound
  intro wakes
  have weakened : Weakened kernel
      ((Operation.lockRange handle fd start length .shared nonblocking).next kernel)
      (info.node, info.nodeGeneration) := by
    -- Any other description may ask for a shared lock of the byte now.
    let owner := if index = 0 then 1 else 0
    have ownerBelow : owner < maximumOpenDescriptions := by
      dsimp only [owner]
      split <;> decide
    have different : index ≠ owner := by
      dsimp only [owner]
      split <;> omega
    refine ⟨owner, ownerBelow, .range offset (offset + 1) .shared, ⟨by decide, by omega, by omega⟩,
      ?_, ?_⟩
    · rw [LockRequest.conflicts_true sound]
      exact ⟨index, below, different, on.inode,
        rangeExcluded_of_covers ⟨Nat.le_refl _, by omega⟩ covered (.inr rfl)⟩
    · rw [next, LockRequest.conflicts_false finalSound]
      rintro ⟨other, otherBelow, -, inode, excluded⟩
      have finalExclusion := exclusion.relock relocks
      obtain ⟨byte, kind, inside, byteCovered, excludes⟩ := covers_of_rangeExcluded (by omega)
        (finalExclusion.wellFormed other otherBelow _ inode) excluded
      obtain rfl : byte = offset := by omega
      obtain rfl : kind = .exclusive := excludes.resolve_left (by decide)
      rw [inodeOf_relocked] at inode
      obtain rfl | same := eq_or_ne other index
      · rw [relocked_self_description] at byteCovered
        have turned : if start ≤ byte ∧ byte < start + length then
            AdvisoryLock.shared = .exclusive ∧ AdvisoryLock.shared ≠ .none else _ :=
          ((replaceByteRangeLocks_covers grantable.replaced (by omega) wellFormed).2 _ _).mp
            byteCovered
        rw [if_pos ⟨from_start, below_stop⟩] at turned
        cases turned.1
      · rw [relocked_other_description kernel _ _ same] at byteCovered
        exact (exclusion.coexist index below other otherBelow same _ on.inode inode).1.ranges byte
          covered _ byteCovered
  have puts := wakes _ weakened sleeper (by rw [next]; exact asleep)
  have blocked : (Kernel.lockRange handle fd start length .shared nonblocking kernel).1 =
      .ok .blocked := puts.2
  rw [granted] at blocked
  cases blocked

/-- Every operation wakes the sleepers of an inode whose locks it gives up, except a silent
downgrade of a range. -/
theorem reachable_wakesSleepers {kernel : Kernel} (reachable : Reachable kernel)
    (operation : Operation) :
    operation.WakesSleepers kernel ↔ ¬ operation.DowngradesSilently kernel := by
  have sound := reachable.conserved
  have exclusion := reachable.exclusion
  have plain (quiet : operation.locks = false) : operation.WakesSleepers kernel := by
    have runs := operation.runs kernel
    simp only [quiet, Bool.false_eq_true] at runs
    exact wakesSleepers_of_moves sound runs
  cases operation with
  | flock handle fd requested nonblocking =>
    refine iff_of_true ?_ id
    rintro target ⟨owner, -, request, valid, conflicted, free⟩ slot asleep
    have outcome := flock_outcome sound handle fd requested nonblocking
    have final := ((Operation.flock handle fd requested nonblocking).runs kernel sound).1
    rcases LockOutcome.conflict outcome exclusion valid
      ((LockRequest.conflicts_true sound).mp conflicted) with stays | sleeper | ⟨_, _, _, _, _, asked, _⟩
    · exact absurd stays ((LockRequest.conflicts_false final).mp free)
    · exact sleeper slot asleep
    · cases asked
  | lockRange handle fd start length requested nonblocking =>
    constructor
    · exact fun wakes downgrade => silentDowngrade_loses sound exclusion nonblocking downgrade wakes
    · rintro noDowngrade target ⟨owner, -, request, valid, conflicted, free⟩ slot asleep
      have outcome := lockRange_outcome sound handle fd start length requested nonblocking
      have final :=
        ((Operation.lockRange handle fd start length requested nonblocking).runs kernel sound).1
      rcases LockOutcome.conflict outcome exclusion valid
        ((LockRequest.conflicts_true sound).mp conflicted) with
        stays | sleeper | ⟨_, index, _, _, _, asked, on, turns, acquired⟩
      · exact absurd stays ((LockRequest.conflicts_false final).mp free)
      · exact sleeper slot asleep
      · -- Nobody was asleep, or this would be a silent downgrade.
        obtain ⟨rfl, rest⟩ := Prod.mk.inj (Option.some.inj asked)
        obtain ⟨rfl, rfl⟩ := Prod.mk.inj rest
        obtain ⟨otherSlot, otherIndex, info, ranges, grantable⟩ :=
          grantable_of_lockRange (by rw [turns.1]; decide) acquired
        have otherOn := lockedOn_of_lockTarget grantable.located grantable.target
        obtain rfl := Except.ok.inj (on.located.symm.trans otherOn.located)
        obtain rfl := Except.ok.inj (on.resolved.symm.trans otherOn.resolved)
        obtain rfl := Option.some.inj (on.inode.symm.trans otherOn.inode)
        have granted := lockRange_of_grantable (by rw [turns.1]; decide) nonblocking grantable
        refine absurd ⟨_, _, info, ranges, grantable, turns, slot, ?_⟩ noDowngrade
        have same : ((Operation.lockRange handle fd start length requested nonblocking).next
            kernel).processes = kernel.processes :=
          congrArg (fun outcome => outcome.2.processes) granted
        rwa [same] at asleep
  | _ => exact iff_of_true (plain rfl) id

/-- Unlocking a file lets another description lock it, and wakes those who wait. -/
theorem unlock_wakes : Weakened ((initialized 0).after lockRun)
        ((Operation.flock 0x100000000 3 .none true).next ((initialized 0).after lockRun))
        (1, 1) ∧
      (Operation.flock 0x100000000 3 .none true).WakesSleepers
        ((initialized 0).after lockRun) :=
  ⟨⟨4, by decide, .wholeFile .shared, by simp [LockRequest.Valid], by decide +kernel,
      by decide +kernel⟩,
    (reachable_wakesSleepers ((reachable_initialized 0).after lockRun) _).mpr id⟩

/-- The first process and a child of it, before any descriptor is open. -/
def twoProcesses : Kernel where
  processes := (Table.spawn (some 0x100000000) { name := [99] } (Table.initialized 0)).2

theorem fresh_twoProcesses : Fresh twoProcesses := by
  have running : ∀ slot < maximumProcesses,
      (twoProcesses.processes.processes slot).state ≠ .blocked := by decide +kernel
  exact ⟨rfl, rfl, rfl, (fresh_initialized 0).linked,
    fun slot _ _ _ asleep => running slot asleep.bounded asleep.blocked⟩

/-- The first process locks ten bytes exclusively, and its child waits to share them. -/
def downgradeRun : List Operation := [
  .bindProcess 0x100000000 true,
  .bindProcess 0x100000001 true,
  .openFile 0x100000000 [47, 102] { read := true, write := true, create := true } 0o644 0,
  .openFile 0x100000001 [47, 102] { read := true, write := true } 0 0,
  .lockRange 0x100000000 3 0 10 .exclusive true,
  .lockRange 0x100000001 3 0 10 .shared false]

/-- When the first process turns its lock into a shared one, the child sleeps on. -/
theorem downgradeRun_strands_sleeper : Reachable (twoProcesses.after downgradeRun) ∧
      ¬ (Operation.lockRange 0x100000000 3 0 10 .shared true).WakesSleepers
        (twoProcesses.after downgradeRun) := by
  refine ⟨Reachable.after ⟨_, fresh_twoProcesses, Relation.ReflTransGen.refl⟩ downgradeRun,
    fun wakes => ?_⟩
  have weakened : Weakened (twoProcesses.after downgradeRun)
      ((Operation.lockRange 0x100000000 3 0 10 .shared true).next
        (twoProcesses.after downgradeRun)) (1, 1) :=
    ⟨7, by decide, .range 0 10 .shared, by simp [LockRequest.Valid, maximumFileSize],
      by decide +kernel, by decide +kernel⟩
  have acquired : (Kernel.lockRange 0x100000000 3 0 10 .shared true
      (twoProcesses.after downgradeRun)).1 = .ok .acquired := by decide +kernel
  have puts := wakes (1, 1) weakened 1
    ⟨by decide, by decide +kernel, by decide +kernel, by decide +kernel, by decide +kernel⟩
  exact nomatch acquired.symm.trans puts.2

end ZigOs.RuntimeFd
