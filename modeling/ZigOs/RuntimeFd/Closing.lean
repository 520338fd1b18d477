/-
This file shows that closing descriptors is a sequence of moves. The balance of
the books is what makes a close go through: the handle of a description
resolves, a pipe end belongs to a live pipe with a positive count, so only the
callback of the network stack can refuse, and then nothing has changed.
-/

import ZigOs.RuntimeFd.Moves

namespace ZigOs.RuntimeFd

open Scan RuntimeProcess RuntimeVfs Call System OpenDescription

/-! ### Sequences of moves -/

/-- While the books balance the step is a sequence of moves. -/
def Runs (relocks transfers : Prop) (before after : Kernel) : Prop :=
  Conserved before → Conserved after ∧ Relation.ReflTransGen (Move relocks transfers) before after

variable {relocks transfers : Prop}

instance : Std.Refl (Runs relocks transfers) where
  refl _ := fun sound => ⟨sound, Relation.ReflTransGen.refl⟩

instance : IsTrans Kernel (Runs relocks transfers) where
  trans _ _ _ start finish := fun sound => by
    obtain ⟨middle, first⟩ := start sound
    obtain ⟨final, second⟩ := finish middle
    exact ⟨final, first.trans second⟩

theorem runs_of_move {before after : Kernel}
    (move : Conserved before → Move relocks transfers before after) : Runs relocks transfers before after :=
  fun sound => ⟨(move sound).conserved sound, Relation.ReflTransGen.single (move sound)⟩

namespace Kernel

variable {kernel : Kernel}

theorem runs_processes {processes : Table}
    (calm : Calm kernel.processes processes) : Runs relocks transfers kernel { kernel with processes } :=
  runs_of_move fun sound =>
    Move.outside kernel _ _ _ (heldKept_of_steady sound.linked (refl _)) calm

variable {Value : Type}

theorem inProcesses_runs {call : TableCall Value} (calm : Keeps Calm call) :
    Keeps (Runs relocks transfers) (inProcesses call) :=
  fun kernel => runs_processes (calm kernel.processes)

theorem inVfs_runs {call : VfsCall Value} (steady : Keeps Vfs.Steady call) :
    Keeps (Runs relocks transfers) (inVfs call) :=
  fun kernel => runs_of_move fun sound => Move.outside kernel _ _ _
    (heldKept_of_steady sound.linked (steady kernel.vfs)) (refl _)

theorem syncDescriptorCount_runs (handle : Nat) :
    Keeps (Runs relocks transfers) (syncDescriptorCount handle) :=
  keeps_bind keeps_state fun _ => keeps_bind (keeps_lift _) fun _ =>
    keeps_bind (keeps_lift _) fun _ => inProcesses_runs (setResourceUsage_calm _ _ _ _)

/-! ### Closing a resource -/

variable {description : OpenDescription}

theorem OpenDescription.noSocket_of_holdsHandle
    (holds : description.holdsHandle = true) : description.socket = false := by
  cases kindOf : description.kind
  all_goals simp_all [holdsHandle, socket]

variable {index : Nat}

/-- Closing what a description holds succeeds, or changes nothing but a counter. -/
theorem closeResource_cases (sound : Conserved kernel) (below : index < maximumOpenDescriptions)
    (used : (kernel.system.openDescriptions index).used = true) : ∃ vfs calls,
      (closeResource (kernel.system.openDescriptions index) kernel).2 =
          { kernel with vfs, system := { kernel.system with externalCalls := calls } } ∧
        vfs.NamesLinked ∧
        Vfs.HandlesKept
          (· ≠ makeOpenId index (kernel.system.openDescriptions index).generation) kernel.vfs vfs ∧
        ((closeResource (kernel.system.openDescriptions index) kernel).1 = .ok () ∧
            calls = kernel.system.externalCalls +
              (kernel.system.openDescriptions index).socket.toNat ∨
          vfs = kernel.vfs ∧
            ∃ failure, (closeResource (kernel.system.openDescriptions index) kernel).1 =
              .error failure) := by
  unfold closeResource
  by_cases holds : (kernel.system.openDescriptions index).holdsHandle = true
  · obtain ⟨owner, target, found⟩ := sound.handles index below used holds
    obtain ⟨linked, kept⟩ := Vfs.close_keeps (kernel.system.openDescriptions index).vfsOwner
      (kernel.system.openDescriptions index).vfsHandle sound.linked
    rw [if_pos holds, OpenDescription.noSocket_of_holdsHandle holds]
    refine ⟨_, kernel.system.externalCalls, rfl, linked, owner ▸ kept, .inl ⟨?_, rfl⟩⟩
    exact Vfs.close_of_inode found
  · have same : Vfs.HandlesKept
        (· ≠ makeOpenId index (kernel.system.openDescriptions index).generation)
        kernel.vfs kernel.vfs := fun _ _ _ _ found => found
    rw [if_neg holds]
    split
    · rename_i isSocket
      rw [bind_state, isSocket]
      split
      · exact ⟨kernel.vfs, kernel.system.externalCalls, rfl, sound.linked, same,
          .inr ⟨rfl, _, rfl⟩⟩
      · refine ⟨kernel.vfs, kernel.system.externalCalls + 1, ?_, sound.linked, same, ?_⟩
        all_goals
          simp only [changeSystem, bind_change, failWhen_apply]
          split
        · rfl
        · rfl
        · exact .inr ⟨trivial, _, rfl⟩
        · exact .inl (by simp)
    · rename_i noSocket
      rw [Bool.eq_false_iff.mpr noSocket]
      exact ⟨kernel.vfs, kernel.system.externalCalls, rfl, sound.linked, same, .inl ⟨rfl, rfl⟩⟩

/-! ### Closing an end of a pipe -/

/-- An end of a live pipe goes away and the other side is awake; other kinds change nothing. -/
theorem closePipeEnd_ends (kernel : Kernel) (description : OpenDescription)
    (live : description.kind.isPipe = true → description.resourceIndex < maximumPipes ∧
      (kernel.system.pipes description.resourceIndex).used = true ∧
      (kernel.system.pipes description.resourceIndex).generation = description.resourceGeneration)
    (readers : description.kind = .pipeRead →
      (kernel.system.pipes description.resourceIndex).readers ≠ 0)
    (writers : description.kind = .pipeWrite →
      (kernel.system.pipes description.resourceIndex).writers ≠ 0) :
    ∃ processes, closePipeEnd description kernel =
        (.ok (), { kernel with
          system := kernel.system.modifyPipe description.resourceIndex
            (Pipe.dropEnd description.kind)
          processes }) ∧
      Calm kernel.processes processes ∧
      (description.kind = .pipeRead → Nobody processes .pipeWrite
        (pipeWaitKey description.resourceIndex description.resourceGeneration)) ∧
      (description.kind = .pipeWrite → Nobody processes .pipeRead
        (pipeWaitKey description.resourceIndex description.resourceGeneration)) := by
  have resolved (isPipe : description.kind.isPipe = true) :
      kernel.system.resolvePipe description = .ok description.resourceIndex := by
    obtain ⟨below, used, current⟩ := live isPipe
    unfold resolvePipe
    dsimp only
    rw [if_neg (not_le.mpr below), if_neg (by simp [used, current])]
  have woken (reason : WaitReason) (target : Nat) :
      Nobody (kernel.processes.wakeMatching reason target true).2 reason target :=
    fun slot asleep => (wakeMatching_asleep asleep).2 ⟨rfl, rfl⟩
  have untouched (apart : description.kind.isPipe = false) :
      kernel.system.modifyPipe description.resourceIndex (Pipe.dropEnd description.kind) =
        kernel.system := by
    have same : Pipe.dropEnd description.kind = id := by
      cases kindOf : description.kind
      case pipeRead => simp [kindOf, DescriptionKind.isPipe] at apart
      case pipeWrite => simp [kindOf, DescriptionKind.isPipe] at apart
      all_goals rfl
    simp [modifyPipe, same]
  cases kindOf : description.kind
  case pipeRead =>
    have isPipe : description.kind.isPipe = true := by rw [kindOf]; rfl
    have current := (live isPipe).2.2
    refine ⟨(kernel.processes.wakeMatching .pipeWrite (pipeWaitKey description.resourceIndex
      (kernel.system.pipes description.resourceIndex).generation) true).2, ?_,
      wakeMatching_calm _ _ _, fun _ => current ▸ woken _ _, fun other => (by cases other)⟩
    simp only [closePipeEnd, bind_state, kindOf]
    rw [resolved isPipe, bind_lift_ok, bind_failWhen, if_neg (readers kindOf)]
    rfl
  case pipeWrite =>
    have isPipe : description.kind.isPipe = true := by rw [kindOf]; rfl
    have current := (live isPipe).2.2
    refine ⟨(kernel.processes.wakeMatching .pipeRead (pipeWaitKey description.resourceIndex
      (kernel.system.pipes description.resourceIndex).generation) true).2, ?_,
      wakeMatching_calm _ _ _, fun other => (by cases other), fun _ => current ▸ woken _ _⟩
    simp only [closePipeEnd, bind_state, kindOf]
    rw [resolved isPipe, bind_lift_ok, bind_failWhen, if_neg (writers kindOf)]
    rfl
  all_goals
    have apart := untouched (by rw [kindOf]; rfl)
    rw [kindOf] at apart
    rw [apart]
    refine ⟨kernel.processes, ?_, refl _, fun other => (by cases other),
      fun other => (by cases other)⟩
    simp only [closePipeEnd, bind_state, kindOf, pure_apply]

/-- What happens after the last reference is gone, when the pipe end can go. -/
theorem retireDescription_ends {middle : Kernel} (index : Nat) (waitKey : Option Nat)
    (closed : closePipeEnd description kernel = (.ok (), middle)) :
    ∃ final, retireDescription index description waitKey kernel =
        (.ok (), { middle with
          system := middle.system.clearDescription index
          processes := final }) ∧
      Calm middle.processes final ∧ ∀ key, waitKey = some key → Nobody final .fileLock key := by
  unfold retireDescription
  rw [bind_of_ok closed]
  cases waitKey with
  | none => exact ⟨middle.processes, rfl, refl _, fun key found => nomatch found⟩
  | some key =>
    refine ⟨(middle.processes.wakeMatching .fileLock key true).2, rfl, wakeMatching_calm _ _ _,
      fun other same slot asleep => ?_⟩
    cases same
    exact (wakeMatching_asleep asleep).2 ⟨rfl, rfl⟩

/-! ### Closing a descriptor -/

/-- The tables after a close of the last reference, however the steps of the source are ordered. -/
theorem retired_eq (system : System) (slot fd calls : Nat) :
    ((({ (system.setDescriptor slot fd {}).modifyDescription
          ((system.namespaces slot).descriptors fd).openIndex release with
        externalCalls := calls } : System).modifyPipe (system.described slot fd).resourceIndex
          (Pipe.dropEnd (system.described slot fd).kind)).clearDescription
          ((system.namespaces slot).descriptors fd).openIndex) =
      { system with externalCalls := calls }.retired slot fd := by
  simp [System.retired, System.described, clearDescription, modifyDescription,
    modifyPipe, setDescriptor, modifyNamespace, release]

variable {waitKey : Option Nat}

/-- The wait target of a close is the key of the inode whose locks go away. -/
theorem advisoryWaitKey_locks (last : (kernel.system.openDescriptions index).references = 1)
    (result : advisoryWaitKey kernel.vfs (kernel.system.openDescriptions index) = .ok waitKey)
    (locked : (kernel.system.openDescriptions index).advisoryLock ≠ .none ∨
      (kernel.system.openDescriptions index).byteRangeLocks ≠ []) {target : Nat × Nat}
    (inode : kernel.inodeOf index = some target) :
    waitKey = some (fileLockWaitKey target.1 target.2) := by
  unfold inodeOf at inode
  split at inode
  · rename_i onVfs
    unfold advisoryWaitKey at result
    rw [if_pos ⟨last, onVfs.2, locked⟩] at result
    obtain ⟨info, found, same⟩ := Vfs.openInfo_of_inode inode
    rw [found] at result
    rw [← same, ← Except.ok.inj result]
  · cases inode

/-- A pipe end that is described has a live pipe that counts it. -/
theorem Conserved.pipe_end (sound : Conserved kernel) (below : index < maximumOpenDescriptions)
    (used : (kernel.system.openDescriptions index).used = true) :
    ((kernel.system.openDescriptions index).kind = .pipeRead →
      (kernel.system.pipes (kernel.system.openDescriptions index).resourceIndex).readers ≠ 0) ∧
    ((kernel.system.openDescriptions index).kind = .pipeWrite →
      (kernel.system.pipes (kernel.system.openDescriptions index).resourceIndex).writers ≠ 0) := by
  have counted (isPipe : (kernel.system.openDescriptions index).kind.isPipe = true) :
      0 < kernel.system.ends (kernel.system.openDescriptions index).kind
        (kernel.system.openDescriptions index).resourceIndex := by
    have current := (sound.pipes.live index below used isPipe).2.2
    refine countIndex_pos (fun other => (kernel.system.openDescriptions other).endOf
      (kernel.system.openDescriptions index).kind
      (kernel.system.openDescriptions index).resourceIndex
      (kernel.system.pipes (kernel.system.openDescriptions index).resourceIndex).generation) below ?_
    simp [endOf, used, current]
  constructor
  · intro kindOf
    have isPipe : (kernel.system.openDescriptions index).kind.isPipe = true := by rw [kindOf]; rfl
    have positive := counted isPipe
    rw [kindOf] at positive
    rw [sound.pipes.readers _ (sound.pipes.live index below used isPipe).1]
    exact positive.ne'
  · intro kindOf
    have isPipe : (kernel.system.openDescriptions index).kind.isPipe = true := by rw [kindOf]; rfl
    have positive := counted isPipe
    rw [kindOf] at positive
    rw [sound.pipes.writers _ (sound.pipes.live index below used isPipe).1]
    exact positive.ne'

/-- The descriptor is the last one of a socket, and the network stack does not close it now. -/
def Refuses (system : System) (slot fd : Nat) : Prop :=
  (system.described slot fd).references = 1 ∧ (system.described slot fd).socket = true ∧
    ∀ closeFn, system.externalClose = some closeFn →
      closeFn system.externalCalls (system.described slot fd).resourceIndex
        (system.described slot fd).resourceGeneration = false

/-- Closing the last descriptor of a socket calls the network stack. -/
def counted (system : System) (slot fd : Nat) : System :=
  { system with
    externalCalls := system.externalCalls + (system.described slot fd).socket.toNat }

/-- What closing a used descriptor ends in: nothing but a counter changed, one reference less, or
the description is gone with what hung on it. -/
inductive Closed (kernel : Kernel) (slot fd : Nat) : Except Error Unit → Kernel → Prop
  | refused (failure : Error) (calls : Nat) (refuses : Refuses kernel.system slot fd) :
      Closed kernel slot fd (.error failure)
        { kernel with system := { kernel.system with externalCalls := calls } }
  | dropped (more : (kernel.system.described slot fd).references ≠ 1) :
      Closed kernel slot fd (.ok ()) { kernel with system := kernel.system.dropped slot fd }
  | retired {vfs : Vfs} {processes : Table} (accepts : ¬ Refuses kernel.system slot fd)
      (retires : Retires { kernel with system := counted kernel.system slot fd } slot fd vfs
        processes) :
      Closed kernel slot fd (.ok ())
        { system := (counted kernel.system slot fd).retired slot fd, vfs, processes }

variable {slot fd : Nat}

/-- The network stack refuses exactly when the resource does not close. -/
theorem closeResource_refuses (sound : Conserved kernel) (named : Named kernel.system slot fd)
    (last : (kernel.system.described slot fd).references = 1) :
    (closeResource (kernel.system.described slot fd) kernel).1 ≠ .ok () ↔
      Refuses kernel.system slot fd := by
  obtain ⟨below, used⟩ := sound.described_used named
  unfold closeResource
  by_cases holds : (kernel.system.described slot fd).holdsHandle = true
  · obtain ⟨owner, target, found⟩ := sound.handles _ below used holds
    have closes : (inVfs (Vfs.close (kernel.system.described slot fd).vfsOwner
        (kernel.system.described slot fd).vfsHandle) kernel).1 = .ok () := Vfs.close_of_inode found
    have noSocket := OpenDescription.noSocket_of_holdsHandle holds
    rw [if_pos holds]
    exact iff_of_false (not_not.mpr closes) fun refuses => by
      rw [refuses.2.1] at noSocket
      cases noSocket
  · rw [if_neg holds]
    by_cases isSocket : (kernel.system.described slot fd).socket = true
    · rw [if_pos isSocket, bind_state]
      cases close : kernel.system.externalClose with
      | none =>
        refine iff_of_true (by simp) ⟨last, isSocket, fun closeFn installed => ?_⟩
        rw [close] at installed
        cases installed
      | some closeFn =>
        simp only [changeSystem, bind_change, failWhen_apply]
        split
        · rename_i answer
          refine iff_of_true (by simp) ⟨last, isSocket, fun installed same => ?_⟩
          rw [close] at same
          cases same
          exact answer
        · rename_i answer
          exact iff_of_false (by simp) fun refuses => answer (refuses.2.2 closeFn close)
    · rw [if_neg isSocket]
      exact iff_of_false (by simp) fun refuses => isSocket refuses.2.1

/-- Closing the last descriptor of a description retires it, or the network stack refuses. -/
theorem closeLast_closed (sound : Conserved kernel) (named : Named kernel.system slot fd)
    (last : (kernel.system.described slot fd).references = 1)
    (key : advisoryWaitKey kernel.vfs (kernel.system.described slot fd) = .ok waitKey) :
    Yields (Closed kernel slot fd) kernel (do
      closeResource (kernel.system.described slot fd)
      changeSystem fun system => (system.setDescriptor slot fd {}).modifyDescription
        ((kernel.system.namespaces slot).descriptors fd).openIndex release
      retireDescription ((kernel.system.namespaces slot).descriptors fd).openIndex
        (kernel.system.described slot fd) waitKey) := by
  obtain ⟨below, used⟩ := sound.described_used named
  obtain ⟨vfs, calls, closed, linked, kept, success⟩ := closeResource_cases sound below used
  change (closeResource (kernel.system.described slot fd) kernel).2 = _ at closed
  change (closeResource (kernel.system.described slot fd) kernel).1 = .ok () ∧ _ ∨ _ ∧
    ∃ failure, (closeResource (kernel.system.described slot fd) kernel).1 = .error failure at success
  have refuses := closeResource_refuses sound named last
  rcases outcome : closeResource (kernel.system.described slot fd) kernel with
    ⟨failure | value, middle⟩
  · rw [outcome] at closed success refuses
    obtain ⟨sameVfs, -⟩ := success.resolve_left fun accepted => nomatch accepted.1
    rw [sameVfs] at closed
    unfold Yields
    rw [bind_of_error outcome, show middle = _ from closed]
    exact .refused failure calls (refuses.mp (nomatch ·))
  · rw [outcome] at closed success refuses
    have accepted : calls = kernel.system.externalCalls +
        (kernel.system.described slot fd).socket.toNat := by
      rcases success with ⟨-, counts⟩ | ⟨-, _, refused⟩
      · exact counts
      · cases refused
    have middleOf : middle =
        { kernel with vfs, system := { kernel.system with externalCalls := calls } } := closed
    subst middleOf
    unfold Yields
    rw [bind_of_ok outcome]
    let released : Kernel :=
      { kernel with
        vfs
        system := { (kernel.system.setDescriptor slot fd {}).modifyDescription
            ((kernel.system.namespaces slot).descriptors fd).openIndex release with
          externalCalls := calls } }
    obtain ⟨readers, writers⟩ := Conserved.pipe_end sound below used
    obtain ⟨processes, ended, calm, readEnd, writeEnd⟩ := closePipeEnd_ends released
      (kernel.system.described slot fd) (sound.pipes.live _ below used) readers writers
    obtain ⟨final, retired, finalCalm, lockEnd⟩ := retireDescription_ends
      ((kernel.system.namespaces slot).descriptors fd).openIndex waitKey ended
    have retires : Retires { kernel with system := { kernel.system with externalCalls := calls } }
        slot fd vfs final := by
      refine ⟨⟨named.slotBelow, named.fdBelow, named.used⟩, last, linked, kept, Trans.trans calm finalCalm, fun kindOf other asleep =>
        readEnd kindOf other (finalCalm _ _ _ rfl asleep), fun kindOf other asleep =>
        writeEnd kindOf other (finalCalm _ _ _ rfl asleep), fun locked target inode => ?_⟩
      exact lockEnd _ (advisoryWaitKey_locks last key locked inode)
    have reached : retireDescription ((kernel.system.namespaces slot).descriptors fd).openIndex
        (kernel.system.described slot fd) waitKey released =
        (.ok (),
          { system := { kernel.system with externalCalls := calls }.retired slot fd
            vfs
            processes := final }) := by
      rw [retired]
      exact congrArg (fun system => (Except.ok (), Kernel.mk system vfs final))
        (retired_eq kernel.system slot fd calls)
    change Closed kernel slot fd
      (retireDescription _ (kernel.system.described slot fd) waitKey released).1
      (retireDescription _ (kernel.system.described slot fd) waitKey released).2
    rw [reached]
    subst accepted
    exact .retired (fun refused => refuses.mpr refused rfl) retires

/-- The locks of a description that is closed belong to an inode. -/
theorem advisoryWaitKey_ok (sound : Conserved kernel) (named : Named kernel.system slot fd) :
    ∃ waitKey, advisoryWaitKey kernel.vfs (kernel.system.described slot fd) = .ok waitKey := by
  obtain ⟨below, used⟩ := sound.described_used named
  unfold advisoryWaitKey
  split
  · rename_i locked
    have holds : (kernel.system.described slot fd).holdsHandle = true := by
      simp [holdsHandle, locked.2.1]
    obtain ⟨-, target, found⟩ := sound.handles _ below used holds
    obtain ⟨info, opened, -⟩ := Vfs.openInfo_of_inode found
    change kernel.vfs.openInfo (kernel.system.described slot fd).vfsOwner
      (kernel.system.described slot fd).vfsHandle = .ok info at opened
    exact ⟨_, by rw [opened]⟩
  · exact ⟨none, rfl⟩

theorem closeDescriptorAt_closed (sound : Conserved kernel) (named : Named kernel.system slot fd) :
    Yields (Closed kernel slot fd) kernel (closeDescriptorAt slot fd) := by
  obtain ⟨below, used⟩ := sound.described_used named
  obtain ⟨-, referenced⟩ := sound.referencesOf_described named
  obtain ⟨waitKey, key⟩ := advisoryWaitKey_ok sound named
  have inUse : ¬ (((kernel.system.namespaces slot).descriptors fd).used = false ∨
      ((kernel.system.namespaces slot).descriptors fd).openIndex ≥ maximumOpenDescriptions) := by
    rintro (unused | large)
    · rw [named.used] at unused
      cases unused
    · omega
  have described : ¬ ((kernel.system.described slot fd).used = false ∨
      (kernel.system.described slot fd).references = 0) := by
    rintro (unused | none)
    · rw [used] at unused
      cases unused
    · exact referenced none
  refine yields_state (yields_failWhen (fun fails => absurd fails inUse) fun _ =>
    yields_failWhen (fun fails => absurd fails described) fun _ => ?_)
  refine yields_lift (fun failure fails => ?_) fun found located => ?_
  · have impossible := key.symm.trans fails
    cases impossible
  · cases (key.symm.trans located)
    exact yields_ite (fun last => closeLast_closed sound named last key) fun more => .dropped more

theorem Closed.runs {kernel after : Kernel} {slot fd : Nat} {result : Except Error Unit}
    (closed : Closed kernel slot fd result after) (named : Named kernel.system slot fd) :
    Runs relocks transfers kernel after := by
  have counting (calls : Nat) : Runs relocks transfers kernel
      { kernel with system := { kernel.system with externalCalls := calls } } :=
    runs_of_move fun sound => Move.outside kernel _ _ _
      (heldKept_of_steady sound.linked (refl _)) (refl _)
  cases closed with
  | refused failure calls refuses => exact counting calls
  | dropped more => exact runs_of_move fun _ => Move.drop kernel named more
  | retired accepts retires =>
    exact IsTrans.trans _ _ _ (counting _) (runs_of_move fun _ => Move.retire _ retires)

theorem closeDescriptorAt_runs (slotBelow : slot < maximumProcesses)
    (fdBelow : fd < maximumDescriptorsPerProcess) :
    Keeps (Runs relocks transfers) (closeDescriptorAt slot fd) := by
  intro kernel sound
  by_cases used : ((kernel.system.namespaces slot).descriptors fd).used = true
  · have named : Named kernel.system slot fd := ⟨slotBelow, fdBelow, used⟩
    exact (closeDescriptorAt_closed sound named).runs named sound
  · have unchanged : (closeDescriptorAt slot fd kernel).2 = kernel := by
      simp only [closeDescriptorAt, bind_state]
      rw [bind_failWhen, if_pos (.inl (by simpa using used))]
    rw [unchanged]
    exact refl (r := Runs relocks transfers) kernel sound

/-! ### What is left in the namespace -/

/-- The namespaces are unchanged. -/
def SameNamespaces (before after : Kernel) : Prop :=
  after.system.namespaces = before.system.namespaces

instance : Std.Refl SameNamespaces where
  refl _ := rfl

instance : IsTrans Kernel SameNamespaces where
  trans _ _ _ start finish := finish.trans start

theorem wakeAll_sameNamespaces (reason : WaitReason) (target : Nat) :
    Keeps SameNamespaces (wakeAll reason target) := fun _ => rfl

theorem closeResource_sameNamespaces (description : OpenDescription) :
    Keeps SameNamespaces (closeResource description) := by
  refine keeps_ite (fun _ => rfl) (keeps_ite ?_ (keeps_pure _))
  refine keeps_bind keeps_state fun kernel => ?_
  split
  · exact keeps_fail _
  · exact keeps_bind (keeps_change fun _ => rfl) fun _ => keeps_failWhen _ _

theorem retireDescription_sameNamespaces (index : Nat) (description : OpenDescription)
    (waitKey : Option Nat) :
    Keeps SameNamespaces (retireDescription index description waitKey) := by
  have ended : Keeps SameNamespaces (closePipeEnd description) := by
    refine keeps_bind keeps_state fun kernel => ?_
    split
    · exact keeps_bind (keeps_lift _) fun _ => keeps_bind (keeps_failWhen _ _)
        fun _ => keeps_bind (wakeAll_sameNamespaces _ _) fun _ => keeps_change fun _ => rfl
    · exact keeps_bind (keeps_lift _) fun _ => keeps_bind (keeps_failWhen _ _)
        fun _ => keeps_bind (wakeAll_sameNamespaces _ _) fun _ => keeps_change fun _ => rfl
    · exact keeps_pure _
  refine keeps_bind ended fun _ => keeps_bind (keeps_change fun _ => rfl) fun _ => ?_
  split
  · exact keeps_bind (wakeAll_sameNamespaces _ _) fun _ => keeps_pure _
  · exact keeps_pure _

variable {after : Kernel}

theorem closeDescriptorAt_namespaces (closed : closeDescriptorAt slot fd kernel = (.ok (), after)) :
    after.system.namespaces = (kernel.system.setDescriptor slot fd {}).namespaces := by
  unfold closeDescriptorAt at closed
  rw [bind_state, bind_failWhen] at closed
  split at closed
  · cases closed
  · rw [bind_failWhen] at closed
    split at closed
    · cases closed
    · obtain ⟨waitKey, middle, check, closed⟩ := bind_ok_cases closed
      obtain ⟨-, rfl⟩ := Prod.mk.inj check
      rw [Call.ite_apply] at closed
      split at closed
      · obtain ⟨_, resourceClosed, resource, closed⟩ := bind_ok_cases closed
        have sameResource := closeResource_sameNamespaces
          (kernel.system.openDescriptions ((kernel.system.namespaces slot).descriptors fd).openIndex)
          kernel
        rw [resource] at sameResource
        simp only [changeSystem, bind_change] at closed
        have sameRetired := retireDescription_sameNamespaces
          ((kernel.system.namespaces slot).descriptors fd).openIndex
          (kernel.system.openDescriptions ((kernel.system.namespaces slot).descriptors fd).openIndex)
          waitKey { resourceClosed with
            system := (resourceClosed.system.setDescriptor slot fd {}).modifyDescription
              ((kernel.system.namespaces slot).descriptors fd).openIndex release }
        rw [closed] at sameRetired
        refine sameRetired.trans ?_
        change Function.update resourceClosed.system.namespaces slot _ = _
        rw [show resourceClosed.system.namespaces = kernel.system.namespaces from sameResource]
        rfl
      · cases closed
        rfl

variable {count : Nat}

/-- After a successful sweep over descriptors the tested ones are gone, and nothing else changed. -/
theorem closeEach_namespaces {test : Descriptor → Bool} (fds : List Nat)
    (closed : closeEach slot test fds kernel = (.ok count, after)) :
    (∀ other ≠ slot, after.system.namespaces other = kernel.system.namespaces other) ∧
    (after.system.namespaces slot).used = (kernel.system.namespaces slot).used ∧
    (∀ fd, ((after.system.namespaces slot).descriptors fd).used = true →
      (after.system.namespaces slot).descriptors fd = (kernel.system.namespaces slot).descriptors fd ∧
        (fd ∈ fds → test ((kernel.system.namespaces slot).descriptors fd) = false)) := by
  induction fds generalizing kernel count with
  | nil =>
    cases closed
    exact ⟨fun _ _ => rfl, rfl, fun fd _ => ⟨rfl, fun member => nomatch member⟩⟩
  | cons fd rest hypothesis =>
    unfold closeEach at closed
    rw [bind_state, Call.ite_apply] at closed
    split at closed
    · obtain ⟨_, middle, first, closed⟩ := bind_ok_cases closed
      obtain ⟨restCount, final, others, closed⟩ := bind_ok_cases closed
      cases closed
      have namespaces := closeDescriptorAt_namespaces first
      obtain ⟨elsewhere, sameUsed, descriptors⟩ := hypothesis others
      refine ⟨fun other different => (elsewhere other different).trans ?_, sameUsed.trans ?_,
        fun column used => ?_⟩
      · rw [namespaces]
        simp [setDescriptor, modifyNamespace, different]
      · rw [namespaces]
        simp [setDescriptor, modifyNamespace]
      · obtain ⟨same, tested⟩ := descriptors column used
        have here : column ≠ fd := by
          rintro rfl
          rw [same, namespaces] at used
          simp [setDescriptor, modifyNamespace] at used
        have unchanged : (middle.system.namespaces slot).descriptors column =
            (kernel.system.namespaces slot).descriptors column := by
          rw [namespaces]
          simp [setDescriptor, modifyNamespace, here]
        rw [unchanged] at same tested
        refine ⟨same, fun member => ?_⟩
        rcases List.mem_cons.mp member with isHead | inRest
        · exact absurd isHead here
        · exact tested inRest
    · rename_i skipped
      obtain ⟨elsewhere, sameUsed, descriptors⟩ := hypothesis closed
      refine ⟨elsewhere, sameUsed, fun column used => ?_⟩
      obtain ⟨same, tested⟩ := descriptors column used
      refine ⟨same, fun member => ?_⟩
      rcases List.mem_cons.mp member with rfl | inRest
      · rw [same] at used
        simpa [used] using skipped
      · exact tested inRest

theorem closeEach_runs (test : Descriptor → Bool) (slotBelow : slot < maximumProcesses)
    (fds : List Nat) (below : ∀ fd ∈ fds, fd < maximumDescriptorsPerProcess) :
    Keeps (Runs relocks transfers) (closeEach slot test fds) := by
  induction fds with
  | nil => exact keeps_ok _
  | cons fd rest hypothesis =>
    have others := hypothesis fun other member => below other (List.mem_cons_of_mem _ member)
    refine keeps_bind keeps_state fun kernel => keeps_ite ?_ others
    exact keeps_bind (closeDescriptorAt_runs slotBelow (below fd List.mem_cons_self))
      fun _ => keeps_bind others fun _ => keeps_pure _

/-- When every descriptor of a namespace is closed, none is left. -/
theorem closeEach_empty
    (closed : closeEach slot (fun _ => true) (List.range maximumDescriptorsPerProcess) kernel =
      (.ok count, after)) :
    ∀ fd < maximumDescriptorsPerProcess, ((after.system.namespaces slot).descriptors fd).used = false := by
  intro fd below
  by_contra used
  have tested := ((closeEach_namespaces _ closed).2.2 fd (by simpa using used)).2
  cases tested (List.mem_range.mpr below)

end Kernel

end ZigOs.RuntimeFd
