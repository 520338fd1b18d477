/-
This file proves that the counts of the process table never drift from the
namespaces, in every run whose steps meet one condition. Each call that changes
a namespace checks its room before, so storing the new counts cannot fail. The
condition is about the calls that close several descriptors: once one of them
is closed the network stack must not refuse a later one, and a process that is
released must not hold sockets.
-/

import ZigOs.RuntimeFd.Accounting

namespace ZigOs.RuntimeFd

open Scan RuntimeProcess RuntimeVfs Call Function List System Kernel

theorem Pending.install {kernel : Kernel} {handle slot fd index : Nat} {account : Account}
    (pending : Pending handle slot account kernel) (sound : kernel.system.Referenced)
    (new : NewDescription) (closeOnExec : Bool) (free : FreeSlots kernel.system slot fd index)
    (descriptors : kernel.system.descriptorCount slot + 1 ≤ account.limits.maximumDescriptors)
    (sockets : kernel.system.socketDescriptionCount slot + new.socket.toNat ≤
      account.limits.maximumSockets) :
    Pending handle slot account
      { kernel with system := kernel.system.installDescription slot fd index new closeOnExec } := by
  obtain ⟨descriptorsAre, socketsAre⟩ :=
    Prod.mk.inj (installDescription_usage sound new closeOnExec free)
  exact pending.change (@refl _ SameAccounts _ kernel.processes)
    (installDescription_changedAt sound new closeOnExec free)
    (descriptorsAre.trans_le descriptors) (socketsAre.trans_le sockets)

/-- One more descriptor for a description that the namespace names already. -/
theorem Pending.share {kernel : Kernel} {handle slot fd index : Nat} {account : Account}
    (pending : Pending handle slot account kernel) (fdBelow : fd < maximumDescriptorsPerProcess)
    (fdFree : ((kernel.system.namespaces slot).descriptors fd).used = false)
    (known : kernel.system.names slot index = true)
    (room : kernel.system.descriptorCount slot + 1 ≤ account.limits.maximumDescriptors) :
    Pending handle slot account
      { kernel with system := Kernel.shareDescription slot fd index kernel.system } := by
  obtain ⟨descriptors, sockets⟩ :=
    Prod.mk.inj (shareDescription_usage fdBelow fdFree known)
  exact pending.change (@refl _ SameAccounts _ kernel.processes)
    (shareDescription_changedAt kernel.system slot fd index) (descriptors.trans_le room)
    (sockets.trans_le pending.fits.sockets)

theorem System.names_of_resolved {system : System} {slot fd index : Nat}
    (resolved : system.resolveDescriptor slot fd = .ok index) : system.names slot index = true := by
  obtain ⟨below, used, same, -, -⟩ := resolveDescriptor_ok resolved
  exact names_iff.mpr ⟨fd, below, by simp [Descriptor.names, used, same]⟩

/-- The two ends of a pipe are two descriptors and no socket. -/
theorem Pending.installPipe {kernel : Kernel} {handle slot : Nat} {account : Account}
    (pending : Pending handle slot account kernel) (sound : kernel.system.Referenced)
    {readFd writeFd readIndex writeIndex : Nat}
    (freeRead : FreeSlots kernel.system slot readFd readIndex)
    (freeWrite : FreeSlots kernel.system slot writeFd writeIndex) (fdApart : writeFd ≠ readFd)
    (indexApart : writeIndex ≠ readIndex) (pipe : Nat)
    (room : kernel.system.descriptorCount slot + 2 ≤ account.limits.maximumDescriptors) :
    Pending handle slot account { kernel with
      system := installPipe kernel.system slot readFd writeFd readIndex writeIndex pipe } := by
  let created : Kernel :=
    { kernel with
      system := kernel.system.modifyPipe pipe fun _ =>
        { used := true
          generation := nextGeneration (kernel.system.pipes pipe).generation
          readers := 1
          writers := 1 } }
  have createdSound : created.system.Referenced := sound.congr rfl fun _ => ⟨rfl, rfl⟩
  have createdRead : FreeSlots created.system slot readFd readIndex :=
    ⟨freeRead.slotBelow, freeRead.slotUsed, freeRead.fdBelow, freeRead.fdFree, freeRead.indexBelow,
      freeRead.indexFree⟩
  have createdWrite : FreeSlots created.system slot writeFd writeIndex :=
    ⟨freeWrite.slotBelow, freeWrite.slotUsed, freeWrite.fdBelow, freeWrite.fdFree,
      freeWrite.indexBelow, freeWrite.indexFree⟩
  have start : Pending handle slot account created :=
    ⟨pending.others, pending.located, pending.found, pending.fits⟩
  have oneRoom : created.system.descriptorCount slot + 1 ≤ account.limits.maximumDescriptors :=
    (Nat.le_succ _).trans room
  have read := start.install createdSound
    { kind := .pipeRead
      readable := true
      writable := false
      resourceIndex := pipe
      resourceGeneration := nextGeneration (kernel.system.pipes pipe).generation } false createdRead
    oneRoom pending.fits.sockets
  refine read.install (createdSound.install _ false createdRead) _ false
    (createdWrite.install _ false fdApart indexApart) ?_ read.fits.sockets
  have counted := (Prod.mk.inj (installDescription_usage createdSound
    { kind := .pipeRead
      readable := true
      writable := false
      resourceIndex := pipe
      resourceGeneration := nextGeneration (kernel.system.pipes pipe).generation } false
    createdRead)).1
  exact (congrArg (· + 1) counted).trans_le room

namespace Kernel

variable {Value : Type} {kernel : Kernel}

/-! ### What the checks leave room for -/

variable {Next : Type}

/-- The filesystem moves on, whatever it answers. -/
theorem yields_inVfs {post : Except Error Value → Kernel → Prop} {call : VfsCall Next}
    {next : Next → KernelCall Value}
    (fails : ∀ failure vfs, post (.error failure) { kernel with vfs })
    (rest : ∀ value vfs, Yields post { kernel with vfs } (next value)) :
    Yields post kernel (inVfs call >>= next) :=
  yields_bind (fun failure _ outcome => (inVfs_after outcome).1 ▸ fails failure _)
    fun value _ outcome => (inVfs_after outcome).1 ▸ rest value _

variable {system : System} {slot : Nat} {process : Process}

theorem requireDescriptorCapacity_ok {additional : Nat}
    (room : system.requireDescriptorCapacity slot process additional = .ok ()) :
    system.descriptorCount slot + additional ≤ process.limits.maximumDescriptors := by
  unfold requireDescriptorCapacity at room
  split at room
  · cases room
  · rename_i fits
    exact not_lt.mp fits

variable {handle : Nat}

theorem yields_findFreeSlots {post : Except Error Value → Kernel → Prop}
    {next : Nat × Nat → KernelCall Value}
    (located : kernel.system.resolveNamespace handle = .ok slot)
    (fails : ∀ failure, post (.error failure) kernel)
    (rest : ∀ fd index, FreeSlots kernel.system slot fd index →
      kernel.system.descriptorCount slot + 1 ≤ process.limits.maximumDescriptors →
        Yields post kernel (next (fd, index))) :
    Yields post kernel (findFreeSlots slot process >>= next) := by
  unfold Yields
  rw [bind_apply]
  simp only [findFreeSlots, bind_state]
  cases room : kernel.system.requireDescriptorCapacity slot process 1 with
  | error failure => exact fails failure
  | ok _ =>
    rw [bind_lift_ok]
    cases descriptors : kernel.system.findFreeDescriptors slot 1 with
    | error failure => exact fails failure
    | ok fds =>
      rw [bind_lift_ok]
      cases opens : kernel.system.findFreeOpenDescriptions 1 with
      | error failure => exact fails failure
      | ok indices =>
        obtain ⟨fdCount, -, fdFree⟩ := findFreeDescriptors_ok descriptors
        obtain ⟨indexCount, -, indexFree⟩ := findFreeOpenDescriptions_ok opens
        obtain ⟨fd, rfl⟩ := length_eq_one_iff.mp fdCount
        obtain ⟨index, rfl⟩ := length_eq_one_iff.mp indexCount
        obtain ⟨slotBelow, slotUsed⟩ := resolveNamespace_ok located
        obtain ⟨fdBelow, fdUnused⟩ := fdFree fd mem_cons_self
        obtain ⟨indexBelow, indexUnused⟩ := indexFree index mem_cons_self
        exact rest fd index ⟨slotBelow, slotUsed, fdBelow, fdUnused, indexBelow, indexUnused⟩
          (requireDescriptorCapacity_ok room)

/-- The table balances after the call. -/
abbrev Balances (kernel : Kernel) (call : KernelCall Value) : Prop :=
  Yields (fun _ after => Balanced after) kernel call

variable {account : Account}

theorem balances_sync (pending : Pending handle slot account kernel) (value : Value) :
    Balances kernel (do
      syncDescriptorCount handle
      return value) := by
  obtain ⟨processes, stores, balanced, -⟩ := pending.sync
  unfold Balances Yields
  rwa [bind_of_ok stores]

/-! ### New descriptors -/

variable {fd index : Nat}

theorem installOrUndo_balances (pending : Pending handle slot account kernel)
    (sound : kernel.system.Referenced) (new : NewDescription) (closeOnExec : Bool)
    (free : FreeSlots kernel.system slot fd index)
    (descriptors : kernel.system.descriptorCount slot + 1 ≤ account.limits.maximumDescriptors)
    (sockets : kernel.system.socketDescriptionCount slot + new.socket.toNat ≤
      account.limits.maximumSockets) (value : Next) : Balances kernel (do
      installOrUndo handle slot fd index new closeOnExec
      return value) := by
  obtain ⟨processes, stores, balanced, -⟩ :=
    (pending.install sound new closeOnExec free descriptors sockets).sync
  have installs : installOrUndo handle slot fd index new closeOnExec kernel =
      (.ok (), { kernel with
        system := kernel.system.installDescription slot fd index new closeOnExec
        processes }) := by
    unfold installOrUndo
    rw [changeSystem, bind_change, bind_attempt, stores]
    rfl
  unfold Balances Yields
  rwa [bind_of_ok installs]

/-- A description that is no socket needs no room among the sockets. -/
theorem installPlain_balances (pending : Pending handle slot account kernel)
    (sound : kernel.system.Referenced) (new : NewDescription) (closeOnExec : Bool)
    (free : FreeSlots kernel.system slot fd index)
    (descriptors : kernel.system.descriptorCount slot + 1 ≤ account.limits.maximumDescriptors)
    (noSocket : new.socket = false) (value : Next) : Balances kernel (do
      installOrUndo handle slot fd index new closeOnExec
      return value) := by
  refine installOrUndo_balances pending sound new closeOnExec free descriptors ?_ value
  rw [noSocket]
  exact pending.fits.sockets

theorem openFileAt_balances (sound : Conserved kernel) (balanced : Balanced kernel)
    (handle directory : Nat) (path : Bytes) (flags : OpenFlags) (mode : BitVec 16) (tick : Nat) :
    Balances kernel (openFileAt handle directory path flags mode tick) := by
  refine yields_caller (fun _ _ => balanced) fun process slot found located => ?_
  refine yields_findFreeSlots located (fun _ => balanced) fun fd index free room => ?_
  refine yields_state (yields_failWhen (fun _ => balanced) fun _ => ?_)
  -- The filesystem is not counted, so the table balances whatever it answers.
  have anyVfs (vfs : Vfs) : Balanced { kernel with vfs } := balanced
  refine yields_inVfs (fun _ vfs => anyVfs vfs) fun vfsHandle vfs => ?_
  refine yields_state (yields_lift (fun _ _ => anyVfs vfs) fun stream _ => ?_)
  refine yields_ite (fun _ => ?_) fun _ => ?_
  · exact yields_inVfs (fun _ vfs => anyVfs vfs) fun _ vfs => anyVfs vfs
  · refine installPlain_balances ((anyVfs vfs).pending found located) sound.referenced _ false free
      room ?_ fd
    unfold NewDescription.socket
    dsimp only
    split <;> rfl

theorem openFile_balances (sound : Conserved kernel) (balanced : Balanced kernel) (handle : Nat)
    (path : Bytes) (flags : OpenFlags) (mode : BitVec 16) (tick : Nat) :
    Balances kernel (openFile handle path flags mode tick) :=
  yields_state (yields_lift (fun _ _ => balanced) fun _ _ =>
    openFileAt_balances sound balanced _ _ _ _ _ _)

theorem createDirectoryWatch_balances (sound : Conserved kernel) (balanced : Balanced kernel)
    (handle directoryFd : Nat) : Balances kernel (createDirectoryWatch handle directoryFd) := by
  refine yields_caller (fun _ _ => balanced) fun process slot found located => ?_
  refine yields_state (yields_lift (fun _ _ => balanced) fun _ _ => ?_)
  refine yields_failWhen (fun _ => balanced) fun _ => ?_
  refine yields_lift (fun _ _ => balanced) fun info _ => ?_
  refine yields_lift (fun _ _ => balanced) fun nodeStat _ => ?_
  refine yields_failWhen (fun _ => balanced) fun _ => ?_
  refine yields_findFreeSlots located (fun _ => balanced) fun fd index free room => ?_
  refine yields_lift (fun _ _ => balanced) fun cursor _ => ?_
  exact installPlain_balances (balanced.pending found located) sound.referenced _ false free room
    rfl fd

theorem createExternalDescriptor_balances (sound : Conserved kernel) (balanced : Balanced kernel)
    (handle : Nat) (kind : DescriptionKind) (resource : ExternalResource)
    (readable writable closeOnExec : Bool) :
    Balances kernel (createExternalDescriptor handle kind resource readable writable closeOnExec) := by
  refine yields_failWhen (fun _ => balanced) fun _ => ?_
  refine yields_caller (fun _ _ => balanced) fun process slot found located => ?_
  refine yields_state (yields_lift (fun _ _ => balanced) fun _ _ => ?_)
  refine yields_failWhen (fun _ => balanced) fun below => ?_
  refine yields_findFreeSlots located (fun _ => balanced) fun fd index free room => ?_
  refine installOrUndo_balances (balanced.pending found located) sound.referenced _ closeOnExec free
    room ?_ fd
  have atMost (socket : Bool) : socket.toNat ≤ 1 := by cases socket <;> decide
  exact (Nat.add_le_add_left (atMost _) _).trans (not_le.mp below)

theorem createPipe_balances (sound : Conserved kernel) (balanced : Balanced kernel) (handle : Nat) :
    Balances kernel (createPipe handle) := by
  refine yields_caller (fun _ _ => balanced) fun process slot found located => ?_
  refine yields_state (yields_lift (fun _ _ => balanced) fun _ room => ?_)
  refine yields_lift (fun _ _ => balanced) fun fds descriptors => ?_
  refine yields_lift (fun _ _ => balanced) fun opens indices => ?_
  refine yields_lift (fun _ _ => balanced) fun pipe _ => ?_
  obtain ⟨fdCount, fdApart, fdFree⟩ := findFreeDescriptors_ok descriptors
  obtain ⟨indexCount, indexApart, indexFree⟩ := findFreeOpenDescriptions_ok indices
  obtain ⟨readFd, writeFd, rfl⟩ := length_eq_two.mp fdCount
  obtain ⟨readIndex, writeIndex, rfl⟩ := length_eq_two.mp indexCount
  obtain ⟨slotBelow, slotUsed⟩ := resolveNamespace_ok located
  have free (fd index : Nat) (fdMember : fd ∈ [readFd, writeFd])
      (indexMember : index ∈ [readIndex, writeIndex]) : FreeSlots kernel.system slot fd index :=
    ⟨slotBelow, slotUsed, (fdFree fd fdMember).1, (fdFree fd fdMember).2,
      (indexFree index indexMember).1, (indexFree index indexMember).2⟩
  simp only [nodup_cons, mem_singleton] at fdApart indexApart
  have installed := (balanced.pending found located).installPipe sound.referenced
    (free _ _ (by simp) (by simp)) (free _ _ (by simp) (by simp)) (Ne.symm fdApart.1)
    (Ne.symm indexApart.1) pipe (requireDescriptorCapacity_ok room)
  exact yields_change (balances_sync installed _)

/-! ### Duplication -/

theorem duplicate_balances (balanced : Balanced kernel) (handle sourceFd : Nat) :
    Balances kernel (duplicate handle sourceFd) := by
  refine yields_caller (fun _ _ => balanced) fun process slot found located => ?_
  refine yields_state (yields_lift (fun _ _ => balanced) fun _ room => ?_)
  refine yields_lift (fun _ _ => balanced) fun source resolved => ?_
  refine yields_failWhen (fun _ => balanced) fun _ => ?_
  refine yields_lift (fun _ _ => balanced) fun fds descriptors => ?_
  obtain ⟨count, -, free⟩ := findFreeDescriptors_ok descriptors
  obtain ⟨target, rfl⟩ := length_eq_one_iff.mp count
  obtain ⟨fdBelow, fdFree⟩ := free target mem_cons_self
  exact yields_change (balances_sync ((balanced.pending found located).share fdBelow fdFree
    (names_of_resolved resolved) (requireDescriptorCapacity_ok room)) _)

variable {after : Kernel}

/-- A successful close frees one descriptor. -/
theorem closeDescriptorAt_descriptorCount (fdBelow : fd < maximumDescriptorsPerProcess)
    (used : ((kernel.system.namespaces slot).descriptors fd).used = true)
    (outcome : closeDescriptorAt slot fd kernel = (.ok (), after)) :
    after.system.descriptorCount slot + 1 = kernel.system.descriptorCount slot := by
  have counted := descriptorCount_setDescriptor kernel.system slot {} fdBelow
  rw [used] at counted
  unfold descriptorCount at counted ⊢
  rwa [closeDescriptorAt_namespaces outcome]

/-- The tables after a descriptor was duplicated onto another one. -/
def duplicated (system : System) (slot : Nat) (source : Option Nat) (targetFd : Nat) : System :=
  match source with
  | none => system
  | some fd =>
    if fd = targetFd then system
    else shareDescription slot targetFd ((system.namespaces slot).descriptors fd).openIndex
      (if ((system.namespaces slot).descriptors targetFd).used then closed system slot targetFd
      else system)

/-- What a successful duplication leaves: these tables, and the process is still there. -/
structure Duplicated (handle : Nat) (tables : System) (after : Kernel) : Prop where
  system : after.system = tables
  alive : ∃ process, after.processes.get handle = .ok process

/-- The table balances, and after a success the tables are the duplicated ones. -/
theorem duplicateTo_balances (sound : Conserved kernel) (balanced : Balanced kernel)
    (located : kernel.system.resolveNamespace handle = .ok slot) (sourceFd targetFd : Nat) :
    Yields (fun result after => Balanced after ∧ ∀ value, result = .ok value →
      Duplicated handle (duplicated kernel.system slot (some sourceFd) targetFd) after) kernel
      (duplicateTo handle sourceFd targetFd) := by
  refine yields_failWhen (fun _ => ⟨balanced, fun _ impossible => nomatch impossible⟩)
    fun fdBelow => ?_
  refine yields_caller (fun _ _ => ⟨balanced, fun _ impossible => nomatch impossible⟩)
    fun process found_slot found same => ?_
  cases (located.symm.trans same)
  have unchanged (failure : Error) : Balanced kernel ∧ ∀ value : Nat,
      (.error failure : Except Error Nat) = .ok value →
        Duplicated handle (duplicated kernel.system slot (some sourceFd) targetFd) kernel :=
    ⟨balanced, fun _ impossible => nomatch impossible⟩
  refine yields_state (yields_lift (fun failure _ => unchanged failure)
    fun source resolved => ?_)
  obtain ⟨sourceBelow, sourceUsed, sourceIndex, -, -⟩ := resolveDescriptor_ok resolved
  have known := names_of_resolved resolved
  have pending := balanced.pending found located
  refine yields_ite (fun same =>
    ⟨balanced, fun _ _ => ⟨(if_pos same).symm, process, found⟩⟩) fun different => ?_
  refine yields_lift (fun failure _ => unchanged failure) fun _ room => ?_
  refine yields_failWhen (fun _ => unchanged _) fun _ => ?_
  have shares {start : Kernel} (startPending : Pending handle slot process.account start)
      (free : ((start.system.namespaces slot).descriptors targetFd).used = false)
      (named : start.system.names slot source = true)
      (fits : start.system.descriptorCount slot + 1 ≤ process.account.limits.maximumDescriptors)
      (tables : start.system = if ((kernel.system.namespaces slot).descriptors targetFd).used then
        closed kernel.system slot targetFd else kernel.system) :
      Yields (fun result after => Balanced after ∧ ∀ value, result = .ok value →
        Duplicated handle (duplicated kernel.system slot (some sourceFd) targetFd) after) start (do
          changeSystem (shareDescription slot targetFd source)
          syncDescriptorCount handle
          return targetFd) := by
    obtain ⟨processes, stores, balances, alive⟩ :=
      (startPending.share (not_le.mp fdBelow) free named fits).sync
    refine yields_change ?_
    unfold Yields
    rw [bind_of_ok stores]
    refine ⟨balances, fun _ _ => ⟨?_, alive⟩⟩
    unfold duplicated
    dsimp only
    rw [if_neg different, sourceIndex, ← tables]
    rfl
  refine yields_ite (fun targetUsed => ?_) fun targetFree => ?_
  · have named : Named kernel.system slot targetFd :=
      ⟨(resolveNamespace_ok located).1, not_le.mp fdBelow, targetUsed⟩
    by_cases refuses : Refuses kernel.system slot targetFd
    · obtain ⟨failure, calls, refused⟩ := closeDescriptorAt_refused sound named refuses
      unfold Yields
      rw [bind_of_error refused]
      exact ⟨(uncounted_calls kernel calls).balanced balanced, fun _ impossible => nomatch impossible⟩
    · obtain ⟨middle, accepted, tables⟩ := closeDescriptorAt_accepted sound named refuses
      have ended := closeDescriptorAt_closed sound named
      have accounts := closeDescriptorAt_sameProcessAccounts slot targetFd kernel
      unfold Yields at ended ⊢
      rw [accepted] at ended accounts
      rw [bind_of_ok accepted]
      have counted := closeDescriptorAt_descriptorCount (not_le.mp fdBelow) targetUsed accepted
      have namespaces := closeDescriptorAt_namespaces accepted
      have row : (middle.system.namespaces slot).descriptors = update
          (kernel.system.namespaces slot).descriptors targetFd {} := by
        rw [namespaces, setDescriptor_self]
      refine shares (pending.shrink accounts (ended.shrinks named sound)) ?_ ?_ ?_ ?_
      · rw [row, update_self]
      · -- The source survives the close, because its own descriptor still names it.
        refine names_iff.mpr ⟨sourceFd, sourceBelow, ?_⟩
        rw [row, update_of_ne different]
        simp [Descriptor.names, sourceUsed, sourceIndex]
      · rw [counted]
        exact pending.fits.descriptors
      · rw [tables, if_pos targetUsed]
  · have free := Bool.eq_false_iff.mpr targetFree
    rw [if_neg targetFree] at room
    exact shares pending free known (requireDescriptorCapacity_ok room) (if_neg targetFree).symm

/-! ### Closing several descriptors -/

/-- All are closed and counted, or none. -/
theorem closeEach_sync_balances (sound : Conserved kernel) (balanced : Balanced kernel)
    (found : kernel.processes.get handle = .ok process)
    (located : kernel.system.resolveNamespace handle = .ok slot) {test : Descriptor → Bool}
    {fds : List Nat} (below : ∀ fd ∈ fds, fd < maximumDescriptorsPerProcess)
    (undivided : Undivided slot test fds kernel.system) : Balances kernel (do
      let closed ← closeEach slot test fds
      syncDescriptorCount handle
      return closed) := by
  have slotBelow := (resolveNamespace_ok located).1
  unfold Balances Yields
  rcases undivided with through | refused
  · obtain ⟨count, after, outcome⟩ := closeEach_through slotBelow fds below sound through
    have shrinks := (closeEach_shrinks test slotBelow fds below sound).2
    have accounts := closeEach_sameProcessAccounts slot test fds kernel
    rw [outcome] at shrinks accounts
    rw [bind_of_ok outcome]
    exact balances_sync ((balanced.pending found located).shrink accounts shrinks) count
  · obtain ⟨failure, calls, outcome⟩ := closeEach_firstRefused slotBelow fds below sound refused
    rw [bind_of_error outcome]
    exact (uncounted_calls kernel calls).balanced balanced

theorem closeAll_balances (sound : Conserved kernel) (balanced : Balanced kernel) (handle : Nat)
    (undivided : ∀ slot, kernel.system.resolveNamespace handle = .ok slot →
      Undivided slot (fun _ => true) (List.range maximumDescriptorsPerProcess) kernel.system) :
    Balances kernel (closeAll handle) :=
  yields_caller (fun _ _ => balanced) fun _ slot found located =>
    closeEach_sync_balances sound balanced found located (fun _ member => mem_range.mp member)
      (undivided slot located)

theorem closeOnExec_balances (sound : Conserved kernel) (balanced : Balanced kernel) (handle : Nat)
    (undivided : ∀ slot, kernel.system.resolveNamespace handle = .ok slot →
      Undivided slot Descriptor.closeOnExec (List.range maximumDescriptorsPerProcess)
        kernel.system) :
    Balances kernel (closeOnExec handle) :=
  yields_caller (fun _ _ => balanced) fun _ slot found located =>
    closeEach_sync_balances sound balanced found located (fun _ member => mem_range.mp member)
      (undivided slot located)

theorem close_balances (sound : Conserved kernel) (balanced : Balanced kernel) (handle fd : Nat) :
    Balances kernel (close handle fd) := by
  refine yields_caller (fun _ _ => balanced) fun process slot found located => ?_
  refine yields_state (yields_lift (fun _ _ => balanced) fun index resolved => ?_)
  obtain ⟨fdBelow, used, -, -, -⟩ := resolveDescriptor_ok resolved
  have named : Named kernel.system slot fd := ⟨(resolveNamespace_ok located).1, fdBelow, used⟩
  by_cases refuses : Refuses kernel.system slot fd
  · obtain ⟨failure, calls, refused⟩ := closeDescriptorAt_refused sound named refuses
    unfold Yields
    rw [bind_of_error refused]
    exact (uncounted_calls kernel calls).balanced balanced
  · obtain ⟨middle, accepted, -⟩ := closeDescriptorAt_accepted sound named refuses
    have ended := closeDescriptorAt_closed sound named
    have accounts := closeDescriptorAt_sameProcessAccounts slot fd kernel
    unfold Yields at ended ⊢
    rw [accepted] at ended accounts
    rw [bind_of_ok accepted]
    obtain ⟨processes, stores, balances, -⟩ :=
      ((balanced.pending found located).shrink accounts (ended.shrinks named sound)).sync
    rwa [stores]

theorem duplicateStream_balances (sound : Conserved kernel) (balanced : Balanced kernel)
    (found : kernel.processes.get handle = .ok process)
    (located : kernel.system.resolveNamespace handle = .ok slot) (source : Option Nat)
    (targetFd : Nat) : Yields (fun result after => Balanced after ∧ ∀ value, result = .ok value →
      Duplicated handle (duplicated kernel.system slot source targetFd) after) kernel
      (duplicateStream handle source targetFd) := by
  cases source with
  | none => exact ⟨balanced, fun _ _ => ⟨rfl, process, found⟩⟩
  | some fd =>
    have outcome := duplicateTo_balances sound balanced located fd targetFd
    unfold duplicateStream
    refine yields_bind (fun failure after fails => ?_) fun value after succeeds => ?_
    · unfold Yields at outcome
      rw [fails] at outcome
      exact ⟨outcome.1, fun _ impossible => nomatch impossible⟩
    · unfold Yields at outcome
      rw [succeeds] at outcome
      exact ⟨outcome.1, fun _ _ => outcome.2 value rfl⟩

theorem resolveNamespace_setDescriptor (system : System) (slot fd : Nat) (descriptor : Descriptor)
    (handle : Nat) :
    (system.setDescriptor slot fd descriptor).resolveNamespace handle =
      system.resolveNamespace handle := by
  have row (other : Nat) :
      ((system.setDescriptor slot fd descriptor).namespaces other).used =
          (system.namespaces other).used ∧
        ((system.setDescriptor slot fd descriptor).namespaces other).ownerHandle =
          (system.namespaces other).ownerHandle := by
    obtain rfl | here := eq_or_ne other slot
    · rw [setDescriptor_self]
      exact ⟨rfl, rfl⟩
    · rw [setDescriptor_row system fd descriptor here]
      exact ⟨rfl, rfl⟩
  unfold resolveNamespace
  simp only [row]

/-- Duplicating moves no namespace to another owner. -/
theorem resolveNamespace_duplicated (system : System) (slot : Nat) (source : Option Nat)
    (targetFd handle : Nat) :
    (duplicated system slot source targetFd).resolveNamespace handle =
      system.resolveNamespace handle := by
  have afterClose : (closed system slot targetFd).resolveNamespace handle =
      system.resolveNamespace handle := by
    unfold closed
    split <;> exact resolveNamespace_setDescriptor _ slot targetFd {} handle
  cases source with
  | none => rfl
  | some fd =>
    unfold duplicated
    dsimp only
    split
    · rfl
    · refine (resolveNamespace_setDescriptor _ slot targetFd _ handle).trans ?_
      split
      · exact afterClose
      · rfl

/-- The streams of a pipeline child are in place before the other descriptors are closed. -/
theorem configurePipelineChild_balances (sound : Conserved kernel) (balanced : Balanced kernel)
    (handle : Nat) (stdinSource stdoutSource : Option Nat)
    (undivided : ∀ slot, kernel.system.resolveNamespace handle = .ok slot →
      Undivided slot (fun _ => true) (List.range' 3 (maximumDescriptorsPerProcess - 3))
        (duplicated (duplicated kernel.system slot stdinSource 0) slot stdoutSource 1)) :
    Balances kernel (configurePipelineChild handle stdinSource stdoutSource) := by
  refine yields_caller (fun _ _ => balanced) fun process slot found located => ?_
  refine yields_failWhen (fun _ => balanced) fun _ => yields_state ?_
  refine yields_lift (fun _ _ => balanced) fun _ _ => ?_
  refine yields_lift (fun _ _ => balanced) fun _ _ => ?_
  have first := duplicateStream_balances sound balanced found located stdinSource 0
  have firstSound := (@duplicateStream_runs False False handle stdinSource 0 kernel sound).1
  unfold Yields at first
  refine yields_bind (fun failure after fails => ?_) fun _ middle succeeds => ?_
  · rw [fails] at first
    exact first.1
  rw [succeeds] at first firstSound
  obtain ⟨middleBalanced, middleTables⟩ := first
  obtain ⟨middleSystem, _, middleFound⟩ := middleTables _ rfl
  have middleLocated : middle.system.resolveNamespace handle = .ok slot := by
    rwa [middleSystem, resolveNamespace_duplicated]
  have second := duplicateStream_balances firstSound middleBalanced middleFound middleLocated
    stdoutSource 1
  have secondSound := (@duplicateStream_runs False False handle stdoutSource 1 middle firstSound).1
  unfold Yields at second
  refine yields_bind (fun failure after fails => ?_) fun _ final succeeds => ?_
  · rw [fails] at second
    exact second.1
  rw [succeeds] at second secondSound
  obtain ⟨finalBalanced, finalTables⟩ := second
  obtain ⟨finalSystem, _, finalFound⟩ := finalTables _ rfl
  have finalLocated : final.system.resolveNamespace handle = .ok slot := by
    rwa [finalSystem, resolveNamespace_duplicated]
  refine closeEach_sync_balances secondSound finalBalanced finalFound finalLocated
    (fun fd member => ?_) ?_
  · simp only [mem_range'_1] at member
    omega
  · rw [finalSystem, middleSystem]
    exact undivided slot located

/-! ### Namespaces that come -/

/-- Storing what a process holds under other tables balances the table, if nobody else holds
anything else under them. -/
theorem store_balanced {handle : Nat} (agree : ∀ other, other ≠ handle → Agrees kernel other)
    {process : Process} (found : kernel.processes.get handle = .ok process) {tables : System}
    {descriptors sockets : Nat}
    (others : ∀ other, other ≠ handle → tables.usageOf other = kernel.system.usageOf other)
    (counts : tables.usageOf handle = (descriptors, sockets))
    (fits : (process.account.withCounts process.memoryPages descriptors sockets).InQuota) :
    ∃ processes, inProcesses (Table.setResourceUsage handle process.memoryPages descriptors sockets)
        kernel = (.ok (), { kernel with processes }) ∧
      Balanced { kernel with system := tables, processes } := by
  obtain ⟨processes, stores, stored, kept⟩ := setResourceUsage_stores found fits
  have elsewhere (other : Nat) (different : other ≠ handle) :
      Agrees { kernel with system := tables } other :=
    (agree other different).congr rfl (others other different)
  exact ⟨processes, inProcesses_of stores,
    @stored_balanced { kernel with system := tables } _ _ _ elsewhere _ _ _ fits counts.symm stored
      kept⟩

variable {other : Nat}

/-- Taking a free slot changes nothing for other processes. -/
theorem usageOf_taken {before after : System}
    (rows : ∀ candidate, candidate ≠ slot → after.namespaces candidate = before.namespaces candidate)
    (sockets : ∀ index, after.holdsSocket index = before.holdsSocket index)
    (free : (before.namespaces slot).used = false)
    (owner : (after.namespaces slot).ownerHandle = handle) (different : other ≠ handle) :
    after.usageOf other = before.usageOf other := by
  refine usageOf_replace rows sockets (fun located => ?_) fun located => ?_
  · rw [(resolveNamespace_eq_ok.mp located).2.1] at free
    cases free
  · exact different ((resolveNamespace_eq_ok.mp located).2.2.symm.trans owner)

theorem installStreams_usage (slot : Nat) (streams : List ((Nat × Nat) × Bool × Bool))
    (sound : system.Referenced)
    (free : ∀ stream ∈ streams, FreeSlots system slot stream.1.1 stream.1.2)
    (apart : streams.Pairwise fun first second =>
      second.1.1 ≠ first.1.1 ∧ second.1.2 ≠ first.1.2) :
    System.ChangedAt slot system (installStreams slot streams system) ∧
      (installStreams slot streams system).usage slot =
        (system.descriptorCount slot + streams.length, system.socketDescriptionCount slot) := by
  induction streams generalizing system with
  | nil => exact ⟨System.ChangedAt.refl slot system, rfl⟩
  | cons stream rest hypothesis =>
    obtain ⟨⟨fd, index⟩, readable, writable⟩ := stream
    obtain ⟨different, restApart⟩ := pairwise_cons.mp apart
    have here := free _ mem_cons_self
    let new : NewDescription := { kind := .terminal, readable, writable }
    have others (other) (member : other ∈ rest) :
        FreeSlots (system.installDescription slot fd index new false) slot other.1.1 other.1.2 :=
      (free other (mem_cons_of_mem _ member)).install _ false (different other member).1
        (different other member).2
    obtain ⟨changed, counts⟩ := hypothesis (sound.install new false here) others restApart
    obtain ⟨descriptors, sockets⟩ :=
      Prod.mk.inj (installDescription_usage sound new false here)
    refine ⟨(installDescription_changedAt sound new false here).trans changed,
      counts.trans ?_⟩
    rw [descriptors, sockets, length_cons, Nat.add_assoc, Nat.add_comm 1]
    rfl

theorem bindProcess_balances (sound : Conserved kernel) (balanced : Balanced kernel)
    (handle : Nat) (installStandardStreams : Bool) :
    Balances kernel (bindProcess handle installStandardStreams) := by
  refine yields_state (yields_lift (fun _ _ => balanced) fun process found => ?_)
  refine yields_lift (fun _ _ => balanced) fun slot placed => ?_
  refine yields_failWhen (fun _ => balanced) fun free => ?_
  refine yields_failWhen (fun _ => balanced) fun room => ?_
  refine yields_lift (fun _ _ => balanced) fun openSlots opens => ?_
  have unused : (kernel.system.namespaces slot).used = false := by simpa using free
  have slotBelow := processSlot_below placed
  let bound := kernel.system.modifyNamespace slot fun _ => { used := true, ownerHandle := handle }
  let streams := ((List.range 3).zip openSlots).zip standardStreams
  obtain ⟨slots, apart⟩ := standardStreams_free handle slotBelow opens
  have row : bound.namespaces slot = { used := true, ownerHandle := handle } := by
    simp [bound, modifyNamespace]
  have boundSound : bound.Referenced :=
    sound.referenced.modifyNamespace _ slotBelow (sound.referenced.vacant slot slotBelow unused)
      fun _ _ => rfl
  obtain ⟨changed, counts⟩ := installStreams_usage slot streams boundSound slots apart
  have length : streams.length = if installStandardStreams then 3 else 0 := by
    cases installStandardStreams with
    | false =>
      cases opens
      rfl
    | true =>
      obtain ⟨count, -, -⟩ := findFreeOpenDescriptions_ok opens
      simp [streams, standardStreams, count]
  obtain ⟨noDescriptors, noSockets⟩ := Prod.mk.inj (@System.usage_of_empty bound slot
    fun fd _ => by rw [row])
  have located : (installStreams slot streams bound).resolveNamespace handle = .ok slot := by
    rw [changed.resolveNamespace]
    exact resolveNamespace_eq_ok.mpr ⟨placed, by rw [row], by rw [row]⟩
  -- A process without a namespace holds nothing, so its table entry counts no sockets.
  obtain ⟨inQuota, empty⟩ := balanced handle process.account (accountOf_ok found)
  rw [usageOf_of_unused placed unused] at empty
  have noSocketsYet : process.socketCount = 0 := (Prod.mk.inj empty).2
  have others (other : Nat) (different : other ≠ handle) :
      (installStreams slot streams bound).usageOf other = kernel.system.usageOf other := by
    refine (changed.usageOf (by rwa [row])).trans ?_
    exact usageOf_taken (fun candidate apart => by simp [bound, modifyNamespace, apart])
      (fun _ => rfl) unused (by rw [row]) different
  have held : (installStreams slot streams bound).usageOf handle =
      (if installStandardStreams then 3 else 0, process.socketCount) := by
    rw [usageOf_of_located located, counts, noDescriptors, noSockets, length, noSocketsYet,
      Nat.zero_add]
  obtain ⟨processes, stores, balances⟩ := store_balanced (fun other _ => balanced other) found
    others held ⟨inQuota.pages, not_lt.mp room, inQuota.sockets⟩
  unfold Yields
  rwa [bind_of_ok stores]

theorem cloneProcess_balances (balanced : Balanced kernel)
    (sourceHandle targetHandle : Nat) : Balances kernel (cloneProcess sourceHandle targetHandle) := by
  refine yields_state (yields_lift (fun _ _ => balanced) fun _ _ => ?_)
  refine yields_lift (fun _ _ => balanced) fun process found => ?_
  refine yields_lift (fun _ _ => balanced) fun source sourceLocated => ?_
  refine yields_lift (fun _ _ => balanced) fun target placed => ?_
  refine yields_failWhen (fun _ => balanced) fun free => ?_
  refine yields_failWhen (fun _ => balanced) fun room => ?_
  refine yields_failWhen (fun _ => balanced) fun socketRoom => ?_
  refine yields_lift (fun _ _ => balanced) fun _ _ => ?_
  have unused : (kernel.system.namespaces target).used = false := by simpa using free
  let tables := kernel.system.cloned source target targetHandle
  obtain ⟨namespaces, -, descriptions⟩ :=
    cloned_facts kernel.system source target targetHandle
  have sockets (index : Nat) : tables.holdsSocket index = kernel.system.holdsSocket index := by
    unfold holdsSocket OpenDescription.socket
    rw [descriptions]
  have row : tables.namespaces target =
      { used := true
        ownerHandle := targetHandle
        descriptors := (kernel.system.namespaces source).descriptors } := by
    rw [namespaces, update_self]
  have located : tables.resolveNamespace targetHandle = .ok target :=
    resolveNamespace_eq_ok.mpr ⟨placed, by rw [row], by rw [row]⟩
  have others (other : Nat) (different : other ≠ targetHandle) :
      tables.usageOf other = kernel.system.usageOf other :=
    usageOf_taken (fun candidate apart => by rw [namespaces, update_of_ne apart]) sockets
      unused (by rw [row]) different
  have held : tables.usageOf targetHandle = kernel.system.usage source := by
    rw [usageOf_of_located located]
    exact usage_congr (fun fd => by rw [row]; exact ⟨rfl, rfl⟩) fun index _ _ => sockets index
  have inQuota := (balanced targetHandle process.account (accountOf_ok found)).1
  obtain ⟨processes, stores, balances⟩ := store_balanced (fun other _ => balanced other) found
    others held ⟨inQuota.pages, not_lt.mp room, not_lt.mp socketRoom⟩
  unfold Yields
  rw [bind_of_ok stores]
  change Balanced { kernel with
    system := (List.range maximumDescriptorsPerProcess).foldl (retainDescriptor target) _
    processes }
  rwa [cloned_eq]

/-! ### Namespaces that go -/

/-- Giving up a slot changes nothing for processes other than its owner. -/
theorem usageOf_vacated (system : System)
    (different : other ≠ (system.namespaces slot).ownerHandle) :
    (system.modifyNamespace slot fun _ => {}).usageOf other = system.usageOf other := by
  refine @System.usageOf_replace _ _ slot _
    (fun candidate apart => by simp [modifyNamespace, apart]) (fun _ => rfl)
    (fun located => different (resolveNamespace_eq_ok.mp located).2.2.symm) fun located => ?_
  have used := (resolveNamespace_eq_ok.mp located).2.1
  simp [modifyNamespace] at used

/-- Without sockets the network stack has nothing to refuse. -/
theorem closesThrough_of_noSockets (test : Descriptor → Bool) (slotBelow : slot < maximumProcesses)
    (fds : List Nat) (below : ∀ fd ∈ fds, fd < maximumDescriptorsPerProcess)
    (sound : Conserved kernel) (noSockets : kernel.system.socketDescriptionCount slot = 0) :
    ClosesThrough slot test fds kernel.system := by
  induction fds generalizing kernel with
  | nil => trivial
  | cons fd rest hypothesis =>
    have restBelow (other) (member : other ∈ rest) := below other (mem_cons_of_mem _ member)
    unfold ClosesThrough
    split
    · rename_i tested
      have named : Named kernel.system slot fd :=
        ⟨slotBelow, below fd mem_cons_self, (Bool.and_eq_true_iff.mp tested).1⟩
      have accepts : ¬ Refuses kernel.system slot fd := by
        rintro ⟨-, socket, -⟩
        obtain ⟨indexBelow, used⟩ := sound.described_used named
        rw [socketDescriptionCount_eq] at noSockets
        have nothing := countIndex_eq_zero.mp noSockets _ indexBelow
        have naming : kernel.system.names slot
            ((kernel.system.namespaces slot).descriptors fd).openIndex = true :=
          names_iff.mpr ⟨fd, named.fdBelow, by simp [Descriptor.names, named.used]⟩
        rw [naming, Bool.true_and] at nothing
        have holds : kernel.system.holdsSocket
            ((kernel.system.namespaces slot).descriptors fd).openIndex = true :=
          Bool.and_eq_true_iff.mpr ⟨used, socket⟩
        rw [holds] at nothing
        cases nothing
      obtain ⟨middle, accepted, tables⟩ := closeDescriptorAt_accepted sound named accepts
      have ended := closeDescriptorAt_closed sound named
      unfold Yields at ended
      rw [accepted] at ended
      have fewer := (ended.shrinks named sound).sockets
      refine ⟨accepts, tables ▸ hypothesis restBelow (ended.conserved named sound) ?_⟩
      exact Nat.le_zero.mp (noSockets ▸ fewer)
    · exact hypothesis restBelow sound noSockets

theorem releaseProcess_balances (sound : Conserved kernel) (balanced : Balanced kernel)
    (handle : Nat)
    (releases : ∀ slot, kernel.system.resolveNamespace handle = .ok slot →
      kernel.system.socketDescriptionCount slot = 0 ∨
        FirstRefused slot (fun _ => true) (List.range maximumDescriptorsPerProcess) kernel.system) :
    Balances kernel (releaseProcess handle) := by
  refine yields_caller (fun _ _ => balanced) fun process slot found located => ?_
  have slotBelow := (resolveNamespace_ok located).1
  have below (fd) (member : fd ∈ List.range maximumDescriptorsPerProcess) := mem_range.mp member
  unfold Yields
  rcases releases slot located with noSockets | refused
  · obtain ⟨count, after, outcome⟩ := closeEach_through slotBelow _ below sound
      (closesThrough_of_noSockets (fun _ => true) slotBelow _ below sound noSockets)
    have shrinks := (closeEach_shrinks (fun _ => true) slotBelow _ below sound).2
    have accounts := closeEach_sameProcessAccounts slot (fun _ => true)
      (List.range maximumDescriptorsPerProcess) kernel
    rw [outcome] at shrinks accounts
    rw [bind_of_ok outcome]
    have pending := (balanced.pending found located).shrink accounts shrinks
    obtain ⟨placed, -, owner⟩ := resolveNamespace_eq_ok.mp pending.located
    obtain ⟨current, foundNow, same⟩ := get_of_accountOf pending.found
    -- The count that is stored back was right before, and there was no socket to count.
    have stale : current.socketCount = 0 := by
      obtain ⟨-, agreed⟩ := balanced handle process.account (accountOf_ok found)
      rw [usageOf_of_located located] at agreed
      exact (congrArg Account.socketCount same).trans ((Prod.mk.inj agreed).2.trans noSockets)
    let vacated := after.system.modifyNamespace slot fun _ => {}
    have held : vacated.usageOf handle = (0, current.socketCount) := by
      rw [usageOf_of_unused placed (by simp [vacated, modifyNamespace]), stale]
    have fits : (current.account.withCounts current.memoryPages 0 current.socketCount).InQuota := by
      refine ⟨?_, Nat.zero_le _, by rw [stale]; exact Nat.zero_le _⟩
      have pages := pending.fits.pages
      rwa [← same] at pages
    obtain ⟨processes, stores, balances⟩ := @store_balanced { after with system := vacated } handle
      (fun other different => (pending.others other different).congr rfl
        (usageOf_vacated after.system (owner ▸ different))) current foundNow vacated 0
      current.socketCount (fun _ _ => rfl) held fits
    rw [changeSystem, bind_change, bind_state]
    change Balanced (Call.run (lift (after.processes.get handle) >>= _) _).2
    rwa [foundNow, bind_lift_ok, bind_of_ok stores]
  · obtain ⟨failure, calls, outcome⟩ := closeEach_firstRefused slotBelow _ below sound refused
    rw [bind_of_error outcome]
    exact (uncounted_calls kernel calls).balanced balanced

/-- Whatever happens in the namespace of a process that is gone, nobody is counted wrong. -/
theorem ownerless_balanced {before : Kernel} {owner : Nat} (balanced : Balanced before)
    (accounts : SameAccounts before.processes after.processes)
    (others : ∀ other, other ≠ owner → after.system.usageOf other = before.system.usageOf other)
    (gone : ∀ account, before.processes.accountOf owner ≠ .ok account) : Balanced after := by
  intro other account found
  rw [accounts.accountOf] at found
  obtain rfl | here := eq_or_ne other owner
  · exact absurd found (gone account)
  · rw [others other here]
    exact balanced other account found

theorem sweepEach_balances (slots : List Nat) (below : ∀ slot ∈ slots, slot < maximumProcesses)
    (sound : Conserved kernel) (balanced : Balanced kernel) : Balances kernel (sweepEach slots) := by
  induction slots generalizing kernel with
  | nil => exact balanced
  | cons slot rest hypothesis =>
    have restBelow (other) (member : other ∈ rest) := below other (mem_cons_of_mem _ member)
    have slotBelow := below slot mem_cons_self
    refine yields_state (yields_ite (fun _ => hypothesis restBelow sound balanced)
      fun stale => ?_)
    have gone (account : Account) :
        kernel.processes.accountOf (kernel.system.namespaces slot).ownerHandle ≠ .ok account := by
      intro found
      obtain ⟨process, resolved, -⟩ := get_of_accountOf found
      exact stale (.inr (by rw [resolved]; rfl))
    have fdsBelow (fd) (member : fd ∈ List.range maximumDescriptorsPerProcess) :=
      mem_range.mp member
    obtain ⟨closedSound, shrinks⟩ :=
      closeEach_shrinks (fun _ => true) slotBelow _ fdsBelow sound
    have accounts := closeEach_sameProcessAccounts slot (fun _ => true)
      (List.range maximumDescriptorsPerProcess) kernel
    have closedBalanced : Balanced (closeEach slot (fun _ => true)
        (List.range maximumDescriptorsPerProcess) kernel).2 :=
      ownerless_balanced balanced accounts (fun other different => shrinks.changed.usageOf different)
        gone
    refine yields_bind (fun failure after fails => ?_) fun count after succeeds => ?_
    · rwa [fails] at closedBalanced
    rw [succeeds] at closedSound closedBalanced shrinks accounts
    let vacated : Kernel :=
      { after with system := after.system.modifyNamespace slot fun _ => {} }
    have vacatedSound : Conserved vacated :=
      (@Move.unbind False False after slot slotBelow (closeEach_empty succeeds)).conserved closedSound
    have vacatedBalanced : Balanced vacated := by
      refine ownerless_balanced closedBalanced (@refl _ SameAccounts _ after.processes)
        (fun other different => usageOf_vacated after.system different) fun account found => ?_
      rw [accounts.accountOf, shrinks.changed.owner] at found
      exact gone account found
    refine yields_change ?_
    have others := hypothesis restBelow vacatedSound vacatedBalanced
    unfold Balances Yields at others
    refine yields_bind (fun failure final fails => ?_) fun count final succeeds => ?_
    · rwa [fails] at others
    · rwa [succeeds] at others

theorem sweepStaleNamespaces_balances (sound : Conserved kernel) (balanced : Balanced kernel) :
    Balances kernel sweepStaleNamespaces :=
  sweepEach_balances _ (fun _ member => mem_range.mp member) sound balanced

end Kernel

/-! ### Runs -/

variable {kernel : Kernel}

theorem Kernel.duplicateTo_balanced (sound : Conserved kernel) (balanced : Balanced kernel)
    (handle sourceFd targetFd : Nat) :
    Kernel.Balances kernel (Kernel.duplicateTo handle sourceFd targetFd) := by
  cases located : kernel.system.resolveNamespace handle with
  | ok slot => exact (Kernel.duplicateTo_balances sound balanced located sourceFd targetFd).1
  | error failure =>
    refine yields_failWhen (fun _ => balanced) fun _ => ?_
    exact Kernel.yields_caller (fun _ _ => balanced) fun _ slot _ same =>
      nomatch located.symm.trans same

/-- The operation stores the counts of every change it makes: several descriptors are closed
together or not at all, and a released namespace has no sockets. -/
def Operation.Counts (operation : Operation) (kernel : Kernel) : Prop :=
  match operation with
  | .releaseProcess handle => ∀ slot, kernel.system.resolveNamespace handle = .ok slot →
    kernel.system.socketDescriptionCount slot = 0 ∨
      Kernel.FirstRefused slot (fun _ => true) (List.range maximumDescriptorsPerProcess)
        kernel.system
  | .configurePipelineChild handle stdinSource stdoutSource =>
    ∀ slot, kernel.system.resolveNamespace handle = .ok slot →
      Kernel.Undivided slot (fun _ => true) (List.range' 3 (maximumDescriptorsPerProcess - 3))
        (Kernel.duplicated (Kernel.duplicated kernel.system slot stdinSource 0) slot stdoutSource 1)
  | .closeOnExec handle => ∀ slot, kernel.system.resolveNamespace handle = .ok slot →
    Kernel.Undivided slot Descriptor.closeOnExec (List.range maximumDescriptorsPerProcess)
      kernel.system
  | .closeAll handle => ∀ slot, kernel.system.resolveNamespace handle = .ok slot →
    Kernel.Undivided slot (fun _ => true) (List.range maximumDescriptorsPerProcess) kernel.system
  | _ => True

theorem Operation.balanced {operation : Operation} (sound : Conserved kernel)
    (balanced : Balanced kernel) (counts : operation.Counts kernel) :
    Balanced (operation.next kernel) := by
  cases operation with
  | bindProcess => exact Kernel.bindProcess_balances sound balanced _ _
  | cloneProcess => exact Kernel.cloneProcess_balances balanced _ _
  | releaseProcess => exact Kernel.releaseProcess_balances sound balanced _ counts
  | sweepStaleNamespaces => exact Kernel.sweepStaleNamespaces_balances sound balanced
  | openFileAt => exact Kernel.openFileAt_balances sound balanced _ _ _ _ _ _
  | openFile => exact Kernel.openFile_balances sound balanced _ _ _ _ _
  | createDirectoryWatch => exact Kernel.createDirectoryWatch_balances sound balanced _ _
  | createExternalDescriptor =>
    exact Kernel.createExternalDescriptor_balances sound balanced _ _ _ _ _ _
  | createPipe => exact Kernel.createPipe_balances sound balanced _
  | duplicate => exact Kernel.duplicate_balances balanced _ _
  | duplicateTo => exact duplicateTo_balanced sound balanced _ _ _
  | configurePipelineChild =>
    exact Kernel.configurePipelineChild_balances sound balanced _ _ _ counts
  | setCloseOnExec => exact (setCloseOnExec_uncounted _ _ _ kernel).balanced balanced
  | closeOnExec => exact Kernel.closeOnExec_balances sound balanced _ counts
  | close => exact Kernel.close_balances sound balanced _ _
  | closeAll => exact Kernel.closeAll_balances sound balanced _ counts
  | read => exact (readInternal_uncounted _ _ _ _ kernel).balanced balanced
  | write => exact (write_uncounted _ _ _ _ kernel).balanced balanced
  | flock => exact (flock_uncounted _ _ _ _ kernel).balanced balanced
  | lockRange => exact (lockRange_uncounted _ _ _ _ _ _ kernel).balanced balanced

/-- The processes move on by themselves: a process keeps its descriptor counts, or it is a new one
that counts nothing and whose handle no namespace belongs to. -/
def AccountsMoveOn (kernel : Kernel) (processes : Table) : Prop :=
  ∀ handle account, processes.accountOf handle = .ok account → account.InQuota ∧
    ((∃ earlier, kernel.processes.accountOf handle = .ok earlier ∧
        account.descriptorCount = earlier.descriptorCount ∧
        account.socketCount = earlier.socketCount) ∨
      (account.descriptorCount = 0 ∧ account.socketCount = 0 ∧
        ∀ slot, kernel.system.resolveNamespace handle ≠ .ok slot))

/-- A step of a run in which every call stores the counts of what it changes. -/
inductive CountingStep : Kernel → Kernel → Prop
  | operation (kernel : Kernel) (operation : Operation) (counts : operation.Counts kernel) :
      CountingStep kernel (operation.next kernel)
  | outside (kernel : Kernel) {vfs : Vfs} {processes : Table} (terminal : Option RuntimeTty.Tty)
      (close : Option (Nat → Nat → Nat → Bool)) (held : HeldKept kernel.system kernel.vfs vfs)
      (calm : Calm kernel.processes processes) (accounts : AccountsMoveOn kernel processes) :
      CountingStep kernel
        { system := { kernel.system with terminalBackend := terminal, externalClose := close }
          vfs
          processes }

theorem CountingStep.step {before after : Kernel} (counting : CountingStep before after) :
    Step before after := by
  cases counting with
  | operation operation counts => exact Step.operation before operation
  | outside terminal close held calm accounts => exact Step.outside before terminal close held calm

theorem CountingStep.balanced {before after : Kernel} (counting : CountingStep before after)
    (sound : Conserved before) (balanced : Balanced before) : Balanced after := by
  cases counting with
  | operation operation counts => exact Operation.balanced sound balanced counts
  | @outside vfs processes terminal close held calm accounts =>
    intro handle account found
    have same : ({ before.system with terminalBackend := terminal, externalClose := close
        } : System).usageOf handle = before.system.usageOf handle :=
      (sameUsage_of_eq rfl rfl).usageOf handle
    obtain ⟨inQuota, kept | ⟨descriptors, sockets, none⟩⟩ := accounts handle account found
    · obtain ⟨earlier, wasFound, descriptors, sockets⟩ := kept
      refine ⟨inQuota, ?_⟩
      rw [descriptors, sockets, same]
      exact (balanced handle earlier wasFound).2
    · refine ⟨inQuota, ?_⟩
      rw [descriptors, sockets, same]
      unfold usageOf
      split
      · rename_i slot located
        exact absurd located (none slot)
      · rfl

/-- At the start every process is within its limits and counts nothing. -/
def NothingCounted (processes : Table) : Prop :=
  ∀ handle account, processes.accountOf handle = .ok account →
    account.InQuota ∧ account.descriptorCount = 0 ∧ account.socketCount = 0

theorem Fresh.balanced (fresh : Fresh kernel)
    (nothing : NothingCounted kernel.processes) : Balanced kernel := by
  intro handle account found
  obtain ⟨inQuota, descriptors, sockets⟩ := nothing handle account found
  refine ⟨inQuota, ?_⟩
  rw [descriptors, sockets]
  unfold usageOf
  split
  · rename_i slot located
    have used := (resolveNamespace_ok located).2
    rw [fresh.namespaces] at used
    cases used
  · rfl

/-- In every run whose calls store the counts of what they change, the process table counts the
descriptors and the sockets of every namespace, and nothing for a process without one. -/
theorem countingRun_quotaAgrees {start kernel : Kernel} (fresh : Fresh start)
    (nothing : NothingCounted start.processes)
    (run : Relation.ReflTransGen CountingStep start kernel) : QuotaAgrees kernel := by
  suffices both : Conserved kernel ∧ Balanced kernel from both.2.quotaAgrees
  induction run with
  | refl => exact ⟨fresh.conserved, fresh.balanced nothing⟩
  | tail _ counting inductionHypothesis =>
    obtain ⟨sound, balanced⟩ := inductionHypothesis
    exact ⟨(counting.step.runs sound).1, counting.balanced sound balanced⟩

theorem nothingCounted_initialized : NothingCounted (Table.initialized 0) := by
  have all : ∀ slot < maximumProcesses,
      ((Table.initialized 0).processes slot).account.memoryPages ≤
          ((Table.initialized 0).processes slot).account.limits.maximumPages ∧
        ((Table.initialized 0).processes slot).account.descriptorCount = 0 ∧
        ((Table.initialized 0).processes slot).account.socketCount = 0 := by decide +kernel
  intro handle account found
  obtain ⟨process, located, rfl⟩ := get_of_accountOf found
  obtain ⟨slot, resolved, rfl⟩ := get_slot located
  obtain ⟨pages, descriptors, sockets⟩ := all slot (resolve_ok resolved).1
  refine ⟨⟨pages, ?_, ?_⟩, descriptors, sockets⟩
  · rw [descriptors]
    exact Nat.zero_le _
  · rw [sockets]
    exact Nat.zero_le _

/-- A process with the three standard streams and a pipe closes its read end and is released. -/
def closedPipeRun : List Operation := [
  .bindProcess 0x100000000 true,
  .createPipe 0x100000000,
  .close 0x100000000 3,
  .releaseProcess 0x100000000]

/-- Four descriptors are held before the release and none after it. -/
theorem closedPipeRun_quotaAgrees :
    ((initialized 0).after (closedPipeRun.take 3)).system.usageOf 0x100000000 = (4, 0) ∧
      ((initialized 0).after closedPipeRun).system.usageOf 0x100000000 = (0, 0) ∧
        QuotaAgrees ((initialized 0).after closedPipeRun) := by
  refine ⟨by decide +kernel, by decide +kernel,
    countingRun_quotaAgrees (fresh_initialized 0) nothingCounted_initialized ?_⟩
  have bound := Relation.ReflTransGen.single
    (CountingStep.operation (initialized 0) (.bindProcess 0x100000000 true) trivial)
  have piped := bound.tail (CountingStep.operation _ (.createPipe 0x100000000) trivial)
  have closed := piped.tail (CountingStep.operation _ (.close 0x100000000 3) trivial)
  refine closed.tail (CountingStep.operation _ (.releaseProcess 0x100000000) fun slot located => ?_)
  have only : ((initialized 0).after (closedPipeRun.take 3)).system.resolveNamespace
      0x100000000 = .ok 0 := by decide +kernel
  obtain rfl := Except.ok.inj (only.symm.trans located)
  have noSockets : ((initialized 0).after
      (closedPipeRun.take 3)).system.socketDescriptionCount 0 = 0 := by decide +kernel
  exact .inl noSockets

/-- A process opens one socket and is released; the network stack closes the socket. -/
def socketRun : List Operation := [
  .bindProcess 0x100000000 false,
  .createExternalDescriptor 0x100000000 .udpSocket { index := 0, generation := 1 } true true false,
  .releaseProcess 0x100000000]

/-- Released without a namespace, the process still counts a socket. -/
theorem socketRun_drifts :
    ∃ start : Kernel, Fresh start ∧ NothingCounted start.processes ∧
      (Kernel.releaseProcess 0x100000000 (start.after (socketRun.take 2))).1 = .ok 1 ∧
        ¬ QuotaAgrees (start.after socketRun) := by
  let start : Kernel :=
    { initialized 0 with system := { externalClose := some fun _ _ _ => true } }
  have fresh := fresh_initialized 0
  refine ⟨start, ⟨rfl, rfl, rfl, fresh.linked, fresh.awake⟩, nothingCounted_initialized,
    by decide +kernel, fun agrees => ?_⟩
  have found : (start.after socketRun).processes.get 0x100000000 =
      .ok ((start.after socketRun).processes.processes 0) := by decide +kernel
  exact absurd (agrees 0x100000000 _ found) (by decide +kernel)

end ZigOs.RuntimeFd
