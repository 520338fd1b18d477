/-
This file follows the counts that the process table keeps for the namespaces
through every descriptor call. Between a change of a namespace and the call
that stores its new counts only the counts of one process are behind, and the
checks a call makes first leave room for what it is about to store. What can go
wrong is a call that closes several descriptors: when the network stack refuses
a later one the call returns without storing anything. The other gap is a
released namespace, whose sockets stay counted.
-/

import ZigOs.RuntimeFd.Usage
import ZigOs.RuntimeFd.Runs

namespace ZigOs.RuntimeFd

open Scan RuntimeProcess RuntimeVfs Call List

/-- The process table counts the descriptors and the sockets of the namespace of every process,
and nothing for a process without a namespace. -/
def QuotaAgrees (kernel : Kernel) : Prop :=
  ∀ handle process, kernel.processes.get handle = .ok process →
    (process.descriptorCount, process.socketCount) = kernel.system.usageOf handle

/-- The counts of one process are within its limits and agree with its namespace. -/
def Agrees (kernel : Kernel) (handle : Nat) : Prop :=
  ∀ account, kernel.processes.accountOf handle = .ok account → account.InQuota ∧
      (account.descriptorCount, account.socketCount) = kernel.system.usageOf handle

/-- The counts of every process agree. -/
def Balanced (kernel : Kernel) : Prop := ∀ handle, Agrees kernel handle

variable {kernel : Kernel}

theorem Balanced.quotaAgrees (balanced : Balanced kernel) : QuotaAgrees kernel :=
  fun handle process found => (balanced handle process.account (accountOf_ok found)).2

variable {before after : Kernel} {handle : Nat}

theorem Agrees.congr (agrees : Agrees before handle)
    (account : after.processes.accountOf handle = before.processes.accountOf handle)
    (usage : after.system.usageOf handle = before.system.usageOf handle) : Agrees after handle := by
  intro found located
  rw [usage]
  exact agrees found (account ▸ located)

/-! ### Steps that count nothing -/

/-- No account and no usage changes. -/
structure Uncounted (before after : Kernel) : Prop where
  accounts : SameAccounts before.processes after.processes
  usage : SameUsage before.system after.system

instance : Std.Refl Uncounted where
  refl _ := ⟨refl _, refl _⟩

instance : IsTrans Kernel Uncounted where
  trans _ _ _ start finish := ⟨IsTrans.trans _ _ _ start.accounts finish.accounts,
    IsTrans.trans _ _ _ start.usage finish.usage⟩

theorem Uncounted.balanced (same : Uncounted before after)
    (balanced : Balanced before) : Balanced after :=
  fun handle => (balanced handle).congr (same.accounts.accountOf handle) (same.usage.usageOf handle)

namespace Kernel

variable {Value : Type}

theorem inVfs_uncounted (call : VfsCall Value) :
    Keeps Uncounted (inVfs call) := fun _ => ⟨refl _, refl _⟩

theorem inProcesses_of {call : TableCall Value} {kernel : Kernel} {result : Except Error Value}
    {processes : Table} (outcome : call kernel.processes = (result, processes)) :
    inProcesses call kernel = (result, { kernel with processes }) := by
  change ((call kernel.processes).1, { kernel with processes := (call kernel.processes).2 }) = _
  rw [outcome]

theorem inProcesses_uncounted {call : TableCall Value}
    (same : Keeps SameAccounts call) : Keeps Uncounted (inProcesses call) :=
  fun kernel => ⟨same kernel.processes, refl _⟩

theorem wakeAll_uncounted (reason : WaitReason) (target : Nat) :
    Keeps Uncounted (wakeAll reason target) :=
  fun kernel => ⟨wakeMatching_sameAccounts kernel.processes reason target, refl _⟩

theorem changeSystem_uncounted {step : System → System}
    (same : ∀ system, SameUsage system (step system)) : Keeps Uncounted (changeSystem step) :=
  fun kernel => ⟨refl _, same kernel.system⟩

theorem keeps_caller {relation : Kernel → Kernel → Prop} [Std.Refl relation] {handle : Nat}
    {next : Process × Nat → KernelCall Value} (rest : ∀ found, Keeps relation (next found)) :
    Keeps relation (caller handle >>= next) :=
  keeps_of_keepsFrom fun kernel => keepsFrom_caller fun process slot _ _ =>
    rest (process, slot) kernel

theorem modifyPipe_uncounted (index : Nat) (step : Pipe → Pipe) :
    Keeps Uncounted (changeSystem fun system => system.modifyPipe index step) :=
  changeSystem_uncounted fun _ => sameUsage_of_eq rfl rfl

theorem setCloseOnExec_uncounted (handle fd : Nat) (enabled : Bool) :
    Keeps Uncounted (setCloseOnExec handle fd enabled) :=
  keeps_caller fun _ => keeps_state_bind fun _ =>
    keeps_lift_bind fun _ =>
      changeSystem_uncounted fun system => sameUsage_mark system _ fd enabled

theorem readPipe_uncounted (handle length : Nat) (description : OpenDescription) :
    Keeps Uncounted (readPipe handle length description) :=
  keeps_state_bind fun _ => keeps_lift_bind fun _ =>
    keeps_ite (keeps_bind (modifyPipe_uncounted _ _) fun _ =>
        keeps_bind (wakeAll_uncounted _ _) fun _ => keeps_pure _)
      (keeps_ite (keeps_pure _)
        (keeps_bind (inProcesses_uncounted (block_sameAccounts _ _ _)) fun _ =>
          keeps_pure _))

theorem readWatch_uncounted (index length : Nat) : Keeps Uncounted (readWatch index length) := by
  refine keeps_failWhen_bind fun _ => keeps_bind keeps_state
    fun kernel => keeps_bind (changeSystem_uncounted fun system => ?_) fun _ => ?_
  · exact sameUsage_modifyDescription system index ⟨rfl, rfl⟩
  · exact keeps_lift_bind fun _ => keeps_bind (keeps_failWhen _ _) fun _ => keeps_pure _

theorem readTerminal_uncounted (handle length : Nat) :
    Keeps Uncounted (readTerminal handle length) := by
  refine keeps_state_bind fun kernel => ?_
  split
  · exact keeps_pure _
  · refine keeps_bind (inProcesses_uncounted (readTerminal_sameAccounts _ _ _)) fun result => ?_
    refine keeps_bind (changeSystem_uncounted fun _ => sameUsage_of_eq rfl rfl) fun _ => ?_
    split <;> exact keeps_pure _

theorem readInternal_uncounted (handle fd length : Nat) (tick : Option Nat) :
    Keeps Uncounted (readInternal handle fd length tick) := by
  refine keeps_caller fun _ => keeps_state_bind fun kernel => ?_
  refine keeps_lift_bind fun index => keeps_bind (keeps_failWhen _ _)
    fun _ => keeps_ite (keeps_pure _) ?_
  split
  · exact readTerminal_uncounted _ _
  · exact keeps_fail _
  · exact keeps_fail _
  · exact keeps_bind (inVfs_uncounted _) fun _ =>
      keeps_ite (keeps_pure _) (keeps_pure _)
  · exact readWatch_uncounted _ _
  · exact readPipe_uncounted _ _ _
  · exact keeps_fail _

theorem write_uncounted (handle fd : Nat) (bytes : Bytes) (tick : Nat) :
    Keeps Uncounted (write handle fd bytes tick) := by
  refine keeps_caller fun _ => keeps_state_bind fun kernel => ?_
  refine keeps_lift_bind fun index => keeps_bind (keeps_failWhen _ _)
    fun _ => keeps_ite (keeps_pure _) ?_
  split
  · exact keeps_pure _
  · exact keeps_fail _
  · exact keeps_fail _
  · exact keeps_fail _
  · exact keeps_bind (inVfs_uncounted _) fun _ => keeps_pure _
  · refine keeps_state_bind fun _ => keeps_lift_bind fun _ =>
      keeps_failWhen_bind fun _ => keeps_ite ?_ ?_
    · exact keeps_bind (inProcesses_uncounted (block_sameAccounts _ _ _)) fun _ =>
        keeps_pure _
    · exact keeps_bind (modifyPipe_uncounted _ _) fun _ =>
        keeps_bind (wakeAll_uncounted _ _) fun _ => keeps_pure _
  · exact keeps_fail _

/-! ### Locks -/

theorem setAdvisoryLock_uncounted (index : Nat) (lock : AdvisoryLock) :
    Keeps Uncounted (setAdvisoryLock index lock) :=
  changeSystem_uncounted fun system => sameUsage_modifyDescription system index ⟨rfl, rfl⟩

theorem setByteRangeLocks_uncounted (index : Nat) (locks : List ByteRangeLock) :
    Keeps Uncounted (setByteRangeLocks index locks) :=
  changeSystem_uncounted fun system => sameUsage_modifyDescription system index ⟨rfl, rfl⟩

theorem lockTarget_uncounted (slot fd : Nat) : Keeps Uncounted (lockTarget slot fd) :=
  keeps_state_bind fun _ => keeps_lift_bind fun _ =>
    keeps_failWhen_bind fun _ => keeps_lift_bind fun _ =>
      keeps_lift_bind fun _ => keeps_bind (keeps_failWhen _ _) fun _ => keeps_pure _

theorem blockOnLock_uncounted (handle key : Nat) {restore : KernelCall Unit}
    (restores : Keeps Uncounted restore) :
    Keeps Uncounted (blockOnLock handle key restore) := by
  refine keeps_bind (keeps_attempt (inProcesses_uncounted (block_sameAccounts _ _ _)))
    fun slept => ?_
  split
  · exact keeps_pure _
  · exact keeps_bind restores fun _ => keeps_fail _

theorem acquireAdvisory_uncounted (handle index : Nat) (info : Vfs.OpenInfo)
    (requested : AdvisoryLock) (nonblocking : Bool) :
    Keeps Uncounted (acquireAdvisory handle index info requested nonblocking) := by
  refine keeps_state_bind fun kernel => ?_
  have locked := setAdvisoryLock_uncounted index
  have asleep (lock : AdvisoryLock) := blockOnLock_uncounted handle
    (fileLockWaitKey info.node info.nodeGeneration) (locked lock)
  -- Whether or not the shared lock is given up first, the same request follows.
  refine keeps_ite (keeps_bind (locked _) fun _ => ?_) ?_
  all_goals
    refine keeps_state_bind fun _ => keeps_lift_bind fun _ =>
      keeps_ite ?_ (keeps_ite ?_ (keeps_ite ?_ (asleep _)))
    · exact keeps_bind (locked _) fun _ => keeps_pure _
    · exact keeps_bind (locked _) fun _ => keeps_pure _
    · exact keeps_bind (wakeAll_uncounted _ _) fun _ => asleep _

theorem flock_uncounted (handle fd : Nat) (requested : AdvisoryLock) (nonblocking : Bool) :
    Keeps Uncounted (flock handle fd requested nonblocking) := by
  refine keeps_caller fun found => keeps_bind (lockTarget_uncounted _ _) fun target => ?_
  refine keeps_state_bind fun kernel => keeps_ite ?_ ?_
  · exact keeps_ite (keeps_pure _) (keeps_bind (setAdvisoryLock_uncounted _ _) fun _ =>
        keeps_bind (wakeAll_uncounted _ _) fun _ => keeps_pure _)
  · refine keeps_ite (keeps_pure _) (keeps_ite ?_ (acquireAdvisory_uncounted _ _ _ _ _))
    exact keeps_bind (setAdvisoryLock_uncounted _ _) fun _ =>
      keeps_bind (wakeAll_uncounted _ _) fun _ => keeps_pure _

theorem lockRange_uncounted (handle fd start length : Nat) (requested : AdvisoryLock)
    (nonblocking : Bool) :
    Keeps Uncounted (lockRange handle fd start length requested nonblocking) := by
  refine keeps_state_bind fun _ => keeps_lift_bind fun _ => ?_
  refine keeps_failWhen_bind fun _ => keeps_bind (keeps_lift _)
    fun slot => keeps_bind (lockTarget_uncounted _ _) fun target => ?_
  have stored := setByteRangeLocks_uncounted target.1
  have asleep (locks : List ByteRangeLock) := blockOnLock_uncounted handle
    (fileLockWaitKey target.2.node target.2.nodeGeneration) (stored locks)
  refine keeps_ite ?_ ?_
  · exact keeps_lift_bind fun _ => keeps_bind (stored _) fun _ =>
      keeps_bind (wakeAll_uncounted _ _) fun _ => keeps_pure _
  · refine keeps_lift_bind fun _ => keeps_ite ?_ (keeps_ite (keeps_pure _) (keeps_lift_bind fun _ =>
        keeps_bind (stored _) fun _ => keeps_ite ?_ (asleep _)))
    · exact keeps_lift_bind fun _ => keeps_bind (stored _) fun _ =>
        keeps_pure _
    · exact keeps_bind (wakeAll_uncounted _ _) fun _ => asleep _

end Kernel

/-! ### Between a change and its count -/

/-- One process may be behind with its counts, but what its namespace holds is within its limits. -/
structure Pending (handle slot : Nat) (account : Account) (kernel : Kernel) : Prop where
  others : ∀ other, other ≠ handle → Agrees kernel other
  located : kernel.system.resolveNamespace handle = .ok slot
  found : kernel.processes.accountOf handle = .ok account
  fits : (account.withCounts account.memoryPages (kernel.system.descriptorCount slot)
    (kernel.system.socketDescriptionCount slot)).InQuota

theorem Balanced.pending {kernel : Kernel} (balanced : Balanced kernel) {handle slot : Nat}
    {process : Process} (found : kernel.processes.get handle = .ok process)
    (located : kernel.system.resolveNamespace handle = .ok slot) :
    Pending handle slot process.account kernel := by
  obtain ⟨inQuota, counts⟩ := balanced handle process.account (accountOf_ok found)
  rw [System.usageOf_of_located located] at counts
  obtain ⟨descriptors, sockets⟩ := Prod.mk.inj counts
  refine ⟨fun other _ => balanced other, located, accountOf_ok found, ?_⟩
  exact ⟨inQuota.pages, descriptors ▸ inQuota.descriptors, sockets ▸ inQuota.sockets⟩

/-- A change of the one namespace keeps everyone else's counts right. -/
theorem Pending.change {before after : Kernel} {handle slot : Nat} {account : Account}
    (pending : Pending handle slot account before)
    (accounts : SameAccounts before.processes after.processes)
    (changed : System.ChangedAt slot before.system after.system)
    (descriptors : after.system.descriptorCount slot ≤ account.limits.maximumDescriptors)
    (sockets : after.system.socketDescriptionCount slot ≤ account.limits.maximumSockets) :
    Pending handle slot account after where
  others other different := by
    have owner := (System.resolveNamespace_eq_ok.mp pending.located).2.2
    exact (pending.others other different).congr (accounts.accountOf other)
      (changed.usageOf (owner ▸ different))
  located := (changed.resolveNamespace handle).trans pending.located
  found := (accounts.accountOf handle).trans pending.found
  fits := ⟨pending.fits.pages, descriptors, sockets⟩

variable {slot : Nat} {account : Account}

theorem Pending.shrink (pending : Pending handle slot account before)
    (accounts : SameAccounts before.processes after.processes)
    (shrinks : System.Shrinks slot before.system after.system) : Pending handle slot account after :=
  pending.change accounts shrinks.changed (shrinks.descriptors.trans pending.fits.descriptors)
    (shrinks.sockets.trans pending.fits.sockets)

/-- Storing counts that agree with the namespace balances the table. -/
theorem stored_balanced {kernel : Kernel} {handle pages : Nat} {account : Account}
    (others : ∀ other, other ≠ handle → Agrees kernel other) {processes : Table}
    {descriptors sockets : Nat} (fits : (account.withCounts pages descriptors sockets).InQuota)
    (counts : (descriptors, sockets) = kernel.system.usageOf handle)
    (stored : processes.accountOf handle = .ok (account.withCounts pages descriptors sockets))
    (kept : ∀ other, other ≠ handle → processes.accountOf other = kernel.processes.accountOf other) :
    Balanced { kernel with processes } := by
  intro other found located
  obtain rfl | here := eq_or_ne other handle
  · cases (stored.symm.trans located)
    exact ⟨fits, counts⟩
  · exact others other here found ((kept other here).symm.trans located)

theorem Pending.sync (pending : Pending handle slot account kernel) :
    ∃ processes, Kernel.syncDescriptorCount handle kernel = (.ok (), { kernel with processes }) ∧
      Balanced { kernel with processes } ∧ ∃ process, processes.get handle = .ok process := by
  obtain ⟨process, found, rfl⟩ := get_of_accountOf pending.found
  obtain ⟨processes, stores, stored, kept⟩ := setResourceUsage_stores found pending.fits
  obtain ⟨final, foundAfter, -⟩ := get_of_accountOf stored
  refine ⟨processes, ?_, stored_balanced pending.others pending.fits
    (System.usageOf_of_located pending.located).symm stored kept, final, foundAfter⟩
  unfold Kernel.syncDescriptorCount
  rw [bind_state, pending.located, bind_lift_ok, found, bind_lift_ok]
  exact Kernel.inProcesses_of stores

/-! ### Closing several descriptors -/

namespace Kernel

/-- The tables after a used descriptor was closed. -/
def closed (system : System) (slot fd : Nat) : System :=
  if (system.described slot fd).references = 1 then (counted system slot fd).retired slot fd
  else system.dropped slot fd

/-- Some later close is reached and refused, unless this holds: each of the descriptors that pass
the test can be closed when its turn comes. -/
def ClosesThrough (slot : Nat) (test : Descriptor → Bool) : List Nat → System → Prop
  | [], _ => True
  | fd :: rest, system =>
    if ((system.namespaces slot).descriptors fd).used &&
        test ((system.namespaces slot).descriptors fd) then
      ¬ Refuses system slot fd ∧ ClosesThrough slot test rest (closed system slot fd)
    else ClosesThrough slot test rest system

/-- The first descriptor that passes the test cannot be closed. -/
def FirstRefused (slot : Nat) (test : Descriptor → Bool) : List Nat → System → Prop
  | [], _ => False
  | fd :: rest, system =>
    if ((system.namespaces slot).descriptors fd).used &&
        test ((system.namespaces slot).descriptors fd) then Refuses system slot fd
    else FirstRefused slot test rest system

/-- All of the descriptors are closed, or none. -/
def Undivided (slot : Nat) (test : Descriptor → Bool) (fds : List Nat) (system : System) : Prop :=
  ClosesThrough slot test fds system ∨ FirstRefused slot test fds system

/-- No account of a process changes. -/
def SameProcessAccounts (before after : Kernel) : Prop :=
  SameAccounts before.processes after.processes

instance : Std.Refl SameProcessAccounts where
  refl kernel := @refl _ SameAccounts _ kernel.processes

instance : IsTrans Kernel SameProcessAccounts where
  trans _ _ _ start finish := @IsTrans.trans _ SameAccounts _ _ _ _ start finish

theorem changeSystem_sameProcessAccounts (step : System → System) :
    Keeps SameProcessAccounts (changeSystem step) :=
  fun kernel => @refl _ SameAccounts _ kernel.processes

theorem wakeAll_sameProcessAccounts (reason : WaitReason) (target : Nat) :
    Keeps SameProcessAccounts (wakeAll reason target) :=
  fun kernel => wakeMatching_sameAccounts kernel.processes reason target

theorem closePipeEnd_sameProcessAccounts (description : OpenDescription) :
    Keeps SameProcessAccounts (closePipeEnd description) := by
  refine keeps_state_bind fun kernel => ?_
  have ended (reason : WaitReason) (target : Nat) (step : System → System) :
      Keeps SameProcessAccounts (do
        let _ ← wakeAll reason target
        changeSystem step) :=
    keeps_bind (wakeAll_sameProcessAccounts _ _) fun _ => changeSystem_sameProcessAccounts _
  split
  · exact keeps_lift_bind fun _ => keeps_bind (keeps_failWhen _ _) fun _ => ended _ _ _
  · exact keeps_lift_bind fun _ => keeps_bind (keeps_failWhen _ _) fun _ => ended _ _ _
  · exact keeps_pure _

theorem closeDescriptorAt_sameProcessAccounts (slot fd : Nat) :
    Keeps SameProcessAccounts (closeDescriptorAt slot fd) := by
  have resource (description : OpenDescription) :
      Keeps SameProcessAccounts (closeResource description) := by
    refine keeps_ite (fun kernel => @refl _ SameAccounts _ kernel.processes)
      (keeps_ite (keeps_state_bind fun kernel => ?_) (keeps_pure _))
    split
    · exact keeps_fail _
    · exact keeps_bind (changeSystem_sameProcessAccounts _) fun _ => keeps_failWhen _ _
  refine keeps_state_bind fun kernel => keeps_bind (keeps_failWhen _ _)
    fun _ => keeps_failWhen_bind fun _ => ?_
  refine keeps_lift_bind fun waitKey => keeps_ite ?_ (changeSystem_sameProcessAccounts _)
  refine keeps_bind (resource _) fun _ => keeps_bind (changeSystem_sameProcessAccounts _)
    fun _ => keeps_bind (closePipeEnd_sameProcessAccounts _) fun _ =>
      keeps_bind (changeSystem_sameProcessAccounts _) fun _ => ?_
  split
  · exact keeps_bind (wakeAll_sameProcessAccounts _ _) fun _ => keeps_pure _
  · exact keeps_pure _

theorem closeEach_sameProcessAccounts (slot : Nat) (test : Descriptor → Bool) (fds : List Nat) :
    Keeps SameProcessAccounts (closeEach slot test fds) := by
  induction fds with
  | nil => exact keeps_ok _
  | cons fd rest hypothesis =>
    exact keeps_state_bind fun kernel => keeps_ite
      (keeps_bind (closeDescriptorAt_sameProcessAccounts slot fd) fun _ =>
        keeps_bind hypothesis fun _ => keeps_pure _) hypothesis

variable {kernel after : Kernel} {slot fd : Nat} {result : Except Error Unit}

theorem Closed.conserved (ended : Closed kernel slot fd result after)
    (named : Named kernel.system slot fd) (sound : Conserved kernel) : Conserved after :=
  (@Closed.runs False False _ _ _ _ _ ended named sound).1

theorem shrinks_calls {before after : System} {calls : Nat}
    (shrinks : System.Shrinks slot { before with externalCalls := calls } after) :
    System.Shrinks slot before after :=
  ⟨⟨shrinks.changed.used, shrinks.changed.owner, shrinks.changed.usage⟩, shrinks.descriptors,
    shrinks.sockets⟩

theorem shrinks_refl (slot : Nat) (system : System) : System.Shrinks slot system system :=
  ⟨System.ChangedAt.refl slot system, le_refl _, le_refl _⟩

/-- However a close ends, the namespace holds no more than before. -/
theorem Closed.shrinks (ended : Closed kernel slot fd result after)
    (named : Named kernel.system slot fd)
    (sound : Conserved kernel) : System.Shrinks slot kernel.system after.system := by
  have final := ended.conserved named sound
  cases ended with
  | refused failure calls refuses => exact shrinks_calls (shrinks_refl slot _)
  | dropped more => exact System.dropped_shrinks named
  | retired accepts retires =>
    have shrinks : System.Shrinks slot (counted kernel.system slot fd) _ :=
      System.retired_shrinks ⟨named.slotBelow, named.fdBelow, named.used⟩ final.referenced
    exact shrinks_calls shrinks

theorem closeDescriptorAt_accepted (sound : Conserved kernel) (named : Named kernel.system slot fd)
    (accepts : ¬ Refuses kernel.system slot fd) :
    ∃ after, closeDescriptorAt slot fd kernel = (.ok (), after) ∧
      after.system = closed kernel.system slot fd := by
  have ended := closeDescriptorAt_closed sound named
  unfold Yields at ended
  rcases outcome : closeDescriptorAt slot fd kernel with ⟨result, after⟩
  rw [outcome] at ended
  cases ended with
  | refused failure calls refuses => exact absurd refuses accepts
  | dropped more => exact ⟨_, rfl, (if_neg more).symm⟩
  | retired _ retires => exact ⟨_, rfl, (if_pos retires.last).symm⟩

/-- A refused close changes a counter of the network stack's calls and nothing else. -/
theorem closeDescriptorAt_refused (sound : Conserved kernel) (named : Named kernel.system slot fd)
    (refuses : Refuses kernel.system slot fd) : ∃ failure calls, closeDescriptorAt slot fd kernel =
      (.error failure, { kernel with system := { kernel.system with externalCalls := calls } }) := by
  have ended := closeDescriptorAt_closed sound named
  unfold Yields at ended
  rcases outcome : closeDescriptorAt slot fd kernel with ⟨result, after⟩
  rw [outcome] at ended
  cases ended with
  | refused failure calls refuses => exact ⟨failure, calls, rfl⟩
  | dropped more => exact absurd refuses.1 more
  | retired accepts retires => exact absurd refuses accepts

theorem uncounted_calls (kernel : Kernel) (calls : Nat) :
    Uncounted kernel { kernel with system := { kernel.system with externalCalls := calls } } :=
  ⟨refl _, sameUsage_of_eq rfl rfl⟩

/-- However far a sweep over descriptors gets, the books balance and the namespace holds no more
than before. -/
theorem closeEach_shrinks (test : Descriptor → Bool) (slotBelow : slot < maximumProcesses)
    (fds : List Nat) (below : ∀ fd ∈ fds, fd < maximumDescriptorsPerProcess)
    (sound : Conserved kernel) : Conserved (closeEach slot test fds kernel).2 ∧
      System.Shrinks slot kernel.system (closeEach slot test fds kernel).2.system := by
  induction fds generalizing kernel with
  | nil => exact ⟨sound, shrinks_refl slot _⟩
  | cons fd rest hypothesis =>
    have restBelow (other) (member : other ∈ rest) := below other (mem_cons_of_mem _ member)
    unfold closeEach
    rw [bind_state, Call.ite_apply]
    split
    · rename_i tested
      have named : Named kernel.system slot fd :=
        ⟨slotBelow, below fd mem_cons_self, (Bool.and_eq_true_iff.mp tested).1⟩
      have ended := closeDescriptorAt_closed sound named
      unfold Yields at ended
      rcases outcome : closeDescriptorAt slot fd kernel with ⟨failure | value, middle⟩
      · rw [outcome] at ended
        rw [bind_of_error outcome]
        exact ⟨ended.conserved named sound, ended.shrinks named sound⟩
      · rw [outcome] at ended
        rw [bind_of_ok outcome]
        obtain ⟨final, shrinks⟩ := hypothesis restBelow (ended.conserved named sound)
        have first := ended.shrinks named sound
        rcases others : closeEach slot test rest middle with ⟨failure | count, after⟩
        · rw [others] at final shrinks
          rw [bind_of_error others]
          exact ⟨final, first.trans shrinks⟩
        · rw [others] at final shrinks
          rw [bind_of_ok others]
          exact ⟨final, first.trans shrinks⟩
    · exact hypothesis restBelow sound

/-- When each can be closed in its turn, all are. -/
theorem closeEach_through {test : Descriptor → Bool} (slotBelow : slot < maximumProcesses)
    (fds : List Nat) (below : ∀ fd ∈ fds, fd < maximumDescriptorsPerProcess)
    (sound : Conserved kernel) (through : ClosesThrough slot test fds kernel.system) :
    ∃ count after, closeEach slot test fds kernel = (.ok count, after) := by
  induction fds generalizing kernel with
  | nil => exact ⟨0, kernel, rfl⟩
  | cons fd rest hypothesis =>
    have restBelow (other) (member : other ∈ rest) := below other (mem_cons_of_mem _ member)
    unfold closeEach
    unfold ClosesThrough at through
    rw [bind_state, Call.ite_apply]
    split
    · rename_i tested
      rw [if_pos tested] at through
      have named : Named kernel.system slot fd :=
        ⟨slotBelow, below fd mem_cons_self, (Bool.and_eq_true_iff.mp tested).1⟩
      obtain ⟨middle, accepted, system⟩ := closeDescriptorAt_accepted sound named through.1
      have ended := closeDescriptorAt_closed sound named
      unfold Yields at ended
      rw [accepted] at ended
      obtain ⟨count, after, others⟩ := hypothesis restBelow (ended.conserved named sound)
        (system ▸ through.2)
      rw [bind_of_ok accepted, bind_of_ok others]
      exact ⟨count + 1, after, rfl⟩
    · rename_i skipped
      rw [if_neg skipped] at through
      exact hypothesis restBelow sound through

theorem closeEach_firstRefused {test : Descriptor → Bool} (slotBelow : slot < maximumProcesses)
    (fds : List Nat) (below : ∀ fd ∈ fds, fd < maximumDescriptorsPerProcess)
    (sound : Conserved kernel) (refused : FirstRefused slot test fds kernel.system) :
    ∃ failure calls, closeEach slot test fds kernel =
      (.error failure, { kernel with system := { kernel.system with externalCalls := calls } }) := by
  induction fds with
  | nil => exact refused.elim
  | cons fd rest hypothesis =>
    unfold closeEach
    unfold FirstRefused at refused
    rw [bind_state, Call.ite_apply]
    split
    · rename_i tested
      rw [if_pos tested] at refused
      obtain ⟨failure, calls, outcome⟩ := closeDescriptorAt_refused sound
        ⟨slotBelow, below fd mem_cons_self, (Bool.and_eq_true_iff.mp tested).1⟩ refused
      rw [bind_of_error outcome]
      exact ⟨failure, calls, rfl⟩
    · rename_i skipped
      rw [if_neg skipped] at refused
      exact hypothesis (fun other member => below other (mem_cons_of_mem _ member)) refused

end Kernel

end ZigOs.RuntimeFd
