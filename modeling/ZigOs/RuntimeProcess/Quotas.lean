/-
This file isolates the part of a process that its quota is kept in: the counts
of pages, descriptors and sockets with their limits, and what its handle
resolves by. Most calls on the process table leave that part alone. Storing the
counts is the one that changes it: it succeeds exactly when every count is
within its limit, and it touches the process of one handle only.
-/

import ZigOs.RuntimeProcess.Tree
import ZigOs.RuntimeTty.Tty

namespace ZigOs.RuntimeProcess

open Call

/-- What the handle of a process resolves by, and its counts with their limits. -/
structure Account where
  used : Bool
  generation : Nat
  handle : Nat
  memoryPages : Nat
  descriptorCount : Nat
  socketCount : Nat
  limits : Limits

def Process.account (process : Process) : Account :=
  { used := process.used
    generation := process.generation
    handle := process.handle
    memoryPages := process.memoryPages
    descriptorCount := process.descriptorCount
    socketCount := process.socketCount
    limits := process.limits }

/-- No count is over its limit. -/
structure Account.InQuota (account : Account) : Prop where
  pages : account.memoryPages ≤ account.limits.maximumPages
  descriptors : account.descriptorCount ≤ account.limits.maximumDescriptors
  sockets : account.socketCount ≤ account.limits.maximumSockets

/-- No slot changes its account. -/
def SameAccounts (before after : Table) : Prop :=
  ∀ slot, (after.processes slot).account = (before.processes slot).account

instance : Std.Refl SameAccounts where
  refl _ := fun _ => rfl

instance : IsTrans Table SameAccounts where
  trans _ _ _ start finish := fun slot => (finish slot).trans (start slot)

/-- The account that a handle stands for. -/
def Table.accountOf (table : Table) (handle : Nat) : Except Error Account :=
  (table.get handle).map Process.account

variable {before after : Table}

theorem SameAccounts.resolve (same : SameAccounts before after)
    (handle : Nat) : after.resolve handle = before.resolve handle :=
  resolve_congr handle fun slot => ⟨congrArg Account.used (same slot),
    congrArg Account.generation (same slot), congrArg Account.handle (same slot)⟩

theorem SameAccounts.accountOf (same : SameAccounts before after)
    (handle : Nat) : after.accountOf handle = before.accountOf handle := by
  unfold Table.accountOf Table.get
  rw [same.resolve]
  split
  · exact congrArg Except.ok (same _)
  · rfl

variable {table : Table} {handle : Nat} {process : Process}

theorem get_slot (found : table.get handle = .ok process) :
    ∃ slot, table.resolve handle = .ok slot ∧ table.processes slot = process := by
  unfold Table.get at found
  split at found
  · exact ⟨_, ‹_›, Except.ok.inj found⟩
  · cases found

theorem accountOf_ok
    (found : table.get handle = .ok process) : table.accountOf handle = .ok process.account := by
  unfold Table.accountOf
  rw [found]
  rfl

theorem get_of_accountOf {account : Account} (found : table.accountOf handle = .ok account) :
    ∃ process, table.get handle = .ok process ∧ process.account = account := by
  unfold Table.accountOf at found
  cases located : table.get handle with
  | error failure =>
    rw [located] at found
    cases found
  | ok process =>
    rw [located] at found
    exact ⟨process, rfl, Except.ok.inj found⟩

theorem sameAccounts_modify {slot : Nat} {step : Process → Process}
    (same : (step (table.processes slot)).account = (table.processes slot).account) :
    SameAccounts table (table.modify slot step) := by
  intro other
  obtain rfl | here := eq_or_ne other slot
  · rwa [modify_self]
  · rw [modify_other table step here]

theorem sameAccounts_modifyWhere {test : Process → Bool} {step : Process → Process}
    (same : ∀ process, (step process).account = process.account) :
    SameAccounts table (table.modifyWhere test step) := by
  intro slot
  unfold Table.modifyWhere
  dsimp only
  split
  · exact same _
  · rfl

theorem wakeMatching_sameAccounts (table : Table) (reason : WaitReason) (target : Nat) :
    SameAccounts table (table.wakeMatching reason target true).2 :=
  sameAccounts_modifyWhere fun _ => rfl

theorem block_sameAccounts (handle : Nat) (reason : WaitReason) (target : Nat) :
    Keeps SameAccounts (Table.block handle reason target) :=
  keeps_failWhen_bind fun _ => keeps_state_bind fun _ =>
    keeps_lift_bind fun _ => keeps_failWhen_bind fun _ =>
      keeps_change fun _ => sameAccounts_modify rfl

theorem readTerminal_sameAccounts (terminal : RuntimeTty.Tty) (handle length : Nat) :
    Keeps SameAccounts (terminal.read handle length) :=
  keeps_state_bind fun _ => keeps_lift_bind fun _ =>
    keeps_failWhen_bind fun _ => keeps_ite (keeps_pure _)
      (keeps_ite (keeps_pure _) (keeps_ite (keeps_pure _)
        (keeps_bind (block_sameAccounts _ _ _) fun _ => keeps_pure _)))

/-! ### Storing the counts -/

/-- The account with other counts. -/
def Account.withCounts (account : Account) (pages descriptors sockets : Nat) : Account :=
  { account with memoryPages := pages, descriptorCount := descriptors, socketCount := sockets }

/-- Storing counts within the limits succeeds, and only the one account changes. -/
theorem setResourceUsage_stores {pages descriptors sockets : Nat}
    (found : table.get handle = .ok process)
    (fits : (process.account.withCounts pages descriptors sockets).InQuota) :
    ∃ after, Table.setResourceUsage handle pages descriptors sockets table = (.ok (), after) ∧
      after.accountOf handle = .ok (process.account.withCounts pages descriptors sockets) ∧
      ∀ other ≠ handle, after.accountOf other = table.accountOf other := by
  obtain ⟨slot, resolved, rfl⟩ := get_slot found
  have allowed : ¬ (pages > (table.processes slot).limits.maximumPages ∨
      descriptors > (table.processes slot).limits.maximumDescriptors ∨
      sockets > (table.processes slot).limits.maximumSockets) := by
    simp only [gt_iff_lt, not_or, not_lt]
    exact ⟨fits.pages, fits.descriptors, fits.sockets⟩
  have stored : Table.setResourceUsage handle pages descriptors sockets table =
      (.ok (), table.modify slot fun process =>
        { process with memoryPages := pages, descriptorCount := descriptors, socketCount := sockets }) := by
    simp only [Table.setResourceUsage, bind_state]
    rw [resolved, bind_lift_ok, bind_failWhen, if_neg allowed]
    rfl
  have resolves (other : Nat) : (table.modify slot fun process =>
      { process with
        memoryPages := pages
        descriptorCount := descriptors
        socketCount := sockets }).resolve other = table.resolve other := by
    refine resolve_congr other fun candidate => ?_
    obtain rfl | here := eq_or_ne candidate slot
    · rw [modify_self]
      exact ⟨rfl, rfl, rfl⟩
    · rw [modify_other _ _ here]
      exact ⟨rfl, rfl, rfl⟩
  refine ⟨_, stored, ?_, fun other different => ?_⟩
  · unfold Table.accountOf Table.get
    rw [resolves, resolved]
    simp only [modify_self]
    rfl
  · unfold Table.accountOf Table.get
    rw [resolves]
    split
    · rename_i candidate located
      have here : candidate ≠ slot := by
        rintro rfl
        exact different ((resolve_ok located).2.2.1.symm.trans (resolve_ok resolved).2.2.1)
      rw [modify_other _ _ here]
    · rfl

end ZigOs.RuntimeProcess
