/-
This file is about the tree that the parent links of the process table form.
Every call is one of four kinds of step on it: it leaves the links alone, it
hangs a new leaf under a parent, it ends a process and hands its children to
`init`, or it takes an ended leaf away. The tree stays well formed as long as
nobody spawns without a parent or under an ended one, and `init` does not end
before its children.
-/

import ZigOs.RuntimeProcess.Wait

namespace ZigOs.RuntimeProcess

open Scan Table Call Function Process

/-! ### Steps that leave the links alone -/

/-- What makes a process a node of the tree. -/
structure Links where
  used : Bool
  generation : Nat
  handle : Nat
  pid : Nat
  ppid : Nat
  parentSlot : Nat
  childCount : Nat

def Process.links (process : Process) : Links :=
  { used := process.used
    generation := process.generation
    handle := process.handle
    pid := process.pid
    ppid := process.ppid
    parentSlot := process.parentSlot
    childCount := process.childCount }

/-- How a process ended. -/
structure Ending where
  state : State
  exitStatus : Nat
  faultVector : Nat
  faultAddress : Nat
  terminalSequence : Nat
  deriving DecidableEq

def Process.ending (process : Process) : Ending :=
  { state := process.state
    exitStatus := process.exitStatus
    faultVector := process.faultVector
    faultAddress := process.faultAddress
    terminalSequence := process.terminalSequence }

/-- Between two entries of a slot the links did not change, no process ended, and one that had
ended still tells how. -/
structure SameNode (before after : Process) : Prop where
  links : after.links = before.links
  ended : after.terminal = true → before.terminal = true
  kept : before.terminal = true → after.ending = before.ending

theorem SameNode.refl (process : Process) : SameNode process process := ⟨rfl, id, fun _ => rfl⟩

theorem terminal_of_ending {before after : Process} (same : after.ending = before.ending) :
    after.terminal = before.terminal := by
  have state : after.state = before.state := congrArg Ending.state same
  simp only [terminal, state]

theorem SameNode.terminal {before after : Process} (same : SameNode before after) :
    after.terminal = before.terminal := by
  cases now : before.terminal with
  | true => rw [terminal_of_ending (same.kept now), now]
  | false =>
    by_contra other
    have wasEnded := same.ended (by simpa using other)
    rw [now] at wasEnded
    cases wasEnded

theorem SameNode.of_active {before after : Process} (links : after.links = before.links)
    (alive : before.terminal = false) (active : after.terminal = false) : SameNode before after :=
  ⟨links, fun ended => absurd (active.symm.trans ended) (by decide),
    fun ended => absurd (alive.symm.trans ended) (by decide)⟩

theorem SameNode.of_ending {before after : Process} (links : after.links = before.links)
    (ending : after.ending = before.ending) : SameNode before after :=
  ⟨links, fun ended => (terminal_of_ending ending).symm.trans ended, fun _ => ending⟩

/-- No link of the table changed, and nobody ended. -/
structure SameTree (before after : Table) : Prop where
  nodes : ∀ slot, SameNode (before.processes slot) (after.processes slot)
  init : after.initHandle = before.initHandle
  sequence : after.nextTerminalSequence = before.nextTerminalSequence

instance : Std.Refl SameTree where
  refl _ := ⟨fun _ => SameNode.refl _, rfl, rfl⟩

instance : IsTrans Table SameTree where
  trans _ _ _ start finish := by
    refine ⟨fun slot => ?_, finish.init.trans start.init, finish.sequence.trans start.sequence⟩
    have first := start.nodes slot
    have second := finish.nodes slot
    exact ⟨second.links.trans first.links, first.ended ∘ second.ended, fun ended =>
      (second.kept (first.terminal.trans ended)).trans (first.kept ended)⟩

variable {before after : Table}

theorem sameTree_of_processes (same : after.processes = before.processes)
    (init : after.initHandle = before.initHandle)
    (sequence : after.nextTerminalSequence = before.nextTerminalSequence) : SameTree before after :=
  ⟨fun _ => same ▸ SameNode.refl _, init, sequence⟩

variable {slot : Nat} {entry : Process}

/-- A table that differs at one slot, and in counters nobody reads. -/
theorem sameTree_of_update (entries : after.processes = update before.processes slot entry)
    (same : SameNode (before.processes slot) entry) (init : after.initHandle = before.initHandle)
    (sequence : after.nextTerminalSequence = before.nextTerminalSequence) : SameTree before after := by
  refine ⟨fun other => ?_, init, sequence⟩
  rw [entries, update_apply]
  split
  · rename_i here
    subst here
    exact same
  · exact SameNode.refl _

variable {table : Table}

theorem sameTree_modify {step : Process → Process}
    (same : SameNode (table.processes slot) (step (table.processes slot))) :
    SameTree table (table.modify slot step) := sameTree_of_update rfl same rfl rfl

theorem sameTree_modifyWhere {test : Process → Bool} {step : Process → Process}
    (same : ∀ process, test process = true → SameNode process (step process)) (table : Table) :
    SameTree table (table.modifyWhere test step) := by
  refine ⟨fun slot => ?_, rfl, rfl⟩
  simp only [modifyWhere]
  split
  · rename_i tested
    exact same _ tested.2.2
  · exact SameNode.refl _

variable {process : Process}

theorem not_terminal_of_state {state : State} (isState : process.state = state)
    (running : state ≠ .zombie) (unfaulted : state ≠ .faulted) : process.terminal = false := by
  simp [terminal, isState, running, unfaulted]

/-- Changing fields that are neither links nor part of the ending. -/
theorem modify_sameTree {step : Process → Process}
    (links : ∀ process, (step process).links = process.links)
    (ending : ∀ process, (step process).ending = process.ending) (slot : Nat) :
    Keeps SameTree ((change fun table => table.modify slot step) : TableCall Unit) :=
  keeps_change fun _ => sameTree_modify (SameNode.of_ending (links _) (ending _))

variable (handle : Nat)

/-- A call that reschedules a process that has not ended. -/
theorem reschedule_sameTree {step : Process → Process} {bad : Table → Nat → Prop}
    [∀ table slot, Decidable (bad table slot)] {failure : Error}
    (alive : ∀ table slot, ¬ bad table slot → (table.processes slot).terminal = false)
    (links : ∀ process, (step process).links = process.links)
    (active : ∀ process, (step process).terminal = false) : Keeps SameTree (do
      let table ← Call.state
      let slot ← lift (table.resolve handle)
      failWhen (bad table slot) failure
      change fun table => table.modify slot step) := by
  refine keeps_of_keepsFrom fun table => keepsFrom_state (keepsFrom_lift fun slot _ =>
    keepsFrom_failWhen fun passes => ?_)
  exact sameTree_modify (SameNode.of_active (links _) (alive table slot passes) (active _))

/-- A call that keeps an account in the entry of a process. -/
theorem account_sameTree {step : Process → Process}
    (links : ∀ process, (step process).links = process.links)
    (ending : ∀ process, (step process).ending = process.ending) : Keeps SameTree ((do
      let table ← Call.state
      let slot ← lift (table.resolve handle)
      change fun table => table.modify slot step) : TableCall Unit) :=
  keeps_state_bind fun _ => keeps_lift_bind fun slot =>
    modify_sameTree links ending slot

theorem not_terminal (alive : ¬ process.terminal = true) :
    process.terminal = false := by simpa using alive

theorem setRunnable_sameTree : Keeps SameTree (setRunnable handle) :=
  reschedule_sameTree handle (fun _ _ => not_terminal) (fun _ => rfl) fun _ => rfl

theorem sleep_sameTree (wakeTick : Nat) : Keeps SameTree (sleep handle wakeTick) :=
  reschedule_sameTree handle (fun _ _ => not_terminal) (fun _ => rfl) fun _ => rfl

theorem block_sameTree (reason : WaitReason) (target : Nat) :
    Keeps SameTree (block handle reason target) :=
  keeps_failWhen_bind fun _ =>
    reschedule_sameTree handle (fun _ _ => not_terminal) (fun _ => rfl) fun _ => rfl

theorem stop_sameTree : Keeps SameTree (stop handle) :=
  reschedule_sameTree handle (fun _ _ => not_terminal) (fun _ => rfl) fun _ => rfl

theorem continueProcess_sameTree : Keeps SameTree (continueProcess handle) :=
  reschedule_sameTree handle
    (fun _ _ stopped => not_terminal_of_state (not_not.mp stopped) (by decide) (by decide))
    (fun _ => rfl) fun _ => rfl

theorem accountSyscall_sameTree : Keeps SameTree (accountSyscall handle) :=
  account_sameTree handle (fun _ => rfl) fun _ => rfl

variable (mask : Nat)

theorem setSignalMask_sameTree : Keeps SameTree (setSignalMask handle mask) :=
  account_sameTree handle (fun _ => rfl) fun _ => rfl

theorem setWorkingDirectory_sameTree (cwdNode : Nat) :
    Keeps SameTree (setWorkingDirectory handle cwdNode) :=
  account_sameTree handle (fun _ => rfl) fun _ => rfl

theorem setUmask_sameTree : Keeps SameTree (setUmask handle mask) := by
  refine keeps_state_bind fun _ => keeps_lift_bind fun slot => ?_
  refine keeps_bind ?_ fun _ => keeps_pure _
  refine modify_sameTree ?_ ?_ slot <;> exact fun _ => rfl

theorem setResourceUsage_sameTree (pages descriptors sockets : Nat) :
    Keeps SameTree (setResourceUsage handle pages descriptors sockets) := by
  refine keeps_state_bind fun _ => keeps_lift_bind fun slot => ?_
  refine keeps_failWhen_bind fun _ => ?_
  refine modify_sameTree ?_ ?_ slot <;> exact fun _ => rfl

theorem setProcessGroup_sameTree (caller target group : Nat) :
    Keeps SameTree (setProcessGroup caller target group) := by
  refine keeps_state_bind fun _ => keeps_lift_bind fun _ => ?_
  refine keeps_lift_bind fun slot => ?_
  refine keeps_failWhen_bind fun _ => ?_
  refine modify_sameTree ?_ ?_ slot <;> exact fun _ => rfl

theorem takeSignal_sameTree : Keeps SameTree (takeSignal handle) := by
  refine keeps_state_bind fun _ => keeps_lift_bind fun slot => ?_
  dsimp only
  split
  · exact keeps_pure _
  · refine keeps_bind ?_ fun _ => keeps_pure _
    refine modify_sameTree ?_ ?_ slot <;> exact fun _ => rfl

theorem setRunning_sameTree : Keeps SameTree (setRunning handle) := by
  refine keeps_of_keepsFrom fun table => keepsFrom_state (keepsFrom_lift fun slot _ =>
    keepsFrom_failWhen fun alive => ?_)
  let paused := table.modifyWhere (fun process => process.state == .running)
    fun process => { process with state := .runnable }
  have demoted : SameTree table paused := by
    refine sameTree_modifyWhere (fun process running => ?_) table
    refine SameNode.of_active rfl ?_ rfl
    exact not_terminal_of_state (beq_iff_eq.mp running) (by decide) (by decide)
  refine IsTrans.trans _ paused _ demoted (sameTree_of_update rfl ?_ rfl rfl)
  exact SameNode.of_active rfl ((demoted.nodes slot).terminal.trans (not_terminal alive)) rfl

theorem wakeExpired_sameTree (table : Table) (tick : Nat) : SameTree table (table.wakeExpired tick) := by
  refine sameTree_modifyWhere (fun process asleep => ?_) table
  refine SameNode.of_active rfl ?_ rfl
  simp only [decide_eq_true_eq, beq_iff_eq] at asleep
  exact not_terminal_of_state asleep.1 (by decide) (by decide)

theorem sleepsOn_active {reason : WaitReason} {target : Nat}
    (asleep : sleepsOn reason target process = true) : process.terminal = false := by
  simp only [sleepsOn, Bool.and_eq_true, beq_iff_eq] at asleep
  exact not_terminal_of_state asleep.1.1 (by decide) (by decide)

theorem wakeMatching_sameTree (table : Table) (reason : WaitReason) (target : Nat) (all : Bool) :
    SameTree table (table.wakeMatching reason target all).2 := by
  unfold wakeMatching
  split
  · refine sameTree_modifyWhere (fun _ asleep => ?_) table
    exact SameNode.of_active rfl (sleepsOn_active asleep) rfl
  · split
    · rename_i slot found
      have asleep := firstIndex_test found
      simp only [Bool.and_eq_true] at asleep
      exact sameTree_modify (SameNode.of_active rfl (sleepsOn_active asleep.2) rfl)
    · exact refl table

theorem demote_sameTree (table : Table) (current : Option Nat) :
    SameTree table (table.demote current) := by
  unfold demote
  split
  · exact refl table
  · split
    · exact refl table
    · split
      · rename_i running
        exact sameTree_modify (SameNode.of_active rfl
          (not_terminal_of_state running (by decide) (by decide)) rfl)
      · exact refl table

theorem eligible_active {required : Option Kind}
    (picked : eligible required process = true) : process.terminal = false := by
  simp only [eligible, Bool.and_eq_true, beq_iff_eq] at picked
  exact not_terminal_of_state picked.1.2 (by decide) (by decide)

theorem scheduleScan_sameTree (required : Option Kind) (scans : Nat) (table : Table) :
    SameTree table (scheduleScan required scans table).2 := by
  induction scans generalizing table with
  | zero => exact refl table
  | succ scans hypothesis =>
    have moved : SameTree table
        { table with schedulerCursor := (table.schedulerCursor + 1) % maximumProcesses } :=
      sameTree_of_processes rfl rfl rfl
    unfold scheduleScan
    simp only
    split
    · rename_i picked
      exact sameTree_of_update rfl (SameNode.of_active rfl (eligible_active picked) rfl) rfl rfl
    · exact Trans.trans moved (hypothesis _)

theorem scheduleNextEligible_sameTree (table : Table) (current : Option Nat)
    (required : Option Kind) : SameTree table (table.scheduleNextEligible current required).2 := by
  have scanned : SameTree table (scheduleScan required maximumProcesses (table.demote current)).2 :=
    Trans.trans (demote_sameTree table current) (scheduleScan_sameTree _ _ _)
  unfold scheduleNextEligible
  split
  · rename_i outcome
    rwa [outcome] at scanned
  · rename_i outcome
    rw [outcome] at scanned
    split
    · exact scanned
    · split
      · exact scanned
      · split
        · rename_i picked
          refine Trans.trans scanned (sameTree_of_update rfl ?_ rfl rfl)
          exact SameNode.of_active rfl (eligible_active picked) rfl
        · exact scanned

theorem interrupt_sameNode (process : Process) : SameNode process (interrupt process) := by
  unfold interrupt
  split
  · rename_i asleep
    refine SameNode.of_active rfl ?_ rfl
    rcases asleep with blocked | sleeping
    · exact not_terminal_of_state blocked (by decide) (by decide)
    · exact not_terminal_of_state sleeping (by decide) (by decide)
  · exact SameNode.refl _

theorem wakeParent_sameTree (table : Table) (childSlot : Nat) :
    SameTree table (table.wakeParent childSlot) := by
  unfold wakeParent
  simp only
  split
  · exact refl table
  · split
    · exact refl table
    · rename_i blocked
      split
      · exact refl table
      · refine sameTree_modify (SameNode.of_active rfl ?_ rfl)
        exact not_terminal_of_state (not_not.mp (not_or.mp blocked).1) (by decide) (by decide)

/-! ### The tree -/

/-- The number of used processes whose parent is in the slot. -/
def Table.children (table : Table) (slot : Nat) : Nat :=
  table.countWhere fun process => process.parentSlot == slot

/-- The parent link of a process leads to a live process, and the two agree on who that is. -/
structure HasParent (table : Table) (slot : Nat) : Prop where
  below : (table.processes slot).parentSlot < maximumProcesses
  used : (table.processes (table.processes slot).parentSlot).used = true
  named : (table.processes (table.processes slot).parentSlot).pid = (table.processes slot).ppid
  alive : (table.processes (table.processes slot).parentSlot).terminal = false

/-- Every link leads closer to `init`. -/
def Ranked (table : Table) (rank : Nat → Nat) : Prop :=
  rank 0 = 0 ∧ ∀ slot < maximumProcesses, (table.processes slot).used = true → slot ≠ 0 →
    rank (table.processes slot).parentSlot < rank slot

/-- `init` is in the first slot and has no parent, every other process hangs below it, and the
counters agree with the links. -/
structure TreeSound (table : Table) : Prop where
  init : table.initHandle = makeHandle 0 1
  root : (table.processes 0).used = true ∧ (table.processes 0).generation = 1 ∧
    (table.processes 0).parentSlot = invalidSlot
  handles : ∀ slot < maximumProcesses, (table.processes slot).used = true →
    (table.processes slot).handle = makeHandle slot (table.processes slot).generation ∧
      0 < (table.processes slot).generation ∧ (table.processes slot).generation < 2 ^ 32
  parents : ∀ slot < maximumProcesses, (table.processes slot).used = true → slot ≠ 0 →
    HasParent table slot
  counted : ∀ slot < maximumProcesses, (table.processes slot).childCount = table.children slot
  ranked : ∃ rank, Ranked table rank

section Lookup

theorem makeHandle_slot (below : slot < maximumProcesses) (generation : Nat) :
    makeHandle slot generation % 2 ^ 32 = slot ∧ makeHandle slot generation / 2 ^ 32 = generation := by
  have small : slot < 64 := below
  unfold makeHandle
  omega

variable {handle : Nat}

/-- The slot of a handle that resolves. -/
theorem resolve_ok (resolved : table.resolve handle = .ok slot) :
    slot < maximumProcesses ∧ (table.processes slot).used = true ∧
      (table.processes slot).handle = handle ∧
      handle = makeHandle slot (table.processes slot).generation := by
  simp only [Table.resolve] at resolved
  split_ifs at resolved with large invalid
  cases resolved
  push Not at large invalid
  refine ⟨large, by simpa using invalid.1, invalid.2.2, ?_⟩
  unfold makeHandle
  rw [invalid.2.1]
  omega

theorem TreeSound.resolve (sound : TreeSound table) (below : slot < maximumProcesses)
    (used : (table.processes slot).used = true) :
    table.resolve (table.processes slot).handle = .ok slot := by
  obtain ⟨handle, -, -⟩ := sound.handles slot below used
  obtain ⟨index, generation⟩ := makeHandle_slot below (table.processes slot).generation
  simp only [Table.resolve]
  rw [handle, index, generation, if_neg (by omega), if_neg (by simp [used, handle])]

/-- Only the handle of `init` leads to the first slot. -/
theorem TreeSound.handle_init (sound : TreeSound table)
    (resolved : table.resolve handle = .ok 0) : handle = table.initHandle := by
  rw [(resolve_ok resolved).2.2.2, sound.root.2.1, sound.init]

theorem TreeSound.resolve_init (sound : TreeSound table) :
    table.resolve table.initHandle = .ok 0 := by
  have named : (table.processes 0).handle = table.initHandle := by
    rw [(sound.handles 0 (by decide) sound.root.1).1, sound.root.2.1, sound.init]
  rw [← named]
  exact sound.resolve (by decide) sound.root.1

end Lookup

theorem children_congr (used : ∀ slot, (after.processes slot).used = (before.processes slot).used)
    (parent : ∀ slot, (after.processes slot).parentSlot = (before.processes slot).parentSlot)
    (slot : Nat) : after.children slot = before.children slot := by
  unfold Table.children countWhere
  refine countIndex_congr fun child _ => ?_
  simp only [used, parent]

/-- No link of the table changed, and nobody ended; an ended process may have been revived. -/
structure SameLinks (before after : Table) : Prop where
  links : ∀ slot, (after.processes slot).links = (before.processes slot).links
  ended : ∀ slot, (after.processes slot).terminal = true → (before.processes slot).terminal = true
  init : after.initHandle = before.initHandle

theorem SameTree.sameLinks (same : SameTree before after) : SameLinks before after :=
  ⟨fun slot => (same.nodes slot).links, fun slot => (same.nodes slot).ended, same.init⟩

/-- A table that differs at one slot, whose links are the same there. -/
theorem sameLinks_of_update (entries : after.processes = update before.processes slot entry)
    (links : entry.links = (before.processes slot).links) (active : entry.terminal = false)
    (init : after.initHandle = before.initHandle) : SameLinks before after := by
  refine ⟨fun other => ?_, fun other ended => ?_, init⟩
  · rw [entries, update_apply]
    split
    · rename_i here
      rw [here, links]
    · rfl
  · rw [entries, update_apply] at ended
    split at ended
    · cases active.symm.trans ended
    · exact ended

theorem SameLinks.treeSound (same : SameLinks before after)
    (sound : TreeSound before) : TreeSound after := by
  have used (slot : Nat) : (after.processes slot).used = (before.processes slot).used :=
    congrArg Links.used (same.links slot)
  have generation (slot : Nat) :
      (after.processes slot).generation = (before.processes slot).generation :=
    congrArg Links.generation (same.links slot)
  have handle (slot : Nat) : (after.processes slot).handle = (before.processes slot).handle :=
    congrArg Links.handle (same.links slot)
  have pid (slot : Nat) : (after.processes slot).pid = (before.processes slot).pid :=
    congrArg Links.pid (same.links slot)
  have ppid (slot : Nat) : (after.processes slot).ppid = (before.processes slot).ppid :=
    congrArg Links.ppid (same.links slot)
  have parent (slot : Nat) :
      (after.processes slot).parentSlot = (before.processes slot).parentSlot :=
    congrArg Links.parentSlot (same.links slot)
  have count (slot : Nat) : (after.processes slot).childCount = (before.processes slot).childCount :=
    congrArg Links.childCount (same.links slot)
  refine ⟨same.init.trans sound.init, ?_, fun slot below isUsed => ?_, fun slot below isUsed other => ?_,
    fun slot below => ?_, ?_⟩
  · rw [used, generation, parent]
    exact sound.root
  · rw [handle, generation]
    exact sound.handles slot below (used slot ▸ isUsed)
  · have links := sound.parents slot below (used slot ▸ isUsed) other
    refine ⟨?_, ?_, ?_, ?_⟩ <;> rw [parent]
    · exact links.below
    · rw [used]
      exact links.used
    · rw [pid, ppid]
      exact links.named
    · by_contra revived
      cases links.alive.symm.trans (same.ended _ (by simpa using revived))
  · rw [count, children_congr used parent]
    exact sound.counted slot below
  · obtain ⟨rank, zero, closer⟩ := sound.ranked
    refine ⟨rank, zero, fun slot below isUsed other => ?_⟩
    rw [parent]
    exact closer slot below (used slot ▸ isUsed) other

theorem SameTree.treeSound (same : SameTree before after)
    (sound : TreeSound before) : TreeSound after := same.sameLinks.treeSound sound

/-- Nobody's parent is a slot that is unused or holds an ended process. -/
theorem TreeSound.childless (sound : TreeSound table) (below : slot < maximumProcesses)
    (dead : (table.processes slot).used = false ∨ (table.processes slot).terminal = true) :
    table.children slot = 0 := by
  refine countIndex_eq_zero.mpr fun child childBelow => ?_
  by_contra counted
  simp only [Bool.and_eq_true, beq_iff_eq, Bool.not_eq_false] at counted
  obtain ⟨used, rfl⟩ := counted
  have different : child ≠ 0 := by
    rintro rfl
    rw [sound.root.2.2] at below
    exact absurd below (by decide)
  have links := sound.parents child childBelow used different
  rcases dead with unused | ended
  · exact absurd (links.used.symm.trans unused) (by decide)
  · cases links.alive.symm.trans ended

theorem TreeSound.apart {table : Table} (sound : TreeSound table) {slot : Nat}
    (below : slot < maximumProcesses) (used : (table.processes slot).used = true) (other : slot ≠ 0) :
    (table.processes slot).parentSlot ≠ slot := by
  obtain ⟨rank, -, closer⟩ := sound.ranked
  intro own
  have less := closer slot below used other
  rw [own] at less
  exact lt_irrefl _ less

/-- While anyone else is there, `init` has a child and has not ended. -/
theorem TreeSound.init_alive (sound : TreeSound table) (below : slot < maximumProcesses)
    (used : (table.processes slot).used = true) (other : slot ≠ 0) :
    table.children 0 ≠ 0 ∧ (table.processes 0).terminal = false := by
  obtain ⟨rank, zero, closer⟩ := sound.ranked
  generalize bound : rank slot = height
  induction height using Nat.strong_induction_on generalizing slot with
  | _ height hypothesis =>
    have links := sound.parents slot below used other
    by_cases atInit : (table.processes slot).parentSlot = 0
    · refine ⟨fun none_left => ?_, atInit ▸ links.alive⟩
      have missed := countIndex_eq_zero.mp none_left slot below
      simp [used, atInit] at missed
    · have less := closer slot below used other
      exact hypothesis _ (bound ▸ less) links.below links.used atInit rfl

/-! ### A new leaf -/

theorem ne_invalidSlot (below : slot < maximumProcesses) : slot ≠ invalidSlot := by
  rintro rfl
  exact absurd below (by decide)

variable {other : Nat}

section Install

variable {table : Table} {slot parentSlot pid group : Nat} {request : SpawnRequest}

theorem install_entry (table : Table) (parentBelow : parentSlot < maximumProcesses) (apart : parentSlot ≠ slot)
    (process : Process) (other : Nat) :
    (table.install slot parentSlot process).processes other =
      if other = slot then process
      else if other = parentSlot then
        { table.processes parentSlot with childCount := (table.processes parentSlot).childCount + 1 }
      else table.processes other := by
  have real := ne_invalidSlot parentBelow
  simp only [Table.install, if_neg real, Table.modify, update_apply]
  by_cases here : other = slot
  · subst here
    rw [if_pos rfl, if_neg apart.symm, if_pos rfl]
  · obtain rfl | atParent := eq_or_ne other parentSlot
    · rw [if_pos rfl, if_neg here, if_neg here, if_pos rfl]
    · rw [if_neg atParent, if_neg here, if_neg here, if_neg atParent]

/-- Outside the new slot only the parent's counter changes. -/
theorem install_links (table : Table) (parentBelow : parentSlot < maximumProcesses)
    (apart : parentSlot ≠ slot) (process : Process) (different : other ≠ slot) :
    let after := (table.install slot parentSlot process).processes other
    after.used = (table.processes other).used ∧ after.generation = (table.processes other).generation ∧
      after.handle = (table.processes other).handle ∧ after.pid = (table.processes other).pid ∧
      after.ppid = (table.processes other).ppid ∧
      after.parentSlot = (table.processes other).parentSlot ∧
      after.ending = (table.processes other).ending ∧
      after.childCount = (table.processes other).childCount + if other = parentSlot then 1 else 0 := by
  dsimp only
  rw [install_entry table parentBelow apart, if_neg different]
  split
  · rename_i atParent
    subst atParent
    exact ⟨rfl, rfl, rfl, rfl, rfl, rfl, rfl, rfl⟩
  · exact ⟨rfl, rfl, rfl, rfl, rfl, rfl, rfl, rfl⟩

theorem install_children (below : slot < maximumProcesses) (free : (table.processes slot).used = false)
    (parentBelow : parentSlot < maximumProcesses) (apart : parentSlot ≠ slot) (other : Nat) :
    (table.install slot parentSlot (table.newProcess request slot parentSlot pid group)).children
        other =
      table.children other + if other = parentSlot then 1 else 0 := by
  have change := countIndex_change
    (fun child => (table.processes child).used && (table.processes child).parentSlot == other)
    (fun child =>
      ((table.install slot parentSlot
          (table.newProcess request slot parentSlot pid group)).processes child).used &&
        ((table.install slot parentSlot
          (table.newProcess request slot parentSlot pid group)).processes child).parentSlot == other)
    below fun child _ different => by
      obtain ⟨used, -, -, -, -, parent, -⟩ :=
        install_links table parentBelow apart
          (table.newProcess request slot parentSlot pid group) different
      rw [used, parent]
  rw [free, Bool.false_and, Bool.toNat_false, add_zero] at change
  refine change.trans (congrArg _ ?_)
  rw [install_entry table parentBelow apart, if_pos rfl]
  change ((true && parentSlot == other).toNat) = _
  by_cases here : other = parentSlot
  · simp [here]
  · simp [here, Ne.symm here]

/-- Hanging a new process under a live parent keeps the tree. -/
theorem TreeSound.install (sound : TreeSound table) (below : slot < maximumProcesses)
    (free : (table.processes slot).used = false) (parentBelow : parentSlot < maximumProcesses)
    (parentUsed : (table.processes parentSlot).used = true)
    (parentAlive : (table.processes parentSlot).terminal = false) :
    TreeSound (table.install slot parentSlot
      (table.newProcess request slot parentSlot pid group)) := by
  have apart : parentSlot ≠ slot := by
    rintro rfl
    cases parentUsed.symm.trans free
  have real := ne_invalidSlot parentBelow
  have nonroot : slot ≠ 0 := by
    rintro rfl
    cases sound.root.1.symm.trans free
  have here := install_entry table parentBelow apart
    (table.newProcess request slot parentSlot pid group) slot
  rw [if_pos rfl] at here
  have elsewhere {other : Nat} (different : other ≠ slot) := install_links table
    parentBelow apart (table.newProcess request slot parentSlot pid group) different
  have atParent := elsewhere apart
  dsimp only at elsewhere atParent
  refine ⟨?_, ?_, fun other otherBelow used => ?_, fun other otherBelow used different => ?_,
    fun other otherBelow => ?_, ?_⟩
  · simp only [Table.install, if_neg real]
    exact sound.init
  · obtain ⟨used, generation, -, -, -, parent, -⟩ := elsewhere nonroot.symm
    rw [used, generation, parent]
    exact sound.root
  · by_cases isNew : other = slot
    · subst isNew
      rw [here]
      exact ⟨rfl, nextNonzero_pos 32 _, nextNonzero_lt 32 _ (by decide)⟩
    · obtain ⟨sameUsed, generation, handle, -⟩ := elsewhere isNew
      rw [handle, generation]
      exact sound.handles other otherBelow (sameUsed ▸ used)
  · obtain rfl | isNew := eq_or_ne other slot
    · have parentOf : (table.newProcess request other parentSlot pid group).parentSlot = parentSlot :=
        rfl
      refine ⟨?_, ?_, ?_, ?_⟩ <;> rw [here, parentOf]
      · exact parentBelow
      · rwa [atParent.1]
      · rw [atParent.2.2.2.1]
        simp [newProcess, real]
      · rwa [terminal_of_ending atParent.2.2.2.2.2.2.1]
    · obtain ⟨sameUsed, -, -, -, ppid, parent, -⟩ := elsewhere isNew
      have links := sound.parents other otherBelow (sameUsed ▸ used) different
      have kept : (table.processes other).parentSlot ≠ slot := by
        intro unused
        cases (unused ▸ links.used).symm.trans free
      obtain ⟨parentSame, -, -, pidSame, -, -, ending, -⟩ := elsewhere kept
      refine ⟨?_, ?_, ?_, ?_⟩ <;> rw [parent]
      · exact links.below
      · rw [parentSame]
        exact links.used
      · rw [pidSame, ppid]
        exact links.named
      · rw [terminal_of_ending ending]
        exact links.alive
  · rw [install_children below free parentBelow apart]
    by_cases isNew : other = slot
    · subst isNew
      rw [here, if_neg apart.symm, sound.childless below (.inl free)]
      rfl
    · obtain ⟨-, -, -, -, -, -, -, counted⟩ := elsewhere isNew
      rw [counted, sound.counted other otherBelow]
  · obtain ⟨rank, zero, closer⟩ := sound.ranked
    refine ⟨update rank slot (rank parentSlot + 1), ?_, fun other otherBelow used different => ?_⟩
    · rw [update_of_ne nonroot.symm, zero]
    · obtain rfl | isNew := eq_or_ne other slot
      · rw [here, update_self]
        change update rank other (rank parentSlot + 1) parentSlot < _
        rw [update_of_ne apart]
        exact Nat.lt_succ_self _
      · obtain ⟨sameUsed, -, -, -, -, parent, -⟩ := elsewhere isNew
        have links := sound.parents other otherBelow (sameUsed ▸ used) different
        have kept : (table.processes other).parentSlot ≠ slot := by
          intro unused
          cases (unused ▸ links.used).symm.trans free
        rw [parent, update_of_ne kept, update_of_ne isNew]
        exact closer other otherBelow (sameUsed ▸ used) different

end Install

/-! ### An ended process -/

/-- The table just before adoption: one process ended and kept its links. -/
structure EndsAt (before dying : Table) (slot : Nat) : Prop where
  others : ∀ other, other ≠ slot → dying.processes other = before.processes other
  links : (dying.processes slot).links = (before.processes slot).links
  ended : (dying.processes slot).terminal = true
  init : dying.initHandle = before.initHandle

theorem modify_apply (table : Table) (slot : Nat) (step : Process → Process) (other : Nat) :
    (table.modify slot step).processes other =
      if other = slot then step (table.processes other) else table.processes other := by
  simp only [Table.modify, update_apply]
  split
  · rename_i here
    rw [here]
  · rfl

section Adoption

variable {before table dying : Table} {slot : Nat}

/-- The process is a child of the dead one. -/
def Orphan (table : Table) (slot other : Nat) : Prop :=
  other < maximumProcesses ∧ (table.processes other).used = true ∧
    (table.processes other).parentSlot = slot

instance (table : Table) (slot other : Nat) : Decidable (Orphan table slot other) :=
  inferInstanceAs (Decidable (_ ∧ _))

theorem reparentChildren_apply (resolved : table.resolve table.initHandle = .ok 0) (other : Nat) :
    (table.reparentChildren slot).processes other =
      let moved := if Orphan table slot other then
          { table.processes other with parentSlot := 0, ppid := (table.processes 0).pid }
        else table.processes other
      let lost := if other = slot then moved.loseChildren (table.children slot) else moved
      if other = 0 then lost.gainChildren (table.children slot) else lost := by
  unfold reparentChildren
  rw [resolved]
  simp only [modify_apply, Table.modifyWhere, beq_iff_eq]
  rfl

/-- What adoption leaves alone, and where it moves the children of the dead process. -/
theorem reparentChildren_entry (slot : Nat) (resolved : table.resolve table.initHandle = .ok 0)
    (other : Nat) :
    let entry := table.processes other
    let after := (table.reparentChildren slot).processes other
    after.used = entry.used ∧ after.generation = entry.generation ∧ after.handle = entry.handle ∧
      after.pid = entry.pid ∧ after.ending = entry.ending ∧
      after.parentSlot = (if Orphan table slot other then 0 else entry.parentSlot) ∧
      after.ppid = (if Orphan table slot other then (table.processes 0).pid else entry.ppid) := by
  dsimp only
  rw [reparentChildren_apply resolved]
  dsimp only
  refine ⟨?_, ?_, ?_, ?_, ?_, ?_, ?_⟩ <;> split_ifs <;> rfl

theorem reparentChildren_childCount (resolved : table.resolve table.initHandle = .ok 0) (other : Nat) :
    ((table.reparentChildren slot).processes other).childCount =
      let lost := if other = slot then (table.processes other).childCount - table.children slot
        else (table.processes other).childCount
      if other = 0 then min (lost + table.children slot) 0xFFFF else lost := by
  rw [reparentChildren_apply resolved]
  dsimp only
  split_ifs <;> rfl

theorem reparentChildren_children (resolved : table.resolve table.initHandle = .ok 0)
    (apart : slot ≠ 0) (other : Nat) :
    (table.reparentChildren slot).children other =
      (if other = slot then 0 else table.children other) +
        if other = 0 then table.children slot else 0 := by
  have moved (child : Nat) (below : child < maximumProcesses) :
      (((table.reparentChildren slot).processes child).used &&
          ((table.reparentChildren slot).processes child).parentSlot == other) =
        ((table.processes child).used && (if (table.processes child).parentSlot = slot then 0
            else (table.processes child).parentSlot) == other) := by
    obtain ⟨used, -, -, -, -, parent, -⟩ := reparentChildren_entry slot resolved child
    rw [used, parent]
    cases isUsed : (table.processes child).used with
    | false => rfl
    | true => simp only [Orphan, below, isUsed, true_and]
  by_cases atDead : other = slot
  · subst atDead
    rw [if_pos rfl, if_neg apart, add_zero]
    refine countIndex_eq_zero.mpr fun child below => ?_
    rw [moved child below]
    split
    · simp [Ne.symm apart]
    · rename_i elsewhere
      simp [elsewhere]
  · obtain rfl | atInit := eq_or_ne other 0
    · rw [if_neg apart.symm, if_pos rfl]
      unfold Table.children countWhere
      refine countIndex_add _ _ _ fun child below => ?_
      rw [moved child below]
      cases (table.processes child).used with
      | false => rfl
      | true =>
        by_cases orphan : (table.processes child).parentSlot = slot
        · simp [orphan, apart]
        · simp [orphan]
    · rw [if_neg atDead, if_neg atInit, add_zero]
      unfold Table.children countWhere
      refine countIndex_congr fun child below => ?_
      rw [moved child below]
      by_cases orphan : (table.processes child).parentSlot = slot
      · simp only [orphan, if_true, beq_eq_false_iff_ne.mpr (Ne.symm atInit),
          beq_eq_false_iff_ne.mpr (Ne.symm atDead)]
      · simp [orphan]

/-- Without children there is nothing to hand over. -/
theorem reparentChildren_childless (resolved : table.resolve table.initHandle = .ok 0)
    (none_left : table.children slot = 0) (fits : (table.processes 0).childCount ≤ 0xFFFF) :
    SameTree table (table.reparentChildren slot) := by
  have noOrphan (other : Nat) : ¬ Orphan table slot other := by
    rintro ⟨below, used, childOf⟩
    have missed := countIndex_eq_zero.mp none_left other below
    simp [used, childOf] at missed
  refine ⟨fun other => ?_, ?_, ?_⟩
  · rw [reparentChildren_apply resolved, if_neg (noOrphan other), none_left]
    refine SameNode.of_ending ?_ ?_
    · dsimp only
      split_ifs with atInit atDead
      · subst atInit
        simp only [Process.links, gainChildren, loseChildren]
        congr 1
        omega
      · subst atInit
        simp only [Process.links, gainChildren]
        congr 1
        omega
      · rfl
      · rfl
    · dsimp only
      split_ifs <;> rfl
  · unfold reparentChildren
    rw [resolved]
    rfl
  · unfold reparentChildren
    rw [resolved]
    rfl

end Adoption

section Ended

variable {before dying : Table} {slot : Nat}

theorem EndsAt.sameLinks (ends : EndsAt before dying slot) (other : Nat) :
    (dying.processes other).links = (before.processes other).links := by
  by_cases here : other = slot
  · rw [here, ends.links]
  · rw [ends.others other here]

theorem EndsAt.resolve_init (ends : EndsAt before dying slot) (sound : TreeSound before) :
    dying.resolve dying.initHandle = .ok 0 := by
  rw [ends.init, resolve_congr before.initHandle fun other =>
    ⟨congrArg Links.used (ends.sameLinks other), congrArg Links.generation (ends.sameLinks other),
      congrArg Links.handle (ends.sameLinks other)⟩]
  exact sound.resolve_init

end Ended

/-- Ending a process and handing its children to `init` keeps the tree, unless `init` itself ends
before its children. -/
theorem EndsAt.treeSound {dying : Table} (ends : EndsAt before dying slot)
    (sound : TreeSound before) (below : slot < maximumProcesses)
    (used : (before.processes slot).used = true) (spares : slot = 0 → before.children 0 = 0) :
    TreeSound (dying.reparentChildren slot) := by
  have links := ends.sameLinks
  have sameUsed (other : Nat) : (dying.processes other).used = (before.processes other).used :=
    congrArg Links.used (links other)
  have sameParent (other : Nat) :
      (dying.processes other).parentSlot = (before.processes other).parentSlot :=
    congrArg Links.parentSlot (links other)
  have sameCount (other : Nat) :
      (dying.processes other).childCount = (before.processes other).childCount :=
    congrArg Links.childCount (links other)
  have children (other : Nat) := children_congr sameUsed sameParent other
  have resolved := ends.resolve_init sound
  have entry := reparentChildren_entry slot resolved
  dsimp only at entry
  have orphanParent {other : Nat} (orphan : Orphan dying slot other) : slot ≠ 0 := by
    rintro rfl
    have missed := countIndex_eq_zero.mp (spares rfl) other orphan.1
    simp [← sameUsed, ← sameParent, orphan.2.1, orphan.2.2] at missed
  have notOrphan : ¬ Orphan dying slot 0 := by
    rintro ⟨-, -, childOf⟩
    rw [sameParent, sound.root.2.2] at childOf
    exact ne_invalidSlot below childOf.symm
  refine ⟨?_, ?_, fun other otherBelow isUsed => ?_, fun other otherBelow isUsed different => ?_,
    fun other otherBelow => ?_, ?_⟩
  · unfold reparentChildren
    rw [resolved]
    exact ends.init.trans sound.init
  · obtain ⟨rootUsed, generation, -, -, -, parent, -⟩ := entry 0
    rw [rootUsed, generation, parent, if_neg notOrphan, sameUsed, sameParent,
      show (dying.processes 0).generation = _ from congrArg Links.generation (links 0)]
    exact sound.root
  · obtain ⟨usedSame, generation, handle, -⟩ := entry other
    rw [handle, generation,
      show (dying.processes other).generation = _ from congrArg Links.generation (links other),
      show (dying.processes other).handle = _ from congrArg Links.handle (links other)]
    exact sound.handles other otherBelow (by rw [← sameUsed, ← usedSame, isUsed])
  · obtain ⟨usedSame, -, -, -, -, parent, ppid⟩ := entry other
    have wasUsed : (before.processes other).used = true := by rw [← sameUsed, ← usedSame, isUsed]
    have above := sound.parents other otherBelow wasUsed different
    by_cases orphan : Orphan dying slot other
    · -- `init` adopts the child, and `init` is alive since somebody else is there.
      rw [if_pos orphan] at parent ppid
      obtain ⟨rootUsed, -, -, rootPid, rootEnding, -⟩ := entry 0
      refine ⟨?_, ?_, ?_, ?_⟩ <;> rw [parent]
      · decide
      · rw [rootUsed, sameUsed, sound.root.1]
      · rw [rootPid, ppid]
      · rw [terminal_of_ending rootEnding, ends.others 0 (orphanParent orphan).symm]
        exact (sound.init_alive otherBelow wasUsed different).2
    · rw [if_neg orphan, sameParent] at parent
      rw [if_neg orphan,
        show (dying.processes other).ppid = _ from congrArg Links.ppid (links other)] at ppid
      have elsewhere : (before.processes other).parentSlot ≠ slot := fun childOf =>
        orphan ⟨otherBelow, (sameUsed other).trans wasUsed, (sameParent other).trans childOf⟩
      obtain ⟨parentUsed, -, -, parentPid, parentEnding, -⟩ :=
        entry (before.processes other).parentSlot
      refine ⟨?_, ?_, ?_, ?_⟩ <;> rw [parent]
      · exact above.below
      · rw [parentUsed, sameUsed]
        exact above.used
      · rw [parentPid, ppid, ends.others _ elsewhere]
        exact above.named
      · rw [terminal_of_ending parentEnding, ends.others _ elsewhere]
        exact above.alive
  · rw [reparentChildren_childCount resolved, sameCount, children]
    dsimp only
    have counted := sound.counted other otherBelow
    have atSlot := sound.counted slot below
    have few : before.children 0 + before.children slot ≤ 0xFFFF := by
      have first : before.children 0 ≤ 64 := countIndex_le _ _
      have second : before.children slot ≤ 64 := countIndex_le _ _
      omega
    obtain rfl | apart := eq_or_ne slot 0
    · have none_left := spares rfl
      have gone := reparentChildren_childless resolved ((children 0).trans none_left)
        (by rw [sameCount, sound.counted 0 (by decide), none_left]; decide)
      rw [children_congr (fun child => congrArg Links.used (gone.nodes child).links)
        (fun child => congrArg Links.parentSlot (gone.nodes child).links), children, counted, none_left]
      split_ifs with atInit
      · subst atInit
        rw [none_left]
        rfl
      · rfl
    · rw [reparentChildren_children resolved apart, children, children]
      split_ifs with atInit atDead
      · exact absurd (atDead.symm.trans atInit) apart
      · subst atInit
        rw [counted]
        omega
      · rename_i atDead
        subst atDead
        omega
      · omega
  · obtain ⟨rank, zero, closer⟩ := sound.ranked
    refine ⟨rank, zero, fun other otherBelow isUsed different => ?_⟩
    obtain ⟨usedSame, -, -, -, -, parent, -⟩ := entry other
    have less := closer other otherBelow (by rw [← sameUsed, ← usedSame, isUsed]) different
    rw [parent, sameParent]
    split
    · rw [zero]
      exact Nat.zero_lt_of_lt less
    · exact less

/-! ### A leaf less -/

/-- The table without one child of a parent. -/
def Table.reaped (table : Table) (parentSlot childSlot : Nat) : Table :=
  (table.modify childSlot fun process => { generation := process.generation }).modify parentSlot
    (loseChildren 1)

section Reaping

variable {table : Table} {parentSlot childSlot : Nat}

theorem reaped_self (table : Table) (apart : parentSlot ≠ childSlot) :
    (table.reaped parentSlot childSlot).processes childSlot =
      { generation := (table.processes childSlot).generation } := by
  unfold reaped
  rw [modify_other _ _ apart.symm, modify_self]

theorem reaped_other (table : Table) (parentSlot : Nat) (different : other ≠ childSlot) :
    let after := (table.reaped parentSlot childSlot).processes other
    after.used = (table.processes other).used ∧ after.generation = (table.processes other).generation ∧
      after.handle = (table.processes other).handle ∧ after.pid = (table.processes other).pid ∧
      after.ppid = (table.processes other).ppid ∧
      after.parentSlot = (table.processes other).parentSlot ∧
      after.ending = (table.processes other).ending ∧
      after.childCount =
        (table.processes other).childCount - if other = parentSlot then 1 else 0 := by
  dsimp only
  unfold reaped
  rw [modify_apply]
  split
  · rename_i atParent
    subst atParent
    rw [modify_other _ _ different]
    exact ⟨rfl, rfl, rfl, rfl, rfl, rfl, rfl, rfl⟩
  · rw [modify_other _ _ different]
    exact ⟨rfl, rfl, rfl, rfl, rfl, rfl, rfl, rfl⟩

theorem reaped_children (below : childSlot < maximumProcesses) (apart : parentSlot ≠ childSlot)
    (used : (table.processes childSlot).used = true)
    (childOf : (table.processes childSlot).parentSlot = parentSlot) (other : Nat) :
    (table.reaped parentSlot childSlot).children other + (if other = parentSlot then 1 else 0) =
      table.children other := by
  have change := countIndex_change
    (fun child => (table.processes child).used && (table.processes child).parentSlot == other)
    (fun child => ((table.reaped parentSlot childSlot).processes child).used &&
      ((table.reaped parentSlot childSlot).processes child).parentSlot == other)
    below fun child _ different => by
      obtain ⟨sameUsed, -, -, -, -, parent, -⟩ :=
        reaped_other table parentSlot different
      rw [sameUsed, parent]
  rw [reaped_self table apart, used, childOf, Bool.false_and, Bool.toNat_false, add_zero,
    Bool.true_and] at change
  refine Eq.trans (congrArg _ ?_) change
  by_cases here : other = parentSlot
  · simp [here]
  · rw [if_neg here, beq_eq_false_iff_ne.mpr (Ne.symm here), Bool.toNat_false]

/-- Taking an ended leaf away keeps the tree. -/
theorem TreeSound.reap (sound : TreeSound table) (below : childSlot < maximumProcesses)
    (used : (table.processes childSlot).used = true)
    (childOf : (table.processes childSlot).parentSlot = parentSlot)
    (ended : (table.processes childSlot).terminal = true) (parentBelow : parentSlot < maximumProcesses) :
    TreeSound (table.reaped parentSlot childSlot) := by
  have nonroot : childSlot ≠ 0 := by
    rintro rfl
    exact ne_invalidSlot parentBelow (childOf.symm.trans sound.root.2.2)
  have apart : parentSlot ≠ childSlot := childOf ▸ sound.apart below used nonroot
  have childless := sound.childless below (.inr ended)
  have here := reaped_self table apart
  have elsewhere {other : Nat} (different : other ≠ childSlot) := reaped_other table
    parentSlot different
  have isOther {other : Nat} (isUsed :
      ((table.reaped parentSlot childSlot).processes other).used = true) : other ≠ childSlot := by
    rintro rfl
    rw [here] at isUsed
    cases isUsed
  refine ⟨sound.init, ?_, fun other otherBelow isUsed => ?_, fun other otherBelow isUsed different => ?_,
    fun other otherBelow => ?_, ?_⟩
  · obtain ⟨rootUsed, generation, -, -, -, parent, -⟩ := elsewhere nonroot.symm
    rw [rootUsed, generation, parent]
    exact sound.root
  · obtain ⟨sameUsed, generation, handle, -⟩ := elsewhere (isOther isUsed)
    rw [handle, generation]
    exact sound.handles other otherBelow (sameUsed ▸ isUsed)
  · obtain ⟨sameUsed, -, -, -, ppid, parent, -⟩ := elsewhere (isOther isUsed)
    have links := sound.parents other otherBelow (sameUsed ▸ isUsed) different
    have kept : (table.processes other).parentSlot ≠ childSlot := by
      intro dead
      cases (dead ▸ links.alive).symm.trans ended
    obtain ⟨parentUsed, -, -, pid, -, -, ending, -⟩ := elsewhere kept
    refine ⟨?_, ?_, ?_, ?_⟩ <;> rw [parent]
    · exact links.below
    · rw [parentUsed]
      exact links.used
    · rw [pid, ppid]
      exact links.named
    · rw [terminal_of_ending ending]
      exact links.alive
  · have change := reaped_children below apart used childOf other
    obtain rfl | isChild := eq_or_ne other childSlot
    · rw [here]
      change 0 = _
      omega
    · obtain ⟨-, -, -, -, -, -, -, counted⟩ := elsewhere isChild
      rw [counted, sound.counted other otherBelow]
      omega
  · obtain ⟨rank, zero, closer⟩ := sound.ranked
    refine ⟨rank, zero, fun other otherBelow isUsed different => ?_⟩
    obtain ⟨sameUsed, -, -, -, -, parent, -⟩ := elsewhere (isOther isUsed)
    rw [parent]
    exact closer other otherBelow (sameUsed ▸ isUsed) different

end Reaping

end ZigOs.RuntimeProcess
