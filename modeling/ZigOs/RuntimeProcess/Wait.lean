/-
This file settles when a parent that sleeps in a wait can miss the end of a
child. The wake decision of the process table is taken per terminating child,
against that child's own parent. A terminating process also hands its children
to `init`, and some of those may have terminated long before; nobody wakes
`init` for them. The file states the missing wake-up as an invariant, proves
that every step keeps it unless it hands `init` a terminated child that `init`
is waiting for, and exhibits the run in which that happens.
-/

import ZigOs.RuntimeProcess.Table

namespace ZigOs.RuntimeProcess

open Scan Table Call Function Process

/-! ### The invariant -/

/-- The process sleeps until a child ends. -/
def Process.WaitsForChild (process : Process) : Prop :=
  process.used = true ∧ process.state = .blocked ∧ process.waitReason = .child

/-- The process has ended and was not reaped yet. -/
def Process.Ended (process : Process) : Prop := process.used = true ∧ process.terminal = true

/-- What a parent is waiting for: any child, the members of a process group, or one handle. -/
def WaitMatches (parent child : Process) : Prop :=
  parent.waitTarget = 0 ∨ (parent.waitGroup = true ∧ parent.waitTarget = child.processGroup) ∨
    (parent.waitGroup = false ∧ parent.waitTarget = child.handle)

/-- No process sleeps in a wait that one of its ended children would answer. -/
def NoLostWakeup (table : Table) : Prop :=
  ∀ parent < maximumProcesses, (table.processes parent).WaitsForChild →
    ∀ child < maximumProcesses, (table.processes child).Ended →
      (table.processes child).parentSlot = parent →
        ¬ WaitMatches (table.processes parent) (table.processes child)

/-- No used process has the handle that stands for "any child". -/
def HandlesNonzero (table : Table) : Prop :=
  ∀ slot, (table.processes slot).used = true → (table.processes slot).handle ≠ 0

instance (process : Process) : Decidable process.WaitsForChild :=
  inferInstanceAs (Decidable (_ ∧ _))

instance (process : Process) : Decidable process.Ended := inferInstanceAs (Decidable (_ ∧ _))

instance (parent child : Process) : Decidable (WaitMatches parent child) :=
  inferInstanceAs (Decidable (_ ∨ _))

theorem acceptsChild_iff (parent child : Process) :
    acceptsChild parent child = true ↔ WaitMatches parent child := by
  unfold acceptsChild WaitMatches
  cases parent.waitGroup <;> simp

theorem not_ended_of_waits {process : Process} (waits : process.WaitsForChild) :
    ¬ process.Ended := by
  intro ended
  have terminal := ended.2
  simp [Process.terminal, waits.2.1] at terminal

/-! ### Steps that start no wait and end no process -/

/-- Between two entries of a slot nothing was added that the invariant is about: whoever waits
now waited before for the same target, and whoever has ended now had ended before with the
same parent, group and handle. -/
structure Settles (before after : Process) : Prop where
  waits : after.WaitsForChild → before.WaitsForChild ∧ after.waitTarget = before.waitTarget ∧
    after.waitGroup = before.waitGroup
  ended : after.Ended → before.Ended ∧ after.parentSlot = before.parentSlot ∧
    after.processGroup = before.processGroup ∧ after.handle = before.handle

theorem Settles.refl (process : Process) : Settles process process :=
  ⟨fun waits => ⟨waits, rfl, rfl⟩, fun ended => ⟨ended, rfl, rfl, rfl⟩⟩

/-- An entry that neither waits nor has ended settles any entry. -/
theorem Settles.of_active {before after : Process} (awake : ¬ after.WaitsForChild)
    (alive : ¬ after.Ended) : Settles before after :=
  ⟨fun waits => absurd waits awake, fun ended => absurd ended alive⟩

/-- The whole table settles, and no handle became zero. -/
structure Calmer (before after : Table) : Prop where
  settles : ∀ slot < maximumProcesses, Settles (before.processes slot) (after.processes slot)
  handles : HandlesNonzero before → HandlesNonzero after

instance : Std.Refl Calmer where
  refl _ := ⟨fun _ _ => Settles.refl _, id⟩

instance : IsTrans Table Calmer where
  trans first second third start finish := by
    refine ⟨fun slot below => ⟨fun waits => ?_, fun ended => ?_⟩,
      fun nonzero => finish.handles (start.handles nonzero)⟩
    · obtain ⟨middle, target, group⟩ := (finish.settles slot below).waits waits
      obtain ⟨origin, target', group'⟩ := (start.settles slot below).waits middle
      exact ⟨origin, target.trans target', group.trans group'⟩
    · obtain ⟨middle, parent, group, handle⟩ := (finish.settles slot below).ended ended
      obtain ⟨origin, parent', group', handle'⟩ := (start.settles slot below).ended middle
      exact ⟨origin, parent.trans parent', group.trans group', handle.trans handle'⟩

variable {parent' child child' : Process}

/-- A parent's view of a child depends on the fields that settling keeps. -/
theorem waitMatches_congr {parent : Process} (target : parent'.waitTarget = parent.waitTarget)
    (group : parent'.waitGroup = parent.waitGroup)
    (members : child'.processGroup = child.processGroup) (handle : child'.handle = child.handle) :
    WaitMatches parent' child' ↔ WaitMatches parent child := by
  simp only [WaitMatches, target, group, members, handle]

variable {before after : Table}

theorem Calmer.noLostWakeup (calmer : Calmer before after)
    (quiet : NoLostWakeup before) : NoLostWakeup after := by
  intro parent parentBelow waits child childBelow ended childOf isMatch
  obtain ⟨waited, target, group⟩ := (calmer.settles parent parentBelow).waits waits
  obtain ⟨hadEnded, parentSlot, members, handle⟩ := (calmer.settles child childBelow).ended ended
  exact quiet parent parentBelow waited child childBelow hadEnded (parentSlot ▸ childOf)
    ((waitMatches_congr target group members handle).mp isMatch)

variable (table : Table)

@[simp] theorem modify_self (slot : Nat) (step : Process → Process) :
    (table.modify slot step).processes slot = step (table.processes slot) := by
  simp [Table.modify]

variable {slot : Nat}

theorem modify_other {other : Nat} (step : Process → Process)
    (different : other ≠ slot) : (table.modify slot step).processes other = table.processes other := by
  simp [Table.modify, different]

variable {table : Table}

/-- Changing one slot to a settled entry with a nonzero handle calms the table. -/
theorem calmer_modify {step : Process → Process}
    (settles : Settles (table.processes slot) (step (table.processes slot)))
    (handle : ((table.processes slot).used = true → (table.processes slot).handle ≠ 0) →
      (step (table.processes slot)).used = true → (step (table.processes slot)).handle ≠ 0) :
    Calmer table (table.modify slot step) := by
  refine ⟨fun other _ => ?_, fun nonzero other used => ?_⟩
  · by_cases same : other = slot
    · subst same
      rwa [modify_self]
    · rw [modify_other table step same]
      exact Settles.refl _
  · obtain rfl | same := eq_or_ne other slot
    · rw [modify_self] at used ⊢
      exact handle (nonzero other) used
    · rw [modify_other table step same] at used ⊢
      exact nonzero other used

/-- The counters of the table are not part of the invariant. -/
theorem calmer_of_processes (same : after.processes = before.processes) : Calmer before after := by
  refine ⟨fun slot _ => ?_, fun nonzero slot => ?_⟩
  · rw [same]
    exact Settles.refl _
  · rw [same]
    exact nonzero slot

/-- The step leaves every field the invariant reads as it was. -/
def KeepsWaitFields (step : Process → Process) : Prop :=
  ∀ process, (step process).used = process.used ∧ (step process).state = process.state ∧
    (step process).waitReason = process.waitReason ∧
    (step process).waitTarget = process.waitTarget ∧
    (step process).waitGroup = process.waitGroup ∧
    (step process).parentSlot = process.parentSlot ∧
    (step process).processGroup = process.processGroup ∧ (step process).handle = process.handle

variable (count : Nat)

theorem loseChildren_fields : KeepsWaitFields (loseChildren count) :=
  fun _ => ⟨rfl, rfl, rfl, rfl, rfl, rfl, rfl, rfl⟩

variable (signal : Nat)

theorem addPending_fields : KeepsWaitFields (addPending signal) :=
  fun _ => ⟨rfl, rfl, rfl, rfl, rfl, rfl, rfl, rfl⟩

/-- Changing only bookkeeping fields of a slot calms the table. -/
theorem calmer_bookkeeping (slot : Nat) {step : Process → Process}
    (same : KeepsWaitFields step) (table : Table) :
    Calmer table (table.modify slot step) := by
  obtain ⟨used, state, reason, target, group, parent, members, handle⟩ :=
    same (table.processes slot)
  refine calmer_modify ⟨fun waits => ?_, fun ended => ?_⟩ fun nonzero isUsed => ?_
  · simp only [Process.WaitsForChild, used, state, reason] at waits
    exact ⟨waits, target, group⟩
  · simp only [Process.Ended, Process.terminal, used, state] at ended
    exact ⟨ended, parent, members, handle⟩
  · rw [handle]
    exact nonzero (used ▸ isUsed)

/-- Making a slot active, without changing its handle, calms the table. -/
theorem calmer_active {step : Process → Process} (awake : ∀ process, ¬ (step process).WaitsForChild)
    (alive : ∀ process, ¬ (step process).Ended)
    (same : ∀ process, (step process).used = process.used ∧ (step process).handle = process.handle)
    (table : Table) : Calmer table (table.modify slot step) :=
  calmer_modify (Settles.of_active (awake _) (alive _)) fun nonzero used => by
    rw [(same _).2]
    exact nonzero ((same _).1 ▸ used)

/-! ### The calming calls -/

variable (handle : Nat)

theorem stop_calmer : Keeps Calmer (stop handle) := by
  refine keeps_state_bind fun table => keeps_lift_bind fun slot =>
    keeps_failWhen_bind fun _ => keeps_change fun before => ?_
  apply calmer_active
  · intro process
    simp [Process.WaitsForChild]
  · intro process
    simp [Process.Ended, Process.terminal]
  · intro process
    exact ⟨rfl, rfl⟩

theorem continueProcess_calmer : Keeps Calmer (continueProcess handle) := by
  refine keeps_state_bind fun table => keeps_lift_bind fun slot =>
    keeps_failWhen_bind fun _ => keeps_change fun before => ?_
  apply calmer_active
  · intro process
    simp [Process.WaitsForChild]
  · intro process
    simp [Process.Ended, Process.terminal]
  · intro process
    exact ⟨rfl, rfl⟩

theorem interrupt_calmer (slot : Nat) (table : Table) :
    Calmer table (table.modify slot interrupt) := by
  by_cases asleep : (table.processes slot).state = .blocked ∨ (table.processes slot).state = .sleeping
  · refine calmer_modify (Settles.of_active ?_ ?_) fun nonzero used => ?_
    · simp [interrupt, asleep, Process.WaitsForChild]
    · simp [interrupt, asleep, Process.Ended, Process.terminal]
    · simp only [interrupt, asleep, if_true] at used ⊢
      exact nonzero used
  · have same : interrupt (table.processes slot) = table.processes slot := by
      simp only [interrupt, asleep, if_false]
    exact calmer_modify (by rw [same]; exact Settles.refl _) (by rw [same]; exact id)

theorem install_calmer (table : Table) (slot parentSlot : Nat) (process : Process)
    (runnable : process.state = .runnable) (handle : process.handle ≠ 0) :
    Calmer table (table.install slot parentSlot process) := by
  have placed : Calmer table (table.modify slot fun _ => process) :=
    calmer_modify (Settles.of_active (by simp [Process.WaitsForChild, runnable])
      (by simp [Process.Ended, Process.terminal, runnable])) fun _ _ => handle
  have counted (step : Table) (count : Nat) : Calmer step { step with totalCreated := count } :=
    calmer_of_processes rfl
  unfold Table.install
  by_cases orphan : parentSlot = invalidSlot
  · simp only [orphan, if_true]
    exact IsTrans.trans _ _ _ placed (counted _ _)
  · simp only [orphan, if_false]
    refine IsTrans.trans _ _ _ placed (IsTrans.trans _ _ _ ?_ (counted _ _))
    apply calmer_bookkeeping
    exact fun process => ⟨rfl, rfl, rfl, rfl, rfl, rfl, rfl, rfl⟩

theorem makeHandle_ne_zero (slot current : Nat) : makeHandle slot (nextGeneration current) ≠ 0 := by
  have positive := nextNonzero_pos 32 current
  unfold makeHandle nextGeneration
  omega

theorem spawnInternal_calmer (parent : Option Nat) (request : SpawnRequest) (group : SpawnGroup) :
    Keeps Calmer (spawnInternal parent request group) := by
  refine keeps_failWhen_bind fun _ =>
    keeps_failWhen_bind fun _ => keeps_state_bind fun table =>
    keeps_lift_bind fun parentSlot =>
    keeps_failWhen_bind fun _ => keeps_lift_bind fun slot =>
    keeps_bind (keeps_change fun before => calmer_of_processes rfl) fun _ =>
    keeps_lift_bind fun processGroup =>
    keeps_failWhen_bind fun _ =>
    keeps_bind (keeps_change fun before => ?_) fun _ => keeps_pure _
  exact install_calmer before slot parentSlot _ rfl (makeHandle_ne_zero _ _)

variable (parent : Nat)

theorem spawnPipeline_calmer (request : SpawnRequest) (group : SpawnGroup) :
    Keeps Calmer (spawnPipeline parent request group) :=
  keeps_failWhen_bind fun _ => spawnInternal_calmer _ _ _

variable (parentSlot : Nat)

theorem reapSlot_calmer (childSlot : Nat) : Keeps Calmer (reapSlot parentSlot childSlot) := by
  refine keeps_state_bind fun table =>
    keeps_failWhen_bind fun _ =>
    keeps_failWhen_bind fun _ =>
    keeps_bind (keeps_change fun before => ?_) fun _ => keeps_pure _
  have freed : Calmer before
      (before.modify childSlot fun process => { generation := process.generation }) :=
    calmer_modify (Settles.of_active (by simp [Process.WaitsForChild]) (by simp [Process.Ended]))
      fun _ used => by simp at used
  have counted := calmer_bookkeeping parentSlot (loseChildren_fields 1)
    (before.modify childSlot fun process => { generation := process.generation })
  exact Trans.trans freed (Trans.trans counted (calmer_of_processes rfl))

theorem reapEach_calmer (slots : List Nat) : Keeps Calmer (reapEach parentSlot slots) := by
  induction slots with
  | nil => exact keeps_ok _
  | cons slot rest hypothesis =>
    refine keeps_state_bind fun table =>
      keeps_ite hypothesis ?_
    exact keeps_bind (reapSlot_calmer parentSlot slot) fun _ =>
      keeps_bind hypothesis fun _ => keeps_pure _

theorem reapTerminalChildren_calmer : Keeps Calmer (reapTerminalChildren parent) :=
  keeps_state_bind fun _ => keeps_lift_bind fun _ =>
    reapEach_calmer _ _

/-! ### Starting a wait -/

variable {parentSlot : Nat}

theorem findFirst_isChild_of_hasChild {filter : Process → Bool}
    (has : table.hasChild parentSlot filter = true) :
    ∃ slot < maximumProcesses, (table.processes slot).used = true ∧
      (table.processes slot).parentSlot = parentSlot ∧ filter (table.processes slot) = true := by
  unfold Table.hasChild at has
  obtain ⟨slot, found⟩ := Option.isSome_iff_exists.mp has
  have holds := firstIndex_test found
  simp only [Table.isChild, Bool.and_eq_true, beq_iff_eq] at holds
  exact ⟨slot, firstIndex_lt found, holds.1.1, holds.1.2, holds.2⟩

variable {target : Nat} {group : Bool}

/-- A parent that goes to sleep loses nothing when no ended child matches its new wait. -/
theorem blockOnChild_quiet (quiet : NoLostWakeup table)
    (none : ∀ child < maximumProcesses, (table.processes child).Ended →
      (table.processes child).parentSlot = parentSlot →
        ¬ WaitMatches (blockOnChild target group (table.processes parentSlot))
          (table.processes child)) :
    NoLostWakeup (table.modify parentSlot (blockOnChild target group)) := by
  intro parent parentBelow waits child childBelow ended childOf
  have alive : child ≠ parentSlot := by
    rintro rfl
    rw [modify_self] at ended
    simp [Process.Ended, Process.terminal, blockOnChild] at ended
  rw [modify_other table _ alive] at ended childOf ⊢
  obtain rfl | same := eq_or_ne parent parentSlot
  · rw [modify_self]
    exact none child childBelow ended childOf
  · rw [modify_other table _ same] at waits ⊢
    exact quiet parent parentBelow waits child childBelow ended childOf

theorem blockOnChild_handles (nonzero : HandlesNonzero table) :
    HandlesNonzero (table.modify parentSlot (blockOnChild target group)) := by
  intro slot used
  obtain rfl | same := eq_or_ne slot parentSlot
  · rw [modify_self] at used ⊢
    exact nonzero slot used
  · rw [modify_other table _ same] at used ⊢
    exact nonzero slot used

/-! ### Ending a process -/

/-- The end of the process in this slot hands `init` no ended child that `init` is waiting
for, unless the process is itself such a child of `init`, whose end wakes `init` anyway. -/
def OrphansQuiet (table : Table) (slot : Nat) : Prop :=
  match table.resolve table.initHandle with
  | .error _ => True
  | .ok initSlot =>
    initSlot ≠ slot → (table.processes initSlot).WaitsForChild →
      (∃ orphan < maximumProcesses, (table.processes orphan).Ended ∧
        (table.processes orphan).parentSlot = slot ∧
        WaitMatches (table.processes initSlot) (table.processes orphan)) →
      (table.processes slot).parentSlot = initSlot ∧
        WaitMatches (table.processes initSlot) (table.processes slot)

/-- Everything the invariant reads of an entry but its parent. -/
structure SameWait (before after : Process) : Prop where
  used : after.used = before.used
  state : after.state = before.state
  reason : after.waitReason = before.waitReason
  target : after.waitTarget = before.waitTarget
  group : after.waitGroup = before.waitGroup
  members : after.processGroup = before.processGroup
  handle : after.handle = before.handle

theorem SameWait.refl (process : Process) : SameWait process process :=
  ⟨rfl, rfl, rfl, rfl, rfl, rfl, rfl⟩

theorem SameWait.trans {first second third : Process} (start : SameWait first second)
    (finish : SameWait second third) : SameWait first third :=
  ⟨finish.used.trans start.used, finish.state.trans start.state,
    finish.reason.trans start.reason, finish.target.trans start.target,
    finish.group.trans start.group, finish.members.trans start.members,
    finish.handle.trans start.handle⟩

theorem SameWait.waits {before after : Process} (same : SameWait before after) :
    after.WaitsForChild ↔ before.WaitsForChild := by
  simp only [Process.WaitsForChild, same.used, same.state, same.reason]

theorem SameWait.ended {before after : Process} (same : SameWait before after) :
    after.Ended ↔ before.Ended := by
  simp only [Process.Ended, Process.terminal, same.used, same.state]

theorem SameWait.matches_iff {parent : Process} (first : SameWait parent parent')
    (second : SameWait child child') : WaitMatches parent' child' ↔ WaitMatches parent child :=
  waitMatches_congr first.target first.group second.members second.handle

variable (process : Process)

theorem loseChildren_sameWait :
    SameWait process (process.loseChildren count) := ⟨rfl, rfl, rfl, rfl, rfl, rfl, rfl⟩

theorem gainChildren_sameWait :
    SameWait process (process.gainChildren count) := ⟨rfl, rfl, rfl, rfl, rfl, rfl, rfl⟩

theorem addPending_sameWait :
    SameWait process (process.addPending signal) := ⟨rfl, rfl, rfl, rfl, rfl, rfl, rfl⟩

theorem sameWait_modify {step : Process → Process} (same : ∀ process, SameWait process (step process))
    (table : Table) (slot other : Nat) :
    SameWait (table.processes other) ((table.modify slot step).processes other) := by
  obtain rfl | here := eq_or_ne other slot
  · rw [modify_self]
    exact same _
  · rw [modify_other table step here]
    exact SameWait.refl _

/-- Adoption moves children and recounts them, and touches nothing else the invariant reads. -/
theorem reparentChildren_sameWait (table : Table) (deadSlot slot : Nat) :
    SameWait (table.processes slot) ((table.reparentChildren deadSlot).processes slot) := by
  unfold reparentChildren
  split
  · exact SameWait.refl _
  · rename_i initSlot _
    refine SameWait.trans ?_ (sameWait_modify (gainChildren_sameWait _) _ _ _)
    refine SameWait.trans ?_ (sameWait_modify (loseChildren_sameWait _) _ _ _)
    simp only [modifyWhere]
    split
    · exact ⟨rfl, rfl, rfl, rfl, rfl, rfl, rfl⟩
    · exact SameWait.refl _

theorem modify_parentSlot (step : Process → Process)
    (same : ∀ process, (step process).parentSlot = process.parentSlot) (table : Table)
    (slot other : Nat) :
    ((table.modify slot step).processes other).parentSlot = (table.processes other).parentSlot := by
  obtain rfl | here := eq_or_ne other slot
  · rw [modify_self, same]
  · rw [modify_other table step here]

/-- Every used child of the dead process becomes a child of `init`; the other parents stay. -/
theorem reparentChildren_parentSlot {deadSlot initSlot : Nat}
    (resolved : table.resolve table.initHandle = .ok initSlot) (below : slot < maximumProcesses)
    (used : (table.processes slot).used = true) :
    ((table.reparentChildren deadSlot).processes slot).parentSlot =
      if (table.processes slot).parentSlot = deadSlot then initSlot
      else (table.processes slot).parentSlot := by
  unfold reparentChildren
  rw [resolved]
  simp only
  rw [modify_parentSlot (gainChildren _) fun _ => rfl,
    modify_parentSlot (loseChildren _) fun _ => rfl]
  simp only [modifyWhere, below, used, beq_iff_eq, true_and]
  split <;> rfl

variable {childSlot : Nat}

/-- What waking the parent leaves asleep or ended, it left alone. -/
theorem wakeParent_entry (kept : ((table.wakeParent childSlot).processes slot).WaitsForChild ∨
      ((table.wakeParent childSlot).processes slot).Ended) :
    (table.wakeParent childSlot).processes slot = table.processes slot := by
  unfold wakeParent at kept ⊢
  simp only at kept ⊢
  split_ifs at kept ⊢ with absent idle declined
  · rfl
  · rfl
  · rfl
  · obtain rfl | same := eq_or_ne slot ((table.processes childSlot).parentSlot)
    · rw [modify_self] at kept
      simp [Process.WaitsForChild, Process.Ended, Process.terminal] at kept
    · rw [modify_other table _ same]

variable {parent : Nat}

/-- A parent that still sleeps after the wake-up was not waiting for this child. -/
theorem wakeParent_declines (below : parent < maximumProcesses)
    (childOf : (table.processes childSlot).parentSlot = parent)
    (waits : ((table.wakeParent childSlot).processes parent).WaitsForChild) :
    ¬ WaitMatches (table.processes parent) (table.processes childSlot) := by
  intro isMatch
  have entry := wakeParent_entry (.inl waits)
  have asleep : (table.processes parent).WaitsForChild := entry ▸ waits
  have accepts := (acceptsChild_iff _ _).mpr isMatch
  have woken : table.wakeParent childSlot = table.modify parent fun process =>
      { process with state := .runnable, waitReason := .none, waitTarget := 0, waitGroup := false } := by
    unfold wakeParent
    simp only [childOf]
    rw [if_neg (by simp [asleep.1, below]), if_neg (by simp [asleep.2.1, asleep.2.2]),
      if_neg (by simp [accepts])]
  rw [woken, modify_self] at waits
  exact absurd waits.2.1 (by simp)

theorem resolve_congr (same : ∀ slot, (after.processes slot).used = (before.processes slot).used ∧
      (after.processes slot).generation = (before.processes slot).generation ∧
      (after.processes slot).handle = (before.processes slot).handle) :
    after.resolve handle = before.resolve handle := by
  unfold Table.resolve
  simp only [(same _).1, (same _).2.1, (same _).2.2]

/-- The table just before adoption: one process ended, the rest did not change. -/
structure Dies (before dying : Table) (slot : Nat) : Prop where
  others : ∀ other, other ≠ slot → dying.processes other = before.processes other
  ended : (dying.processes slot).Ended
  parent : (dying.processes slot).parentSlot = (before.processes slot).parentSlot
  members : (dying.processes slot).processGroup = (before.processes slot).processGroup
  handle : (dying.processes slot).handle = (before.processes slot).handle
  resolves : dying.resolve dying.initHandle = before.resolve before.initHandle

variable {dying : Table}

/-- Adoption and the wake-up after it keep the invariant when the orphans are quiet. -/
theorem Dies.noLostWakeup (dies : Dies before dying slot) (quiet : NoLostWakeup before)
    (orphans : OrphansQuiet before slot) :
    NoLostWakeup ((dying.reparentChildren slot).wakeParent slot) := by
  intro parent parentBelow waits child childBelow ended childOf isMatch
  have declines : ∀ _ : ((dying.reparentChildren slot).processes slot).parentSlot = parent,
      ¬ WaitMatches ((dying.reparentChildren slot).processes parent)
        ((dying.reparentChildren slot).processes slot) :=
    fun childOfParent => wakeParent_declines parentBelow childOfParent waits
  have parentEntry := wakeParent_entry (.inl waits)
  have childEntry := wakeParent_entry (.inr ended)
  rw [parentEntry] at waits
  rw [childEntry] at ended childOf
  rw [parentEntry, childEntry] at isMatch
  have same := reparentChildren_sameWait dying slot
  have parentOther : parent ≠ slot := by
    rintro rfl
    exact not_ended_of_waits ((same parent).waits.mp waits) dies.ended
  obtain rfl | childSame := eq_or_ne child slot
  · exact declines childOf isMatch
  have waited : (before.processes parent).WaitsForChild := by
    rw [← dies.others parent parentOther]
    exact (same parent).waits.mp waits
  have hadEnded : (before.processes child).Ended := by
    rw [← dies.others child childSame]
    exact (same child).ended.mp ended
  have matched : WaitMatches (before.processes parent) (before.processes child) := by
    rw [← dies.others parent parentOther, ← dies.others child childSame]
    exact ((same parent).matches_iff (same child)).mp isMatch
  rcases resolved : dying.resolve dying.initHandle with failure | initSlot
  · have unmoved : dying.reparentChildren slot = dying := by
      unfold reparentChildren
      rw [resolved]
    rw [unmoved, dies.others child childSame] at childOf
    exact quiet parent parentBelow waited child childBelow hadEnded childOf matched
  have childUsed : (dying.processes child).used = true := by
    rw [dies.others child childSame]
    exact hadEnded.1
  rw [reparentChildren_parentSlot resolved childBelow childUsed, dies.others child childSame]
    at childOf
  split at childOf
  · -- The child was handed to `init`, which is the sleeping parent.
    rename_i wasOrphaned
    subst childOf
    unfold OrphansQuiet at orphans
    rw [← dies.resolves, resolved] at orphans
    obtain ⟨deadChild, deadMatches⟩ := orphans parentOther waited
      ⟨child, childBelow, hadEnded, wasOrphaned, matched⟩
    refine declines ?_ (((same initSlot).matches_iff (same slot)).mpr ?_)
    · by_cases below : slot < maximumProcesses
      · rw [reparentChildren_parentSlot resolved below dies.ended.1, dies.parent, deadChild]
        split <;> rfl
      · have untouched : ((dying.reparentChildren slot).processes slot).parentSlot =
            (dying.processes slot).parentSlot := by
          unfold reparentChildren
          rw [resolved]
          simp only
          rw [modify_parentSlot (gainChildren _) fun _ => rfl,
            modify_parentSlot (loseChildren _) fun _ => rfl]
          simp only [modifyWhere, below, false_and, if_false]
        rw [untouched, dies.parent, deadChild]
    · rw [dies.others initSlot parentOther]
      exact (waitMatches_congr rfl rfl dies.members dies.handle).mpr deadMatches
  · exact quiet parent parentBelow waited child childBelow hadEnded childOf matched

/-- Handles survive adoption and the wake-up. -/
theorem terminate_handles (nonzero : HandlesNonzero table) :
    HandlesNonzero ((table.reparentChildren slot).wakeParent slot) := by
  have reparented : HandlesNonzero (table.reparentChildren slot) := by
    intro other used
    have same := reparentChildren_sameWait table slot other
    rw [same.handle]
    exact nonzero other (same.used ▸ used)
  unfold wakeParent
  simp only
  split_ifs
  · exact reparented
  · exact reparented
  · exact reparented
  · apply (calmer_active ?_ ?_ ?_ _).handles reparented
    · intro process
      simp [Process.WaitsForChild]
    · intro process
      simp [Process.Ended, Process.terminal]
    · exact fun _ => ⟨rfl, rfl⟩

/-! ### Every operation -/

/-- The process-table operations of a run, whatever process asks for them. -/
inductive Operation where
  | spawn (parent : Option Nat) (request : SpawnRequest)
  | spawnPipeline (parent : Nat) (request : SpawnRequest) (group : SpawnGroup)
  | exit (handle status : Nat)
  | fault (handle vector address : Nat)
  | sendSignal (sender target signal : Nat)
  | sendGroupSignal (sender group signal : Nat)
  | wait (parent : Nat) (target : Option Nat) (nonblocking : Bool)
  | waitGroup (parent group : Nat) (nonblocking : Bool)
  | reapTerminalChildren (parent : Nat)
  | stop (handle : Nat)
  | continueProcess (handle : Nat)

/-- The table an operation leaves behind, whether it succeeds or fails. -/
def Operation.apply (table : Table) : Operation → Table
  | .spawn parent request => (Table.spawn parent request table).2
  | .spawnPipeline parent request group => (Table.spawnPipeline parent request group table).2
  | .exit handle status => (Table.exit handle status table).2
  | .fault handle vector address => (Table.fault handle vector address table).2
  | .sendSignal sender target signal => (Table.sendSignal sender target signal table).2
  | .sendGroupSignal sender group signal => (Table.sendGroupSignal sender group signal table).2
  | .wait parent target nonblocking => (Table.wait parent target nonblocking table).2
  | .waitGroup parent group nonblocking => (Table.waitGroup parent group nonblocking table).2
  | .reapTerminalChildren parent => (Table.reapTerminalChildren parent table).2
  | .stop handle => (Table.stop handle table).2
  | .continueProcess handle => (Table.continueProcess handle table).2

/-- If the handle resolves, ending its process hands `init` no awaited orphan. -/
def EndsQuietly (table : Table) (handle : Nat) : Prop :=
  match table.resolve handle with
  | .error _ => True
  | .ok slot => OrphansQuiet table slot

/-- The same for a signal: only the kill signal ends a process. -/
def SignalsQuietly (table : Table) (target signal : Nat) : Prop :=
  signal = 9 → EndsQuietly table target

/-- The same for a group signal, for each member at the moment its signal is delivered. -/
def GroupSignalsQuietly (sender signal : Nat) : Table → List Nat → Prop
  | _, [] => True
  | table, handle :: rest =>
    SignalsQuietly table handle signal ∧
      ∀ after, Table.sendSignal sender handle signal table = (.ok (), after) →
        GroupSignalsQuietly sender signal after rest

/-- When the parent has an ended child that the filter admits, some such child carries a
sequence number below the largest one, which the search for the earliest child treats as
"none". -/
def SequencesFit (table : Table) (parent : Nat) (filter : Process → Bool) : Prop :=
  match table.resolve parent with
  | .error _ => True
  | .ok parentSlot =>
    (∃ child < maximumProcesses, (table.processes child).Ended ∧
      (table.processes child).parentSlot = parentSlot ∧ filter (table.processes child) = true) →
    ∃ child < maximumProcesses, (table.processes child).Ended ∧
      (table.processes child).parentSlot = parentSlot ∧ filter (table.processes child) = true ∧
      (table.processes child).terminalSequence < 2 ^ 64 - 1

/-- The condition under which an operation loses no wake-up. -/
def Operation.Quiet (table : Table) : Operation → Prop
  | .exit handle _ => EndsQuietly table handle
  | .fault handle _ _ => EndsQuietly table handle
  | .sendSignal _ target signal => SignalsQuietly table target signal
  | .sendGroupSignal sender group signal =>
    GroupSignalsQuietly sender signal table (table.groupTargets group)
  | .wait parent none false => SequencesFit table parent fun _ => true
  | .waitGroup parent group false => SequencesFit table parent (groupFilter group)
  | _ => True

/-- The invariant that the runs carry. -/
structure WaitInvariant (table : Table) : Prop where
  quiet : NoLostWakeup table
  handles : HandlesNonzero table

theorem WaitInvariant.of_calmer (invariant : WaitInvariant before)
    (calmer : Calmer before after) : WaitInvariant after :=
  ⟨calmer.noLostWakeup invariant.quiet, calmer.handles invariant.handles⟩

theorem Dies.invariant (dies : Dies before dying slot) (invariant : WaitInvariant before)
    (orphans : OrphansQuiet before slot) (used : (before.processes slot).used = true) :
    WaitInvariant ((dying.reparentChildren slot).wakeParent slot) := by
  refine ⟨dies.noLostWakeup invariant.quiet orphans, terminate_handles fun other isUsed => ?_⟩
  obtain rfl | same := eq_or_ne other slot
  · rw [dies.handle]
    exact invariant.handles other used
  · rw [dies.others other same] at isUsed ⊢
    exact invariant.handles other isUsed

variable {handle : Nat}

theorem resolve_used (resolved : table.resolve handle = .ok slot) :
    slot < maximumProcesses ∧ (table.processes slot).used = true := by
  unfold Table.resolve at resolved
  simp only at resolved
  split_ifs at resolved with large invalid
  cases resolved
  push Not at large invalid
  exact ⟨large, by simpa using invalid.1⟩

/-- A modification of one slot and a change of counters make the process end. -/
theorem dies_of_modify {table changed : Table} {slot : Nat} (entry : Process)
    (used : (table.processes slot).used = true)
    (entries : changed.processes = update table.processes slot entry)
    (initSame : changed.initHandle = table.initHandle) (terminal : entry.terminal = true)
    (sameUsed : entry.used = (table.processes slot).used)
    (sameGeneration : entry.generation = (table.processes slot).generation)
    (sameHandle : entry.handle = (table.processes slot).handle)
    (sameParent : entry.parentSlot = (table.processes slot).parentSlot)
    (sameGroup : entry.processGroup = (table.processes slot).processGroup) :
    Dies table changed slot := by
  have here : changed.processes slot = entry := by
    rw [entries, update_self]
  have others (other : Nat) (different : other ≠ slot) :
      changed.processes other = table.processes other := by
    rw [entries, update_of_ne different]
  refine ⟨others, ⟨?_, ?_⟩, ?_, ?_, ?_, ?_⟩
  · rw [here, sameUsed, used]
  · rw [here, terminal]
  · rw [here, sameParent]
  · rw [here, sameGroup]
  · rw [here, sameHandle]
  · rw [initSame]
    refine resolve_congr _ fun other => ?_
    obtain rfl | different := eq_or_ne other slot
    · rw [here]
      exact ⟨sameUsed, sameGeneration, sameHandle⟩
    · rw [others other different]
      exact ⟨rfl, rfl, rfl⟩

theorem exit_invariant {status : Nat} (invariant : WaitInvariant table)
    (quiet : EndsQuietly table handle) : WaitInvariant (Table.exit handle status table).2 := by
  unfold Table.exit
  rw [bind_state]
  rcases resolved : table.resolve handle with failure | slot
  · exact invariant
  rw [bind_lift_ok, bind_failWhen]
  split
  · exact invariant
  rw [change_apply]
  simp only [EndsQuietly, resolved] at quiet
  obtain ⟨_, used⟩ := resolve_used resolved
  have dies := fun changed entries => @dies_of_modify table changed slot { table.processes slot with
      state := .zombie
      exitStatus := status
      terminalSequence := table.nextTerminalSequence
      waitReason := .none
      wakeTick := 0
      waitTarget := 0 }
    used entries
  refine Dies.invariant (dies _ ?_ rfl rfl rfl rfl rfl rfl rfl) invariant quiet used
  simp [Table.recordTerminalSequence, Table.modify]

theorem fault_invariant {vector address : Nat} (invariant : WaitInvariant table)
    (quiet : EndsQuietly table handle) :
    WaitInvariant (Table.fault handle vector address table).2 := by
  unfold Table.fault
  rw [bind_state]
  rcases resolved : table.resolve handle with failure | slot
  · exact invariant
  rw [bind_lift_ok, bind_failWhen]
  split
  · exact invariant
  rw [change_apply]
  simp only [EndsQuietly, resolved] at quiet
  obtain ⟨_, used⟩ := resolve_used resolved
  have dies := fun changed entries => @dies_of_modify table changed slot { table.processes slot with
      state := .faulted
      terminalSequence := table.nextTerminalSequence
      faultVector := vector
      faultAddress := address
      exitStatus := 0x80000000 ||| vector
      waitReason := .none }
    used entries
  refine Dies.invariant (dies _ ?_ rfl rfl rfl rfl rfl rfl rfl) invariant quiet used
  simp [Table.recordTerminalSequence, Table.modify]

/-- Pending signals and counters are not part of the condition either. -/
theorem endsQuietly_congr (handle : Nat) (initSame : after.initHandle = before.initHandle)
    (generations : ∀ slot, (after.processes slot).generation = (before.processes slot).generation)
    (parents : ∀ slot, (after.processes slot).parentSlot = (before.processes slot).parentSlot)
    (same : ∀ slot, SameWait (before.processes slot) (after.processes slot))
    (quiet : EndsQuietly before handle) : EndsQuietly after handle := by
  have resolves (name : Nat) : after.resolve name = before.resolve name :=
    resolve_congr name fun slot => ⟨(same slot).used, generations slot, (same slot).handle⟩
  unfold EndsQuietly at quiet ⊢
  rw [resolves]
  split
  · trivial
  rename_i slot resolved
  simp only [resolved] at quiet
  unfold OrphansQuiet at quiet ⊢
  rw [initSame, resolves]
  split
  · trivial
  rename_i initSlot initResolved
  simp only [initResolved] at quiet
  intro different waits ⟨orphan, below, ended, childOf, isMatch⟩
  rw [parents, (same initSlot).matches_iff (same slot)]
  exact quiet different ((same initSlot).waits.mp waits)
    ⟨orphan, below, (same orphan).ended.mp ended, (parents orphan) ▸ childOf,
      ((same initSlot).matches_iff (same orphan)).mp isMatch⟩

variable {signal : Nat}

theorem sendSignal_invariant (sender : Nat) (invariant : WaitInvariant table)
    (quiet : SignalsQuietly table target signal) :
    WaitInvariant (Table.sendSignal sender target signal table).2 := by
  unfold Table.sendSignal
  rw [bind_failWhen]
  split
  · exact invariant
  rw [bind_state]
  rcases resolvedSender : table.resolve sender with failure | senderSlot
  · exact invariant
  rw [bind_lift_ok]
  rcases resolvedTarget : table.resolve target with failure | targetSlot
  · exact invariant
  rw [bind_lift_ok, bind_failWhen]
  split
  · exact invariant
  rw [bind_failWhen]
  split
  · exact invariant
  rw [bind_change]
  have marked : Calmer table (table.modify targetSlot (addPending signal)) :=
    calmer_bookkeeping targetSlot (addPending_fields signal) table
  have kept : WaitInvariant { table.modify targetSlot (addPending signal) with
      totalSignals := wrapIncrement 64 table.totalSignals } :=
    (invariant.of_calmer marked).of_calmer (calmer_of_processes rfl)
  split_ifs with kill halts resumes
  · refine exit_invariant kept (endsQuietly_congr target ?_ ?_ ?_ ?_ (quiet kill))
    · rfl
    · intro slot
      by_cases same : slot = targetSlot <;> simp [Table.modify, addPending, same]
    · exact modify_parentSlot (addPending signal) (fun _ => rfl) table targetSlot
    · exact sameWait_modify (addPending_sameWait signal) table targetSlot
  · exact kept.of_calmer (stop_calmer target _)
  · exact kept.of_calmer (continueProcess_calmer target _)
  · exact kept.of_calmer (interrupt_calmer targetSlot _)

variable {sender : Nat}

/-- A group signal is a run of signals: the invariant is carried from member to member. -/
theorem signalEach_invariant (targets : List Nat) (invariant : WaitInvariant table)
    (quiet : GroupSignalsQuietly sender signal table targets) :
    WaitInvariant (Table.signalEach sender signal targets table).2 := by
  induction targets generalizing table with
  | nil => exact invariant
  | cons handle rest hypothesis =>
    obtain ⟨first, later⟩ := quiet
    have kept := sendSignal_invariant sender invariant first
    unfold Table.signalEach
    rw [bind_apply]
    rcases outcome : Table.sendSignal sender handle signal table with ⟨failure | _, after⟩
    · rwa [outcome] at kept
    · rw [outcome] at kept
      exact hypothesis kept (later after outcome)

theorem sendGroupSignal_invariant {group : Nat} (invariant : WaitInvariant table)
    (quiet : GroupSignalsQuietly sender signal table (table.groupTargets group)) :
    WaitInvariant (Table.sendGroupSignal sender group signal table).2 := by
  have kept := signalEach_invariant (table.groupTargets group) invariant quiet
  unfold Table.sendGroupSignal
  rw [bind_state, bind_apply]
  rcases outcome : Table.signalEach sender signal (table.groupTargets group) table with
    ⟨failure | _, after⟩
  · rwa [outcome] at kept
  · rwa [outcome] at kept

/-! ### Waiting calls -/

/-- A search that finds nothing although the sequence numbers fit has nothing to find. -/
theorem earliestTerminal_none {filter : Process → Bool}
    (missing : table.earliestTerminal parentSlot filter = none)
    (resolved : table.resolve parent = .ok parentSlot) (fit : SequencesFit table parent filter)
    {child : Nat} (below : child < maximumProcesses) (ended : (table.processes child).Ended)
    (childOf : (table.processes child).parentSlot = parentSlot) :
    filter (table.processes child) = false := by
  by_contra admitted
  simp only [SequencesFit, resolved] at fit
  obtain ⟨first, firstBelow, firstEnded, firstOf, firstAdmitted, small⟩ :=
    fit ⟨child, below, ended, childOf, by simpa using admitted⟩
  have tested : (table.isChild parentSlot filter first && (table.processes first).terminal) = true := by
    simp only [Table.isChild, firstEnded.1, firstEnded.2, firstOf, firstAdmitted, beq_self_eq_true,
      Bool.and_self]
  exact absurd (leastIndex_eq_none missing first firstBelow tested) (not_le.mpr small)

variable {nonblocking : Bool}

theorem wait_invariant {target : Option Nat} (invariant : WaitInvariant table)
    (fit : target = none → nonblocking = false → SequencesFit table parent fun _ => true) :
    WaitInvariant (Table.wait parent target nonblocking table).2 := by
  unfold Table.wait
  rw [bind_state]
  rcases resolved : table.resolve parent with failure | parentSlot
  · exact invariant
  rw [bind_lift_ok]
  rcases missing : table.waitCandidate parentSlot target with _ | slot
  case some =>
    exact invariant.of_calmer (keeps_bind (reapSlot_calmer parentSlot slot)
      (fun _ => keeps_pure _) table)
  rw [bind_failWhen]
  split
  · exact invariant
  rename_i hasChild
  rw [bind_change]
  cases nonblocking
  · refine ⟨blockOnChild_quiet invariant.quiet ?_, blockOnChild_handles invariant.handles⟩
    intro child below ended childOf isMatch
    rcases target with _ | target
    · exact absurd (earliestTerminal_none missing resolved (fit rfl rfl) below ended childOf)
        (by simp)
    · -- A wait for handle zero has no child, and zero is what "any child" looks like.
      obtain ⟨named, _, used, _, isTarget⟩ :=
        findFirst_isChild_of_hasChild (by simpa using hasChild)
      have nonzero : target ≠ 0 := by
        rw [← beq_iff_eq.mp isTarget]
        exact invariant.handles named used
      have sameHandle : (table.processes child).handle = target := by
        simpa [WaitMatches, blockOnChild, nonzero, eq_comm] using isMatch
      have passed := firstIndex_eq_none.mp missing child below
      simp [Table.isChild, ended.1, ended.2, childOf, sameHandle] at passed
  · exact invariant

theorem waitGroup_invariant {group : Nat} (invariant : WaitInvariant table)
    (fit : nonblocking = false → SequencesFit table parent (groupFilter group)) :
    WaitInvariant (Table.waitGroup parent group nonblocking table).2 := by
  unfold Table.waitGroup
  rw [bind_failWhen]
  split
  · exact invariant
  rename_i nonzero
  rw [bind_state]
  rcases resolved : table.resolve parent with failure | parentSlot
  · exact invariant
  rw [bind_lift_ok]
  rcases missing : table.earliestTerminal parentSlot (groupFilter group) with _ | slot
  case some =>
    exact invariant.of_calmer (keeps_bind (reapSlot_calmer parentSlot slot)
      (fun _ => keeps_pure _) table)
  rw [bind_failWhen]
  split
  · exact invariant
  rw [bind_change]
  cases nonblocking
  · refine ⟨blockOnChild_quiet invariant.quiet ?_, blockOnChild_handles invariant.handles⟩
    intro child below ended childOf isMatch
    have other := earliestTerminal_none missing resolved (fit rfl) below ended childOf
    have sameGroup : (table.processes child).processGroup = group := by
      simpa [WaitMatches, blockOnChild, nonzero, eq_comm] using isMatch
    simp [groupFilter, sameGroup] at other
  · exact invariant

/-! ### Runs -/

/-- One operation that meets its condition keeps the invariant. -/
theorem Operation.apply_invariant (operation : Operation) (invariant : WaitInvariant table)
    (quiet : operation.Quiet table) : WaitInvariant (operation.apply table) := by
  cases operation with
  | spawn parent request => exact invariant.of_calmer (spawnInternal_calmer parent request _ table)
  | spawnPipeline parent request group =>
    exact invariant.of_calmer (spawnPipeline_calmer parent request group table)
  | exit handle status => exact exit_invariant invariant quiet
  | fault handle vector address => exact fault_invariant invariant quiet
  | sendSignal sender target signal => exact sendSignal_invariant sender invariant quiet
  | sendGroupSignal sender group signal => exact sendGroupSignal_invariant invariant quiet
  | wait parent target nonblocking =>
    refine wait_invariant invariant fun any blocking => ?_
    subst any blocking
    exact quiet
  | waitGroup parent group nonblocking =>
    refine waitGroup_invariant invariant fun blocking => ?_
    subst blocking
    exact quiet
  | reapTerminalChildren parent =>
    exact invariant.of_calmer (reapTerminalChildren_calmer parent table)
  | stop handle => exact invariant.of_calmer (stop_calmer handle table)
  | continueProcess handle => exact invariant.of_calmer (continueProcess_calmer handle table)

/-- The tables of the runs in which every step meets its condition. -/
inductive QuietRun : Table → Prop where
  | initialized (tick : Nat) : QuietRun (Table.initialized tick)
  | step {table : Table} (operation : Operation) :
      QuietRun table → operation.Quiet table → QuietRun (operation.apply table)

/-- The entry of `init`. -/
def initProcess (tick : Nat) : Process :=
  { (({} : Table).newProcess
      { kind := .kernel, name := initName, arguments := [initName], tick } 0 invalidSlot 1 1) with
    state := .running
    contextSwitches := 1 }

variable (tick : Nat)

theorem initialized_processes :
    (Table.initialized tick).processes = update (fun _ => {}) 0 (initProcess tick) := by
  have placed : firstIndex maximumProcesses (fun slot => !(({} : Table).processes slot).used) =
      some 0 := by decide
  have short : ¬ (initName.length = 0 ∨ initName.length > maximumNameLength) := by decide
  have arguments : ¬ ∃ argument ∈ [initName], argument.length > maximumArgumentLength := by decide
  have group (table : Table) :
      table.spawnProcessGroup invalidSlot ({} : Table).nextPid .inherit = .ok 1 := rfl
  unfold Table.initialized Table.spawnInternal
  rw [bind_failWhen, if_neg short, bind_failWhen, if_neg (by simp), bind_state,
    show ({} : Table).resolveParent none = .ok invalidSlot from rfl, bind_lift_ok,
    bind_failWhen, if_neg (by simp), placed]
  simp only [bind_lift_ok, bind_change]
  rw [group, bind_lift_ok, bind_failWhen, if_neg arguments, bind_change]
  simp [Table.install, Table.modify, initProcess]

/-- A fresh table has one running process and nobody to wake. -/
theorem initialized_invariant : WaitInvariant (Table.initialized tick) := by
  have entry (slot : Nat) : (Table.initialized tick).processes slot = initProcess tick ∨
      (Table.initialized tick).processes slot = {} := by
    rw [initialized_processes, update_apply]
    split
    · exact .inl rfl
    · exact .inr rfl
  refine ⟨fun parent _ waits => ?_, fun slot used => ?_⟩
  · exfalso
    rcases entry parent with first | fresh
    · rw [first] at waits
      exact absurd waits.2.1 (by simp [initProcess])
    · rw [fresh] at waits
      exact absurd waits.1 (by simp)
  · rcases entry slot with first | fresh
    · rw [first]
      exact makeHandle_ne_zero _ _
    · rw [fresh] at used
      simp at used

/-- `init` waits for any child, and its only child is about to end. -/
def waitingTable : Table :=
  [Operation.spawn (some 0x100000000) { name := [113] },
    .wait 0x100000000 none false].foldl Operation.apply (Table.initialized 0)

/-- `init` waits for any child. Its grandchild `p`, which left an ended child unreaped, ends:
`init` inherits that child and nobody wakes it. -/
def adoptionRun : List Operation := [
  .spawn (some 0x100000000) { name := [113] },
  .spawn (some 0x100000001) { name := [112] },
  .spawn (some 0x100000002) { name := [99] },
  .exit 0x100000003 0,
  .wait 0x100000000 none false,
  .exit 0x100000002 0]

end ZigOs.RuntimeProcess
