/-
This file says who sleeps on what in the process table, for the three reasons
that the descriptor system puts processes to sleep for and wakes them from. A
call is calm when it puts nobody to sleep for one of them.
-/

import ZigOs.RuntimeTty.Tty

namespace ZigOs.RuntimeProcess

open Scan Call Function Table

/-- The reasons that concern descriptors. -/
def WaitReason.onDescriptor : WaitReason → Bool
  | .pipeRead | .pipeWrite | .fileLock => true
  | _ => false

/-- The process in the slot sleeps on this reason and target. -/
structure Table.Asleep (table : Table) (slot : Nat) (reason : WaitReason) (target : Nat) : Prop where
  bounded : slot < maximumProcesses
  used : (table.processes slot).used = true
  blocked : (table.processes slot).state = .blocked
  reason : (table.processes slot).waitReason = reason
  target : (table.processes slot).waitTarget = target

/-- Whoever sleeps on a descriptor after the step slept there before it. -/
def Calm (before after : Table) : Prop :=
  ∀ slot reason target, reason.onDescriptor = true → after.Asleep slot reason target →
    before.Asleep slot reason target

instance : Std.Refl Calm where
  refl _ := fun _ _ _ _ asleep => asleep

instance : IsTrans Table Calm where
  trans _ _ _ start finish := fun slot reason target watched asleep =>
    start slot reason target watched (finish slot reason target watched asleep)

variable {reason : WaitReason} {target : Nat}

theorem sleepsOn_iff {process : Process} : sleepsOn reason target process = true ↔
      process.state = .blocked ∧ process.waitReason = reason ∧ process.waitTarget = target := by
  simp [sleepsOn, and_assoc]

variable {table : Table} {slot otherTarget : Nat} {other : WaitReason}

/-- Waking puts nobody to sleep, and nobody sleeps on the target any more. -/
theorem wakeMatching_asleep
    (asleep : (table.wakeMatching reason target true).2.Asleep slot other otherTarget) :
    table.Asleep slot other otherTarget ∧ ¬ (other = reason ∧ otherTarget = target) := by
  obtain ⟨bounded, used, blocked, reasonOf, targetOf⟩ := asleep
  simp only [wakeMatching, if_true, modifyWhere] at used blocked reasonOf targetOf
  by_cases woken : slot < maximumProcesses ∧ (table.processes slot).used = true ∧
      sleepsOn reason target (table.processes slot) = true
  · simp [woken, wake] at blocked
  · rw [if_neg woken] at used blocked reasonOf targetOf
    refine ⟨⟨bounded, used, blocked, reasonOf, targetOf⟩, ?_⟩
    rintro ⟨rfl, rfl⟩
    exact woken ⟨bounded, used, sleepsOn_iff.mpr ⟨blocked, reasonOf, targetOf⟩⟩

theorem wakeMatching_calm (table : Table) (reason : WaitReason) (target : Nat) :
    Calm table (table.wakeMatching reason target true).2 :=
  fun _ _ _ _ asleep => (wakeMatching_asleep asleep).1

theorem calm_modify {step : Process → Process} (awake : ∀ reason, reason.onDescriptor = true →
      (step (table.processes slot)).state = .blocked →
      (step (table.processes slot)).waitReason = reason →
      (table.processes slot).used = (step (table.processes slot)).used ∧
        (table.processes slot).state = .blocked ∧ (table.processes slot).waitReason = reason ∧
        (table.processes slot).waitTarget = (step (table.processes slot)).waitTarget) :
    Calm table (table.modify slot step) := by
  rintro other reason target watched ⟨bounded, used, blocked, reasonOf, targetOf⟩
  obtain rfl | here := eq_or_ne other slot
  · simp only [Table.modify, update_self] at used blocked reasonOf targetOf
    obtain ⟨sameUsed, wasBlocked, wasReason, sameTarget⟩ := awake reason watched blocked reasonOf
    exact ⟨bounded, sameUsed.trans used, wasBlocked, wasReason, sameTarget.trans targetOf⟩
  · simp only [Table.modify, update_of_ne here] at used blocked reasonOf targetOf
    exact ⟨bounded, used, blocked, reasonOf, targetOf⟩

theorem setResourceUsage_calm (handle pages descriptors sockets : Nat) :
    Keeps Calm (setResourceUsage handle pages descriptors sockets) := by
  refine keeps_state_bind fun table => keeps_lift_bind fun slot =>
    keeps_failWhen_bind fun _ => keeps_change fun before => ?_
  exact calm_modify fun reason _ blocked reasonOf => ⟨rfl, blocked, reasonOf, rfl⟩

theorem block_apply (handle : Nat) (reason : WaitReason) (target : Nat) (table : Table)
    (allowed : ¬ (reason = .none ∨ reason = .sleep)) :
    block handle reason target table =
      match table.resolve handle with
      | .error failure => (.error failure, table)
      | .ok slot =>
        if (table.processes slot).terminal then (.error .alreadyTerminal, table)
        else (.ok (), table.modify slot fun process =>
          { process with
            state := .blocked
            waitReason := reason
            waitTarget := target
            waitGroup := false }) := by
  simp only [block, bind_failWhen, if_neg allowed, bind_state]
  cases table.resolve handle with
  | error failure => rfl
  | ok slot =>
    simp only [bind_lift_ok, bind_failWhen]
    split <;> rfl

/-- After a block only its caller may be a new sleeper, and only on the given target. -/
theorem block_asleep {handle : Nat}
    (asleep : (block handle reason target table).2.Asleep slot other otherTarget) :
    table.Asleep slot other otherTarget ∨
      (other = reason ∧ otherTarget = target ∧ table.resolve handle = .ok slot) := by
  by_cases refused : reason = .none ∨ reason = .sleep
  · rw [block, bind_failWhen, if_pos refused] at asleep
    exact .inl asleep
  rw [block_apply handle reason target table refused] at asleep
  cases resolved : table.resolve handle with
  | error failure =>
    rw [resolved] at asleep
    exact .inl asleep
  | ok caller =>
    rw [resolved] at asleep
    dsimp only at asleep
    split at asleep
    · exact .inl asleep
    · obtain ⟨bounded, used, blocked, reasonOf, targetOf⟩ := asleep
      obtain rfl | here := eq_or_ne slot caller
      · simp only [Table.modify, update_self] at reasonOf targetOf
        exact .inr ⟨reasonOf.symm, targetOf.symm, rfl⟩
      · simp only [Table.modify, update_of_ne here] at used blocked reasonOf targetOf
        exact .inl ⟨bounded, used, blocked, reasonOf, targetOf⟩

theorem block_terminalRead_calm (handle target : Nat) :
    Keeps Calm (block handle .terminalRead target) := by
  intro table slot reason other watched asleep
  rcases block_asleep asleep with before | ⟨rfl, -, -⟩
  · exact before
  · cases watched

theorem readTerminal_calm (terminal : RuntimeTty.Tty) (handle length : Nat) :
    Keeps Calm (terminal.read handle length) := by
  refine keeps_state_bind fun table => keeps_bind (keeps_lift _)
    fun process => keeps_failWhen_bind fun _ => ?_
  refine keeps_ite (keeps_pure _) (keeps_ite (keeps_pure _) (keeps_ite (keeps_pure _) ?_))
  exact keeps_bind (block_terminalRead_calm _ _) fun _ => keeps_pure _

end ZigOs.RuntimeProcess
