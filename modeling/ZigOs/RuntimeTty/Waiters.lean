/-
This file proves that no process is left asleep on the terminal. Signals and
exits put nobody to sleep, and whatever adds to the input wakes everyone who
waits for it.
-/

import ZigOs.RuntimeTty.InputStream

namespace ZigOs.RuntimeTty

open RuntimeProcess Session Call Table

namespace Session

theorem waitsForInput_iff {processes : Table} {slot : Nat} :
    WaitsForInput processes slot ↔ slot < maximumProcesses ∧
      (processes.processes slot).used = true ∧
        Table.sleepsOn .terminalRead terminalWaitKey (processes.processes slot) = true := by
  rw [sleepsOn_iff]
  exact ⟨fun waits => ⟨waits.bounded, waits.used, waits.blocked, waits.reason, waits.target⟩,
    fun ⟨bounded, used, blocked, reason, target⟩ => ⟨bounded, used, blocked, reason, target⟩⟩

end Session

/-- Whoever waits for input after the step did so before it. -/
def NoNewWaiters (before after : Table) : Prop :=
  ∀ slot, WaitsForInput after slot → WaitsForInput before slot

instance : Std.Refl NoNewWaiters where
  refl _ := fun _ waits => waits

instance : IsTrans Table NoNewWaiters where
  trans _ _ _ first second := fun slot waits => first slot (second slot waits)

/-- The change puts nobody to sleep on input. -/
def Wakeful (step : Process → Process) : Prop :=
  ∀ process, (step process).used = true →
    Table.sleepsOn .terminalRead terminalWaitKey (step process) = true →
    process.used = true ∧ Table.sleepsOn .terminalRead terminalWaitKey process = true

theorem noNewWaiters_modify {step : Process → Process} (wakeful : Wakeful step) (table : Table)
    (slot : Nat) : NoNewWaiters table (table.modify slot step) := by
  intro other waits
  rw [waitsForInput_iff] at waits ⊢
  obtain rfl | here := eq_or_ne other slot
  · simp only [Table.modify, Function.update_self] at waits
    exact ⟨waits.1, wakeful _ waits.2.1 waits.2.2⟩
  · simpa only [Table.modify, Function.update_of_ne here] using waits

theorem noNewWaiters_modifyWhere {step : Process → Process} (wakeful : Wakeful step) (table : Table)
    (test : Process → Bool) : NoNewWaiters table (table.modifyWhere test step) := by
  intro other waits
  rw [waitsForInput_iff] at waits ⊢
  simp only [modifyWhere] at waits
  split at waits
  · exact ⟨waits.1, wakeful _ waits.2.1 waits.2.2⟩
  · exact waits

/-- A change that leaves the sleep of a process alone. -/
theorem wakeful_of_same {step : Process → Process} (used : ∀ process, (step process).used = process.used)
    (state : ∀ process, (step process).state = process.state)
    (reason : ∀ process, (step process).waitReason = process.waitReason)
    (target : ∀ process, (step process).waitTarget = process.waitTarget) : Wakeful step := by
  intro process isUsed sleeps
  rw [used] at isUsed
  simp only [Table.sleepsOn, state, reason, target] at sleeps
  exact ⟨isUsed, sleeps⟩

/-- A change after which the process does not sleep. -/
theorem wakeful_of_awake {step : Process → Process} (awake : ∀ process, (step process).state ≠ .blocked) :
    Wakeful step := by
  intro process _ sleeps
  exact absurd (sleepsOn_iff.mp sleeps).1 (awake process)

/-- Only the entries of the table count. -/
theorem noNewWaiters_congr {before after other : Table} (waiters : NoNewWaiters before after)
    (same : other.processes = after.processes) : NoNewWaiters before other := by
  intro slot waits
  rw [waitsForInput_iff, same, ← waitsForInput_iff] at waits
  exact waiters slot waits

variable (table : Table)

theorem reparentChildren_noNewWaiters (deadSlot : Nat) :
    NoNewWaiters table (table.reparentChildren deadSlot) := by
  unfold reparentChildren
  split
  · exact refl _
  · refine Trans.trans (noNewWaiters_modifyWhere ?_ _ _) (IsTrans.trans _ _ _
      (noNewWaiters_modify ?_ _ _) (noNewWaiters_modify ?_ _ _)) <;>
    exact wakeful_of_same (fun _ => rfl) (fun _ => rfl) (fun _ => rfl) fun _ => rfl

theorem wakeParent_noNewWaiters (childSlot : Nat) :
    NoNewWaiters table (table.wakeParent childSlot) := by
  unfold wakeParent
  dsimp only
  split
  · exact refl _
  split
  · exact refl _
  split
  · exact refl _
  · exact noNewWaiters_modify (wakeful_of_awake fun _ => by simp) _ _

theorem exit_noNewWaiters (handle status : Nat) :
    Keeps NoNewWaiters (exit handle status) := by
  refine keeps_state_bind fun table => keeps_lift_bind fun slot =>
    keeps_failWhen_bind fun _ => keeps_change fun before => ?_
  have dead : NoNewWaiters before (before.modify slot fun process =>
      { process with state := .zombie, exitStatus := status }) :=
    noNewWaiters_modify (wakeful_of_awake fun _ => by simp) _ _
  have recorded (table : Table) : NoNewWaiters table (table.recordTerminalSequence slot) :=
    noNewWaiters_congr (@noNewWaiters_modify
      (fun process => { process with terminalSequence := table.nextTerminalSequence })
      (wakeful_of_same (fun _ => rfl) (fun _ => rfl) (fun _ => rfl) fun _ => rfl) table slot) rfl
  have cleared (table : Table) : NoNewWaiters table (table.modify slot fun process =>
      { process with waitReason := .none, wakeTick := 0, waitTarget := 0 }) :=
    noNewWaiters_modify (fun process _ sleeps => by simp [Table.sleepsOn] at sleeps) _ _
  exact Trans.trans dead (Trans.trans (recorded _) (Trans.trans (cleared _)
    (Trans.trans (reparentChildren_noNewWaiters _ _) (wakeParent_noNewWaiters _ _))))

theorem interrupt_wakeful : Wakeful interrupt := by
  intro process used sleeps
  unfold interrupt at used sleeps
  split at sleeps
  · exact absurd (sleepsOn_iff.mp sleeps).1 nofun
  · rename_i resting
    rw [if_neg resting] at used
    exact ⟨used, sleeps⟩

variable (senderHandle : Nat)

theorem sendSignal_noNewWaiters (targetHandle signal : Nat) :
    Keeps NoNewWaiters (sendSignal senderHandle targetHandle signal) := by
  refine keeps_failWhen_bind fun _ => keeps_state_bind fun table =>
    keeps_lift_bind fun senderSlot => keeps_bind (keeps_lift _)
    fun targetSlot => keeps_failWhen_bind fun _ =>
    keeps_failWhen_bind fun _ => keeps_bind (keeps_change fun before => ?_)
    fun _ => ?_
  · exact noNewWaiters_congr (@noNewWaiters_modify (Process.addPending signal)
      (wakeful_of_same (fun _ => rfl) (fun _ => rfl) (fun _ => rfl) fun _ => rfl) before targetSlot) rfl
  · refine keeps_ite (exit_noNewWaiters _ _) (keeps_ite ?_ (keeps_ite ?_ ?_))
    · exact keeps_state_bind fun _ => keeps_lift_bind fun _ =>
        keeps_failWhen_bind fun _ => keeps_change fun before =>
          noNewWaiters_modify (wakeful_of_awake fun _ => by simp) before _
    · exact keeps_state_bind fun _ => keeps_lift_bind fun _ =>
        keeps_failWhen_bind fun _ => keeps_change fun before =>
          noNewWaiters_modify (wakeful_of_awake fun _ => by simp) before _
    · exact keeps_change fun before => noNewWaiters_modify interrupt_wakeful before _

theorem sendGroupSignal_noNewWaiters (group signal : Nat) :
    Keeps NoNewWaiters (sendGroupSignal senderHandle group signal) := by
  have each (targets : List Nat) :
      Keeps NoNewWaiters (signalEach senderHandle signal targets) := by
    induction targets with
    | nil => exact keeps_ok _
    | cons handle rest hypothesis =>
      exact keeps_bind (sendSignal_noNewWaiters _ _ _) fun _ => hypothesis
  exact keeps_state_bind fun table => keeps_bind (each _) fun _ =>
    keeps_pure _

variable (terminal : Terminal) (processes : Table)

theorem applyInterruptDefault_noNewWaiters :
    NoNewWaiters processes (applyInterruptDefault terminal processes) := by
  refine foldl_keeps (fun before slot => ?_) _ _
  dsimp only
  split
  · exact refl _
  · exact exit_noNewWaiters _ _ before

/-- Nobody came to wait, and whoever still waits was not passed over by new input. -/
structure Heard (before after : Console) : Prop where
  waiters : NoNewWaiters before.processes after.processes
  input : (after.terminal.input = before.terminal.input ∧
      after.terminal.eofEvents = before.terminal.eofEvents) ∨
    ∀ slot, ¬ WaitsForInput after.processes slot

theorem heard_of_sameTerminal {before : Console} {terminal : Terminal}
    (input : terminal.input = before.terminal.input)
    (marks : terminal.eofEvents = before.terminal.eofEvents) :
    Heard before { before with terminal } :=
  ⟨refl _, Or.inl ⟨input, marks⟩⟩

/-- After the readers were woken nobody waits. -/
theorem wakeReaders_heard (before console : Console) (same : console.processes = before.processes) :
    Heard before (Console.wakeReaders console).2 := by
  refine ⟨fun slot waits => ?_, .inr fun slot waits => ?_⟩
  · exact same ▸ (wakeMatching_asleep waits).1
  · exact (wakeMatching_asleep waits).2 ⟨rfl, rfl⟩

variable (console : Console)

theorem commitLine_heard (includeNewline : Bool) :
    Heard console (console.commitLine includeNewline).2 := by
  unfold Console.commitLine
  dsimp only
  split
  · exact heard_of_sameTerminal rfl rfl
  · exact wakeReaders_heard console _ rfl

variable (byte : UInt8)

theorem feedCanonical_heard : Heard console (console.feedCanonical byte).2 := by
  unfold Console.feedCanonical
  dsimp only
  split
  · split
    · exact heard_of_sameTerminal rfl rfl
    · exact heard_of_sameTerminal rfl rfl
  split
  · exact heard_of_sameTerminal rfl rfl
  split
  · split
    · exact wakeReaders_heard console _ rfl
    · exact commitLine_heard console false
  split
  · exact commitLine_heard console true
  split
  · split
    · exact heard_of_sameTerminal rfl rfl
    · exact heard_of_sameTerminal rfl rfl
  · exact heard_of_sameTerminal rfl rfl

theorem signalForeground_noNewWaiters (signal : Nat) :
    NoNewWaiters processes (terminal.signalForeground processes signal).2 := by
  have sent := sendGroupSignal_noNewWaiters terminal.controllerHandle terminal.foregroundProcessGroup
    signal processes
  unfold Terminal.signalForeground
  split
  · exact refl _
  · split <;> rename_i outcome <;> rwa [outcome] at sent

theorem feedSignal_heard (isSuspend : Bool) : Heard console (console.feedSignal isSuspend).2 := by
  refine ⟨?_, .inl ⟨rfl, rfl⟩⟩
  have sent := signalForeground_noNewWaiters { console.terminal with edit := [] } console.processes
  cases isSuspend with
  | true => exact sent 19
  | false =>
    simp only [Console.feedSignal, Bool.false_eq_true, if_false, true_and]
    split
    · exact Trans.trans (sent 2) (applyInterruptDefault_noNewWaiters _ _)
    · exact sent 2

theorem feed_heard : Heard console (console.feed byte).2 := by
  have filtered (ignoreNextLf : Bool) (after : Console)
      (heard : Heard { console with terminal := { console.terminal with ignoreNextLf } } after) :
      Heard console after := ⟨heard.waiters, heard.input⟩
  unfold Console.feed
  dsimp only
  split
  · exact heard_of_sameTerminal rfl rfl
  split
  · exact filtered _ _ (feedSignal_heard _ _)
  split
  · exact filtered _ _ (feedCanonical_heard _ _)
  split
  · exact heard_of_sameTerminal rfl rfl
  · exact wakeReaders_heard console _ rfl

end ZigOs.RuntimeTty
